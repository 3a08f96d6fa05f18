import BookCatalog.Proofs.Text.OneLine
import BookCatalog.Proofs.Url.Authority
import BookCatalog.Proofs.Url.Path

/-!
# Addresses of one line

An address that was read is written in one line, whatever text it was read from: in its parts all
but visible characters are encoded, and a host with a line end is none.

* `Url.newline_not_mem_host` — hosts;
* `Url.IsOneLine` — no part of an address holds a line end, and `Url.isOneLine_toText`;
* `Url.isOneLine_of_parse`, `Url.IsOneLine.resolve` — addresses that were read;
* `Url.IsOneLine.addPairs` — named values that are added.
-/

namespace BookCatalog

/-! ## Encoded parts -/

theorem Percent.newline_not_mem_encode {keep : Char → Bool} (hkeep : keep '\n' = false)
    (cs : List Char) : '\n' ∉ encode keep cs := by
  intro hmem
  have hkept := (mem_of_mem_encode (by decide) (by decide) hmem).2
  rw [hkeep] at hkept
  cases hkept

theorem Form.newline_not_mem_encode (pairs : List (String × String)) : '\n' ∉ encode pairs := by
  have hword : ∀ cs, '\n' ∉ encodeWord cs := not_mem_encodeWord rfl (by decide) (by decide)
  intro hmem
  rcases Text.of_mem_joined hmem with hmem | ⟨pair, hpair, hmem⟩
  · exact absurd hmem (by decide)
  · obtain ⟨p, -, rfl⟩ := List.mem_map.1 hpair
    rw [encodePair, List.mem_append, List.mem_cons] at hmem
    rcases hmem with hmem | hmem | hmem
    · exact hword _ hmem
    · exact absurd hmem (by decide)
    · exact hword _ hmem

namespace Url

/-! ## Hosts -/

namespace Domain

theorem newline_ne_ofNat {n : Nat} (h : n ≠ 10) : '\n' ≠ Char.ofNat n := by
  have hcode : (Char.ofNat n).toNat = n ∨ (Char.ofNat n).toNat = 0 := by
    by_cases hvalid : n.isValidChar
    · rw [Char.ofNat, dif_pos hvalid]
      exact .inl rfl
    · rw [Char.ofNat, dif_neg hvalid]
      exact .inr rfl
  intro heq
  rw [← heq] at hcode
  rcases hcode with hcode | hcode
  · exact h hcode.symm
  · exact absurd hcode (by decide)

namespace Punycode

theorem newline_ne_digitChar (d : Nat) : '\n' ≠ digitChar d := by
  have ha : 'a'.toNat = 97 := rfl
  have hzero : '0'.toNat = 48 := rfl
  unfold digitChar
  split
  · exact newline_ne_ofNat (by omega)
  · exact newline_ne_ofNat (by omega)

theorem newline_not_mem_writeDistance (bias place distance : Nat) :
    '\n' ∉ writeDistance bias place distance := by
  fun_induction writeDistance bias place distance with
  | case1 => simpa using newline_ne_digitChar _
  | case2 place distance t h ih => exact List.not_mem_cons_of_ne_of_not_mem (newline_ne_digitChar _) ih

theorem newline_not_mem_take {basic n : Nat} {p : Progress} (h : '\n' ∉ p.written) (c : Char) :
    '\n' ∉ (p.take basic n c).written := by
  unfold Progress.take
  split
  · exact h
  · split
    · exact List.not_mem_append h (newline_not_mem_writeDistance _ _ _)
    · exact h

theorem newline_not_mem_foldl {basic n : Nat} {p : Progress} (h : '\n' ∉ p.written)
    (label : List Char) : '\n' ∉ (label.foldl (Progress.take basic n) p).written := by
  induction label generalizing p with
  | nil => exact h
  | cons c cs ih => exact ih (newline_not_mem_take h c)

theorem newline_not_mem_writeNumbers (label : List Char) (basic : Nat) (numbers : List Nat)
    (reached : Nat) {p : Progress} (h : '\n' ∉ p.written) :
    '\n' ∉ (writeNumbers label basic numbers reached p).written := by
  induction numbers generalizing reached p with
  | nil => exact h
  | cons n ns ih =>
    have hstart : '\n' ∉ { p with distance := p.distance + (n - reached) * (p.count + 1) }.written :=
      h
    exact ih (n + 1) (newline_not_mem_foldl hstart label)

theorem newline_not_mem_encode {label : List Char} (h : '\n' ∉ label) : '\n' ∉ encode label := by
  have hbasic : '\n' ∉ label.filter (·.toNat < 0x80) := fun hmem => h (List.mem_filter.1 hmem).1
  have hhyphen : '\n' ∉ if label.filter (·.toNat < 0x80) = [] then [] else ['-'] := by
    split <;> decide
  exact List.not_mem_append (List.not_mem_append hbasic hhyphen)
    (newline_not_mem_writeNumbers label _ _ _ List.not_mem_nil)

end Punycode

theorem newline_not_mem_of? {cs : List Char} {label : Label} (h : Label.of? cs = some label) :
    '\n' ∉ label.sent := by
  unfold Label.of? at h
  split at h
  · cases h
  · next hallowed =>
    have hnone : '\n' ∉ cs := fun hmem => hallowed (List.any_eq_true.2 ⟨'\n', hmem, rfl⟩)
    split at h
    · obtain ⟨shown, -, rfl⟩ := Option.map_eq_some_iff.1 h
      exact hnone
    · split at h
      · cases h
        exact hnone
      · split at h
        · cases h
          exact List.not_mem_append (by decide) (Punycode.newline_not_mem_encode hnone)
        · cases h

/-- **A name that is sent** holds no line end. -/
theorem newline_not_mem_toAscii? {name sent : List Char} (h : toAscii? name = some sent) :
    '\n' ∉ sent := by
  obtain ⟨mapped, -, h⟩ := Option.bind_eq_some_iff.1 h
  obtain ⟨labels, hlabels, h⟩ := Option.bind_eq_some_iff.1 h
  dsimp only at h
  split at h
  · cases h
  · cases h
    intro hmem
    rcases Text.of_mem_joined hmem with hmem | ⟨sent, hsent, hmem⟩
    · exact absurd hmem (by decide)
    · obtain ⟨label, hlabel, rfl⟩ := List.mem_map.1 hsent
      obtain ⟨piece, -, hpiece⟩ := Utf8.exists_of_mem_mapM hlabels hlabel
      exact newline_not_mem_of? hpiece hmem

end Domain

theorem newline_not_mem_writeIpv4 (address : Nat) : '\n' ∉ writeIpv4 address := by
  intro hmem
  rcases Text.of_mem_joined hmem with hmem | ⟨digits, hdigits, hmem⟩
  · exact absurd hmem (by decide)
  · obtain ⟨place, -, rfl⟩ := List.mem_map.1 hdigits
    exact Text.newline_not_mem_toDigits (by decide) (by decide) _ hmem

theorem newline_not_mem_writePieces (pieces : List Nat) : '\n' ∉ writePieces pieces := by
  intro hmem
  rcases Text.of_mem_joined hmem with hmem | ⟨digits, hdigits, hmem⟩
  · exact absurd hmem (by decide)
  · obtain ⟨piece, -, rfl⟩ := List.mem_map.1 hdigits
    exact Text.newline_not_mem_toDigits (by decide) (by decide) _ hmem

theorem newline_not_mem_writeIpv6 (pieces : List Nat) : '\n' ∉ writeIpv6 pieces := by
  unfold writeIpv6
  split
  · exact newline_not_mem_writePieces _
  · exact List.not_mem_append (List.not_mem_append (newline_not_mem_writePieces _) (by decide))
      (newline_not_mem_writePieces _)

/-- **A host** is written without a line end. -/
theorem newline_not_mem_host {cs : List Char} {host : Host} (h : parseHost cs = .ok host) :
    '\n' ∉ host.write := by
  unfold parseHost at h
  split at h
  · unfold bracketed at h
    split at h
    · cases h
    · split at h
      · cases h
        simpa [Host.write] using newline_not_mem_writeIpv6 _
      · cases h
  · split at h
    · cases h
    · cases h
    · next name hname =>
      obtain ⟨mapped, -, hsent⟩ := Option.bind_eq_some_iff.1 hname
      split at h
      · split at h
        · cases h
          exact newline_not_mem_writeIpv4 _
        · cases h
      · cases h
        exact Domain.newline_not_mem_toAscii? hsent

/-! ## Addresses -/

structure IsOneLine (url : Url) : Prop where
  user : '\n' ∉ url.user
  password : '\n' ∉ url.password
  host : '\n' ∉ url.host.write
  path : ∀ segment ∈ url.path, '\n' ∉ segment
  query : ∀ query ∈ url.query, '\n' ∉ query
  fragment : ∀ fragment ∈ url.fragment, '\n' ∉ fragment

/-- **An address of one line** is written in one. -/
theorem isOneLine_toText {url : Url} (h : url.IsOneLine) : Text.IsOneLine url.toText := by
  have hscheme : '\n' ∉ schemeName url.secure := by cases url.secure <;> decide
  have huser : '\n' ∉ url.writeUser := by
    unfold writeUser
    split
    · exact List.not_mem_nil
    · split <;> simp [h.user, h.password]
  have hport : '\n' ∉ behind ':' (url.port.map Decimal.digits) := by
    cases url.port with
    | none => exact List.not_mem_nil
    | some port =>
      have hdigits : '\n' ∉ Decimal.digits port :=
        Text.newline_not_mem_toDigits (by decide) (by decide) port
      simpa [behind] using hdigits
  have hpath : '\n' ∉ writePath url.path := by
    simpa [writePath] using h.path
  have hquery : '\n' ∉ behind '?' url.query := by
    cases hq : url.query with
    | none => exact List.not_mem_nil
    | some query => simpa [behind] using h.query query hq
  have hfragment : '\n' ∉ behind '#' url.fragment := by
    cases hf : url.fragment with
    | none => exact List.not_mem_nil
    | some fragment => simpa [behind] using h.fragment fragment hf
  rw [Text.IsOneLine, toText, String.toList_ofList, write]
  simp [hscheme, huser, h.host, hport, hpath, hquery, hfragment]

/-! ## Addresses that are read -/

theorem newline_not_mem_segments {cs segment : List Char} (h : segment ∈ segments cs) :
    '\n' ∉ segment := by
  obtain ⟨piece, -, rfl⟩ := List.mem_map.1 h
  exact Percent.newline_not_mem_encode (by decide) piece

theorem newline_not_mem_some_encode {keep : Char → Bool} (hkeep : keep '\n' = false)
    (cs : List Char) : ∀ part ∈ some (Percent.encode keep cs), '\n' ∉ part := by
  intro part hpart
  obtain rfl := Option.mem_some.1 hpart
  exact Percent.newline_not_mem_encode hkeep cs

theorem newline_not_mem_parseEnd (cs : List Char) :
    (∀ query ∈ (parseEnd cs).1, '\n' ∉ query) ∧
      ∀ fragment ∈ (parseEnd cs).2, '\n' ∉ fragment := by
  have hnone : ∀ part ∈ (none : Option (List Char)), '\n' ∉ part := fun _ h => nomatch h
  unfold parseEnd
  dsimp only
  split
  · refine ⟨newline_not_mem_some_encode (by decide) _, ?_⟩
    split
    · exact newline_not_mem_some_encode (by decide) _
    · exact hnone
  · refine ⟨hnone, ?_⟩
    split
    · exact newline_not_mem_some_encode (by decide) _
    · exact hnone

theorem IsOneLine.withPath {url : Url} (h : url.IsOneLine) {start : List (List Char)}
    (hstart : ∀ segment ∈ start, '\n' ∉ segment) (cs : List Char) :
    (url.withPath start cs).IsOneLine where
  user := h.user
  password := h.password
  host := h.host
  path segment hsegment := by
    rcases mem_follow hsegment with rfl | hsegment | hsegment
    · exact List.not_mem_nil
    · exact hstart segment hsegment
    · exact newline_not_mem_segments hsegment
  query := (newline_not_mem_parseEnd _).1
  fragment := (newline_not_mem_parseEnd _).2

theorem isOneLine_ofParts {cs : List Char}
    {parts : List Char × List Char × Host × Option Nat × List Char}
    (h : parseAuthority cs = .ok parts) (secure : Bool) : (ofParts secure parts).IsOneLine := by
  have hnone : ∀ part ∈ (none : Option (List Char)), '\n' ∉ part := fun _ h => nomatch h
  unfold parseAuthority at h
  dsimp only at h
  split at h
  · cases h
  · generalize cutHost true false (cutUser true cs).2 = cut at h
    cases hhost : parseHost cut.1 with
    | error e =>
      rw [hhost] at h
      cases h
    | ok host =>
      rw [hhost] at h
      cases hport : cutPort cut.2 with
      | error e =>
        rw [hport] at h
        cases h
      | ok after =>
        rw [hport] at h
        cases h
        exact {
          user := Percent.newline_not_mem_encode (by decide) _
          password := Percent.newline_not_mem_encode (by decide) _
          host := newline_not_mem_host hhost
          path := List.forall_mem_nil _
          query := hnone
          fragment := hnone }

/-- **Pages that are read** hold no line end. -/
theorem isOneLine_of_parsePage {secure : Bool} {cs : List Char} {page : Url}
    (h : parsePage secure cs = .ok page) : page.IsOneLine := by
  rw [parsePage_eq] at h
  cases hparts : parseAuthority cs with
  | error e =>
    rw [hparts] at h
    cases h
  | ok parts =>
    rw [hparts] at h
    cases h
    exact (isOneLine_ofParts hparts secure).withPath (List.forall_mem_nil _) _

theorem isOneLine_of_parseAfterScheme {scheme rest : List Char} {page : Url}
    (h : parseAfterScheme scheme rest = .ok (.page page)) : page.IsOneLine := by
  obtain ⟨secure, -, hpage⟩ := web_of_parseAfterScheme h
  exact isOneLine_of_parsePage hpage

theorem isOneLine_of_parse {text : String} {page : Url} (h : parse text = .ok (.page page)) :
    page.IsOneLine := by
  unfold parse at h
  split at h
  · exact isOneLine_of_parseAfterScheme h
  · cases h

theorem IsOneLine.resolveRelative {base : Url} (h : base.IsOneLine) {cs : List Char} {page : Url}
    (hpage : base.resolveRelative cs = .ok page) : page.IsOneLine := by
  unfold Url.resolveRelative at hpage
  split at hpage
  · cases hpage
    exact { h with fragment := fun _ h => nomatch h }
  · next rest =>
    cases hpage
    exact { h with
      query := (newline_not_mem_parseEnd ('?' :: rest)).1
      fragment := (newline_not_mem_parseEnd ('?' :: rest)).2 }
  · cases hpage
    exact { h with fragment := (newline_not_mem_parseEnd _).2 }
  · split at hpage
    · split at hpage
      · split at hpage
        · exact isOneLine_of_parsePage hpage
        · cases hpage
          exact h.withPath (List.forall_mem_nil _) _
      · cases hpage
        exact h.withPath (List.forall_mem_nil _) _
    · cases hpage
      exact h.withPath (fun segment hsegment => h.path segment (List.dropLast_subset _ hsegment)) _

/-- **Addresses that a page sends on to** hold no line end, whatever it says. -/
theorem IsOneLine.resolve {base : Url} (h : base.IsOneLine) {text : String} {page : Url}
    (hpage : base.resolve text = .ok (.page page)) : page.IsOneLine := by
  have hrelative : ∀ cs, (base.resolveRelative cs).map Target.page = .ok (.page page) →
      page.IsOneLine := by
    intro cs hmap
    cases hread : base.resolveRelative cs with
    | error e =>
      rw [hread] at hmap
      cases hmap
    | ok next =>
      rw [hread] at hmap
      cases hmap
      exact h.resolveRelative hread
  unfold Url.resolve at hpage
  split at hpage
  · exact hrelative _ hpage
  · split at hpage
    · exact hrelative _ hpage
    · exact isOneLine_of_parseAfterScheme hpage

/-! ## Addresses that are made -/

theorem IsOneLine.withoutUser {url : Url} (h : url.IsOneLine) : url.withoutUser.IsOneLine :=
  { h with
    user := List.not_mem_nil
    password := List.not_mem_nil }

/-- **Named values** that are added to an address add no line end. -/
theorem IsOneLine.addPairs {url : Url} (h : url.IsOneLine) (pairs : List (String × String)) :
    (url.addPairs pairs).IsOneLine := by
  have hadded := Form.newline_not_mem_encode pairs
  refine { h with query := fun query hquery => ?_ }
  obtain rfl := Option.mem_some.1 hquery
  split
  · exact hadded
  · exact hadded
  · next query _ hbefore =>
    exact List.not_mem_append (h.query query hbefore)
      (List.not_mem_cons_of_ne_of_not_mem (by decide) hadded)

end Url

end BookCatalog
