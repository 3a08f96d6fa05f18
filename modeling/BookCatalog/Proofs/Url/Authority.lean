import BookCatalog.Proofs.Url.Host
import Mathlib.Data.List.TakeDrop
import Mathlib.Data.List.TakeWhile

/-!
# The part with user and host

What an address of the web says about user, password, host and port stands in front of the first
slash, question mark or number sign, and is read without a look at what follows.

* `Url.parseAuthority_append` — reading it and passing on what follows;
* `Url.parsePage_eq`, `Url.web_of_parseAfterScheme` — what it says of a page, behind which the path
  is read, and which texts name pages;
* `Url.parseAuthority_of_control` — it does not end with the space or with a control character.
-/

namespace BookCatalog.Url

/-- No character of a text ends the part with user and host. -/
def IsZone (cs : List Char) : Prop := ∀ c ∈ cs, endsAuthority true c = false

/-- A text is over, or it starts with a character that ends the part with user and host. -/
def EndsZone (cs : List Char) : Prop := ∀ c, cs.head? = some c → endsAuthority true c = true

variable {zone rest : List Char}

theorem takeWhile_zone (hzone : IsZone zone) (hrest : EndsZone rest) :
    (zone ++ rest).takeWhile (!endsAuthority true ·) = zone := by
  rw [List.takeWhile_append_of_pos fun c hc => by simp [hzone c hc]]
  cases rest with
  | nil => exact List.append_nil zone
  | cons c cs => rw [List.takeWhile_cons_of_neg (by simp [hrest c rfl]), List.append_nil]

theorem dropWhile_zone (hzone : IsZone zone) (hrest : EndsZone rest) :
    (zone ++ rest).dropWhile (!endsAuthority true ·) = rest := by
  rw [List.dropWhile_append_of_pos fun c hc => by simp [hzone c hc]]
  cases rest with
  | nil => rfl
  | cons c cs => exact List.dropWhile_cons_of_neg (by simp [hrest c rfl])

theorem endsZone_nil : EndsZone [] := fun _ h => nomatch h

theorem cutUser_eq (hzone : IsZone zone) (hrest : EndsZone rest) :
    cutUser true (zone ++ rest) =
      match zone.reverse.span (· ≠ '@') with
      | (_, []) => (none, zone ++ rest)
      | (host, _ :: user) => (some user.reverse, host.reverse ++ rest) := by
  show (match ((zone ++ rest).takeWhile (!endsAuthority true ·)).reverse.span (· ≠ '@') with
      | (_, []) => (none, zone ++ rest)
      | (host, _ :: user) => (some user.reverse,
          host.reverse ++ (zone ++ rest).dropWhile (!endsAuthority true ·))) = _
  rw [takeWhile_zone hzone hrest, dropWhile_zone hzone hrest]

theorem cutUser_append (hzone : IsZone zone) (hrest : EndsZone rest) :
    cutUser true (zone ++ rest) = ((cutUser true zone).1, (cutUser true zone).2 ++ rest) := by
  have halone := cutUser_eq hzone endsZone_nil
  rw [List.append_nil] at halone
  rw [cutUser_eq hzone hrest, halone]
  split <;> simp

theorem cutHost_append (inBrackets : Bool) (hzone : IsZone zone) (hrest : EndsZone rest) :
    cutHost true inBrackets (zone ++ rest) =
      ((cutHost true inBrackets zone).1, (cutHost true inBrackets zone).2 ++ rest) := by
  induction zone generalizing inBrackets with
  | nil =>
    cases rest with
    | nil => rfl
    | cons c cs => exact if_pos (by simp [hrest c rfl])
  | cons c cs ih =>
    have hcs : IsZone cs := fun d hd => hzone d (List.mem_cons_of_mem c hd)
    simp only [List.cons_append, cutHost, ih _ hcs]
    split <;> rfl

theorem fst_append_snd_cutHost (inBrackets : Bool) (cs : List Char) :
    (cutHost true inBrackets cs).1 ++ (cutHost true inBrackets cs).2 = cs := by
  induction cs generalizing inBrackets with
  | nil => rfl
  | cons c cs ih =>
    unfold cutHost
    split
    · rfl
    · exact congrArg (c :: ·) (ih _)

/-- Behind the host stands nothing, or a colon. -/
theorem snd_cutHost (inBrackets : Bool) (hzone : IsZone zone) :
    (cutHost true inBrackets zone).2 = [] ∨
      ∃ port, (cutHost true inBrackets zone).2 = ':' :: port := by
  induction zone generalizing inBrackets with
  | nil => exact .inl rfl
  | cons c cs ih =>
    have hcs : IsZone cs := fun d hd => hzone d (List.mem_cons_of_mem c hd)
    unfold cutHost
    split
    · next h =>
      rw [hzone c List.mem_cons_self] at h
      simp at h
      exact .inr ⟨cs, by simp [h.1]⟩
    · exact ih _ hcs

theorem endsAuthority_eq (c : Char) :
    endsAuthority true c = (isSlash c || c = '?' || c = '#') := by
  unfold endsAuthority isSlash
  rw [Bool.true_and]
  ac_rfl

theorem digits_append (port : List Char) (hrest : EndsZone rest) :
    (port ++ rest).takeWhile Char.isDigit = port.takeWhile Char.isDigit ∧
      (port ++ rest).dropWhile Char.isDigit = port.dropWhile Char.isDigit ++ rest := by
  have hdigit : ∀ c, endsAuthority true c = true → c.isDigit = false := by
    intro c hc
    simp only [endsAuthority, Bool.true_and, Bool.or_eq_true, decide_eq_true_eq] at hc
    rcases hc with ((rfl | rfl) | rfl) | rfl <;> decide
  cases rest with
  | nil => simp
  | cons d ds =>
    have hd := hdigit d (hrest d rfl)
    induction port with
    | nil => simp [hd]
    | cons c port ih =>
      by_cases hc : c.isDigit = true
      · simp only [List.cons_append, List.takeWhile_cons_of_pos hc, List.dropWhile_cons_of_pos hc,
          ih, and_self]
      · simp only [List.cons_append, List.takeWhile_cons_of_neg hc, List.dropWhile_cons_of_neg hc,
          and_self]

theorem cutPort_append {port : List Char} (hport : IsZone port) (hrest : EndsZone rest) :
    cutPort (':' :: port ++ rest) = (cutPort (':' :: port)).map fun p => (p.1, rest) := by
  obtain ⟨htake, hdrop⟩ := digits_append port hrest
  simp only [List.cons_append, cutPort, htake, hdrop]
  cases hafter : port.dropWhile Char.isDigit with
  | nil =>
    cases rest with
    | nil =>
      simp only [List.append_nil]
      split <;> rfl
    | cons c cs =>
      have hc := hrest c rfl
      rw [endsAuthority_eq] at hc
      simp only [List.nil_append, hc]
      split <;> rfl
  | cons d ds =>
    have hd := hport d (List.dropWhile_subset _ (by rw [hafter]; exact List.mem_cons_self))
    rw [endsAuthority_eq] at hd
    simp [hd, Except.map]

theorem cutPort_snd_cutHost (hzone : IsZone zone) (hrest : EndsZone rest) :
    cutPort ((cutHost true false zone).2 ++ rest) =
      (cutPort (cutHost true false zone).2).map fun p => (p.1, rest) := by
  have hmem : IsZone (cutHost true false zone).2 := by
    intro c hc
    apply hzone
    rw [← fst_append_snd_cutHost false zone]
    exact List.mem_append_right _ hc
  obtain hnil | ⟨port, hport⟩ := snd_cutHost false hzone
  · rw [hnil, List.nil_append]
    cases rest with
    | nil => rfl
    | cons c cs =>
      unfold cutPort
      split
      · next h =>
        cases h
        exact absurd (hrest ':' rfl) (by decide)
      · rfl
  · rw [hport] at hmem ⊢
    exact cutPort_append (fun c hc => hmem c (List.mem_cons_of_mem _ hc)) hrest

theorem mem_snd_cutUser {c : Char} (hzone : IsZone zone) (h : c ∈ (cutUser true zone).2) :
    c ∈ zone := by
  have halone := cutUser_eq hzone endsZone_nil
  rw [List.append_nil] at halone
  rw [halone, List.span_eq_takeWhile_dropWhile] at h
  split at h
  · exact h
  · next hspan =>
    rw [Prod.mk.injEq] at hspan
    rw [List.append_nil, List.mem_reverse, ← hspan.1] at h
    exact List.mem_reverse.1 (List.takeWhile_subset _ h)

/-- **The part with user and host** is read on its own; what follows is passed on. -/
theorem parseAuthority_append (hzone : IsZone zone) (hrest : EndsZone rest) :
    parseAuthority (zone ++ rest) = (parseAuthority zone).map fun p =>
      (p.1, p.2.1, p.2.2.1, p.2.2.2.1, rest) := by
  have hhost : IsZone (cutUser true zone).2 := fun c hc => hzone c (mem_snd_cutUser hzone hc)
  unfold parseAuthority
  rw [cutUser_append hzone hrest]
  dsimp only
  rw [cutHost_append false hhost hrest]
  dsimp only
  rw [cutPort_snd_cutHost hhost hrest]
  split
  · rfl
  · cases parseHost (cutHost true false (cutUser true zone).2).1 with
    | error e => rfl
    | ok host => cases cutPort (cutHost true false (cutUser true zone).2).2 <;> rfl

/-- A page with user, password, host and port as they were read, and no path yet. -/
def ofParts (secure : Bool) (parts : List Char × List Char × Host × Option Nat × List Char) : Url :=
  { secure := secure, user := parts.1, password := parts.2.1, host := parts.2.2.1
    port := parts.2.2.2.1.filter (· ≠ usualPort secure), path := [], query := none
    fragment := none }

theorem parsePage_eq (secure : Bool) (cs : List Char) :
    parsePage secure cs = (parseAuthority cs).map fun parts =>
      (ofParts secure parts).withPath [] (dropSlash parts.2.2.2.2) := by
  unfold parsePage
  cases parseAuthority cs <;> rfl

theorem web_of_parseAfterScheme {scheme rest : List Char} {page : Url}
    (h : parseAfterScheme scheme rest = .ok (.page page)) :
    ∃ secure, style scheme = .web secure ∧
      parsePage secure (rest.dropWhile isSlash) = .ok page := by
  unfold parseAfterScheme at h
  cases hstyle : style scheme with
  | web secure =>
    rw [hstyle] at h
    cases hpage : parsePage secure (rest.dropWhile isSlash) with
    | error e => simp [Except.map, hpage] at h
    | ok url =>
      simp only [Except.map, hpage, Except.ok.injEq, Target.page.injEq] at h
      exact ⟨secure, rfl, h ▸ hpage⟩
  | special =>
    rw [hstyle] at h
    cases hauth : parseAuthority (rest.dropWhile isSlash) <;> simp [Except.map, hauth] at h
  | file =>
    rw [hstyle] at h
    cases hfile : checkFile rest <;> simp [Except.map, hfile] at h
  | plain =>
    rw [hstyle] at h
    simp only at h
    split at h
    · next authority =>
      cases hplain : checkPlainAuthority authority <;> simp [Except.map, hplain] at h
    · simp at h

/-! ## Control characters -/

theorem exists_snd_cutUser_concat {c : Char} (hzone : IsZone (zone ++ [c])) (hc : c ≠ '@') :
    ∃ text, (cutUser true (zone ++ [c])).2 = text ++ [c] := by
  have halone := cutUser_eq hzone endsZone_nil
  rw [List.append_nil] at halone
  rw [halone, List.reverse_append, List.reverse_singleton, List.singleton_append,
    List.span_eq_takeWhile_dropWhile, List.takeWhile_cons_of_pos (by simpa using hc)]
  split
  · exact ⟨zone, rfl⟩
  · next hspan =>
    rw [Prod.mk.injEq] at hspan
    rw [← hspan.1, List.reverse_cons, List.append_nil]
    exact ⟨_, rfl⟩

/-- A port with another character than a digit is none. -/
theorem cutPort_of_mem {port : List Char} {c : Char} (hport : IsZone port) (hmem : c ∈ port)
    (hc : c.isDigit = false) : cutPort (':' :: port) = .error .badPort := by
  unfold cutPort
  dsimp only
  cases hafter : port.dropWhile Char.isDigit with
  | nil =>
    have hdigit := List.dropWhile_eq_nil_iff.1 hafter c hmem
    rw [hc] at hdigit
    cases hdigit
  | cons d ds =>
    have hd := hport d (List.dropWhile_subset _ (by rw [hafter]; exact List.mem_cons_self))
    rw [endsAuthority_eq] at hd
    simp only [hafter, hd, Bool.not_false, Bool.or_true, if_true]

/-- **No part with user and host** ends with the space or with a control character. -/
theorem parseAuthority_of_control {c : Char} (hzone : IsZone (zone ++ [c])) (hc : c.toNat ≤ 0x20) :
    ∃ e, parseAuthority (zone ++ [c]) = .error e := by
  have hat : c ≠ '@' := of_control (P := fun c => c ≠ '@') (by decide) hc
  have hcolon : c ≠ ':' := of_control (P := fun c => c ≠ ':') (by decide) hc
  have hdigit : c.isDigit = false := of_control (P := fun c => c.isDigit = false) (by decide) hc
  obtain ⟨text, htext⟩ := exists_snd_cutUser_concat hzone hat
  have hmem : IsZone (text ++ [c]) := by
    intro d hd
    rw [← htext] at hd
    exact hzone d (mem_snd_cutUser hzone hd)
  have hparts := fst_append_snd_cutHost false (text ++ [c])
  unfold parseAuthority
  dsimp only
  rw [htext]
  generalize (cutHost true false (text ++ [c])).1 = host at hparts ⊢
  split
  · exact ⟨_, rfl⟩
  · obtain hnil | ⟨port, hport⟩ := snd_cutHost false hmem
    · -- the host ends with the character
      rw [hnil, List.append_nil] at hparts
      obtain ⟨e, he⟩ := parseHost_of_control text hc
      rw [hparts, he]
      exact ⟨e, rfl⟩
    · -- the port ends with the character
      rw [hport] at hparts ⊢
      have hlast : (host ++ ':' :: port).getLast? = some c := by
        rw [hparts, List.getLast?_concat]
      rw [List.getLast?_append, List.getLast?_cons, Option.some_or, Option.some.injEq] at hlast
      have hcport : c ∈ port := by
        cases hp : port.getLast? with
        | none =>
          rw [hp] at hlast
          exact absurd hlast.symm hcolon
        | some d =>
          rw [hp, Option.getD_some] at hlast
          exact List.mem_of_getLast? (hlast ▸ hp)
      have hzone : IsZone port := by
        intro d hd
        apply hmem
        rw [← hparts]
        exact List.mem_append_right host (List.mem_cons_of_mem ':' hd)
      rw [cutPort_of_mem hzone hcport hdigit]
      cases parseHost host with
      | error e => exact ⟨e, rfl⟩
      | ok _ => exact ⟨_, rfl⟩

end BookCatalog.Url
