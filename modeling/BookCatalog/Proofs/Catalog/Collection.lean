import BookCatalog.Proofs.Catalog.Server
import BookCatalog.Proofs.Url.Path

/-!
# The collection below a base address

The address of all books is made of the text of the base address, but it is as if one segment had
been put behind the path of that address: how the base address is written, and how many slashes it
ends with, does not matter.

* `Url.exists_front_of_parse` — what is read in front of the end of a text does not depend on it;
* `Url.path_continued` — the path of a continued text is that of the text with one segment more;
* `Config.endpoint_of_plain` — the address of all books, for base addresses without query, fragment
  and backward slashes.
-/

namespace BookCatalog

namespace Url

/-! ## Texts that are continued -/

theorem relevant_append_cons {last : Char} {more : List Char} (hlast : 0x20 < last.toNat)
    (hmore : ∀ c ∈ more, 0x20 < c.toNat) (front : List Char) :
    relevant (front ++ last :: more) =
      (front.dropWhile (·.toNat ≤ 0x20)).filter (!isTabOrNewline ·) ++ last :: more := by
  have hvisible : ∀ c ∈ last :: more, 0x20 < c.toNat := List.forall_mem_cons.2 ⟨hlast, hmore⟩
  have hkept : (last :: more).filter (!isTabOrNewline ·) = last :: more := by
    refine List.filter_eq_self.2 fun c hc => ?_
    have hcode := hvisible c hc
    cases hline : isTabOrNewline c with
    | false => rfl
    | true =>
      simp only [isTabOrNewline, Bool.or_eq_true, decide_eq_true_eq] at hline
      rcases hline with (rfl | rfl) | rfl <;> exact absurd hcode (by decide)
  rw [relevant, Text.strip_append_cons (by simpa using hlast) front
    fun c hc => by simpa using hmore c hc, List.filter_append, hkept]

theorem scheme?_of_append_slashes {cs slashes scheme rest : List Char}
    (hslashes : ∀ c ∈ slashes, c = '/') (h : scheme? (cs ++ slashes) = some (scheme, rest)) :
    ∃ kept, rest = kept ++ slashes ∧
      ∀ more, scheme? (cs ++ more) = some (scheme, kept ++ more) := by
  obtain ⟨c, name, hcs, halpha, hall, rfl⟩ := scheme?_eq_some_iff.1 h
  have hcolon : ':' ∉ slashes := fun hmem => absurd (hslashes _ hmem) (by decide)
  obtain ⟨kept, rfl, rfl⟩ : ∃ kept, cs = c :: name ++ ':' :: kept ∧ rest = kept ++ slashes := by
    rcases List.append_eq_append_iff.1 hcs with ⟨behind, -, hend⟩ | ⟨behind, hfront, hend⟩
    · exact absurd (by rw [hend]; simp) hcolon
    · cases behind with
      | nil => exact absurd (by rw [← List.nil_append slashes, ← hend]; simp) hcolon
      | cons d kept =>
        obtain ⟨rfl, rfl⟩ := List.cons.inj hend
        exact ⟨kept, hfront, rfl⟩
  have hlong : ∀ more, c :: name ++ ':' :: kept ++ more = c :: name ++ ':' :: (kept ++ more) :=
    List.append_assoc (c :: name) (':' :: kept)
  exact ⟨kept, rfl, fun more => scheme?_eq_some_iff.2 ⟨c, name, hlong more, halpha, hall, rfl⟩⟩

theorem mem_of_mem_relevant {cs : List Char} {c : Char} (h : c ∈ relevant cs) : c ∈ cs := by
  obtain ⟨front, back, hcs, -⟩ := Text.exists_eq_of_strip (·.toNat ≤ 0x20) cs
  rw [hcs]
  exact List.mem_append_left back (List.mem_append_right front (List.mem_filter.1 h).1)

theorem colon_mem_of_parse {text : String} {target : Target} (h : parse text = .ok target) :
    ':' ∈ text.toList := by
  unfold parse at h
  cases hscheme : scheme? (relevant text.toList) with
  | none => simp [hscheme] at h
  | some found =>
    obtain ⟨c, name, hcs, -⟩ := scheme?_eq_some_iff.1 hscheme
    exact mem_of_mem_relevant (by rw [hcs]; simp)

/-- What a page has in front of its path is read without a look at the end of the text. -/
theorem exists_front_of_parsePage {secure : Bool} {text more : List Char} {page : Url}
    (hmore : EndsZone more) (h : parsePage secure (text ++ more) = .ok page) :
    ∃ front rest, rest <:+ text ∧ EndsZone rest ∧ ∀ more, EndsZone more →
      parsePage secure (text ++ more) = .ok (withPath front [] (dropSlash (rest ++ more))) := by
  obtain ⟨zone, rest, rfl, hzone, hrest⟩ := exists_zone text
  have hends : ∀ more, EndsZone more → EndsZone (rest ++ more) := by
    intro more hmore
    cases rest with
    | nil => exact hmore
    | cons c cs => exact fun d hd => hrest d hd
  have hpage : ∀ more, EndsZone more → parsePage secure (zone ++ rest ++ more) =
      (parseAuthority zone).map fun parts =>
        (ofParts secure parts).withPath [] (dropSlash (rest ++ more)) := by
    intro more hmore
    rw [List.append_assoc, parsePage_eq, parseAuthority_append hzone (hends more hmore)]
    cases parseAuthority zone <;> rfl
  cases hparts : parseAuthority zone with
  | error e =>
    rw [hpage more hmore, hparts] at h
    cases h
  | ok parts =>
    refine ⟨ofParts secure parts, rest, List.suffix_append zone rest, hrest, fun more hmore => ?_⟩
    rw [hpage more hmore, hparts]
    rfl

/-- **What is read in front of the end of a text**: of a page whose text ends with slashes, or with
none, all but the path stays when the text goes on in another way there. -/
theorem exists_front_of_parse {start slashes : List Char} {last : Char} {page : Url}
    (hlast : 0x20 < last.toNat) (hslashes : ∀ c ∈ slashes, c = '/')
    (h : parse (String.ofList (start ++ last :: slashes)) = .ok (.page page)) :
    ∃ front rest, EndsZone rest ∧ (rest ≠ [] → rest.getLast? = some last) ∧
      (∀ c ∈ rest, c ∈ start ∨ c = last) ∧
      ∀ more, EndsZone more → (∀ c ∈ more, 0x20 < c.toNat) →
        parse (String.ofList (start ++ last :: more)) =
          .ok (.page (withPath front [] (dropSlash (rest ++ more)))) := by
  have hvisible : ∀ c ∈ slashes, 0x20 < c.toNat := fun c hc => by
    rw [hslashes c hc]
    decide
  have hends : EndsZone slashes := fun c hc => by
    rw [hslashes c (List.mem_of_mem_head? hc)]
    rfl
  let whole := (start.dropWhile (·.toNat ≤ 0x20)).filter (!isTabOrNewline ·) ++ [last]
  have hrelevant : ∀ more, (∀ c ∈ more, 0x20 < c.toNat) →
      relevant (String.ofList (start ++ last :: more)).toList = whole ++ more := by
    intro more hmore
    rw [String.toList_ofList, relevant_append_cons hlast hmore, ← List.singleton_append,
      ← List.append_assoc]
  rw [parse, hrelevant slashes hvisible] at h
  cases hscheme : scheme? (whole ++ slashes) with
  | none => simp [hscheme] at h
  | some found =>
    obtain ⟨scheme, kept⟩ := found
    obtain ⟨kept, rfl, hscheme'⟩ := scheme?_of_append_slashes hslashes hscheme
    rw [hscheme] at h
    obtain ⟨secure, hstyle, hpage⟩ := web_of_parseAfterScheme h
    -- nothing but slashes behind the scheme would have given no host
    have hne : (kept.dropWhile isSlash).isEmpty = false := by
      refine eq_false_of_ne_true fun hempty => ?_
      have hnil : slashes.dropWhile isSlash = [] :=
        List.dropWhile_eq_nil_iff.2 fun c hc => by simp [isSlash, hslashes c hc]
      rw [List.dropWhile_append, if_pos hempty, hnil, parsePage_nil] at hpage
      cases hpage
    have hdrop : ∀ more, (kept ++ more).dropWhile isSlash = kept.dropWhile isSlash ++ more :=
      fun more => by rw [List.dropWhile_append, if_neg (by simp [hne])]
    rw [hdrop] at hpage
    obtain ⟨front, rest, hsuffix, hrest, hfront⟩ := exists_front_of_parsePage hends hpage
    obtain ⟨before, hwhole⟩ : rest <:+ whole := by
      obtain ⟨c, name, hcs, -⟩ := scheme?_eq_some_iff.1 (hscheme' [])
      rw [List.append_nil, List.append_nil] at hcs
      rw [hcs]
      exact (hsuffix.trans (List.dropWhile_suffix _)).trans
        ((List.suffix_cons ':' kept).trans (List.suffix_append _ _))
    refine ⟨front, rest, hrest, fun hsome => ?_, fun c hc => ?_, fun more hmore hcodes => ?_⟩
    · have hend : (before ++ rest).getLast? = some last := by
        rw [hwhole]
        exact List.getLast?_concat
      rwa [List.getLast?_append_of_ne_nil _ hsome] at hend
    · have hmem : c ∈ whole := hwhole ▸ List.mem_append_right before hc
      rcases List.mem_append.1 hmem with hmem | hmem
      · exact .inl (List.dropWhile_subset _ (List.mem_filter.1 hmem).1)
      · exact .inr (List.mem_singleton.1 hmem)
    · rw [parse, hrelevant more hcodes, hscheme' more]
      simp only [parseAfterScheme, hstyle, hdrop, hfront more hmore, Except.map]

/-! ## Paths that are continued -/

theorem withPath_of_not_mark {cs : List Char} (h : ∀ c ∈ cs, c ≠ '?' ∧ c ≠ '#') (url : Url)
    (start : List (List Char)) :
    url.withPath start cs =
      { url with path := follow start (segments cs), query := none, fragment := none } := by
  have hall : ∀ c ∈ cs, (!(decide (c = '?') || decide (c = '#'))) = true := fun c hc => by
    simp [h c hc]
  rw [withPath, cutPart, List.takeWhile_eq_self_iff.2 hall, List.dropWhile_eq_nil_iff.2 hall]
  rfl

theorem mem_of_mem_dropSlash {cs : List Char} {c : Char} (h : c ∈ dropSlash cs) : c ∈ cs := by
  unfold dropSlash at h
  split at h
  · split at h
    · exact List.mem_cons_of_mem _ h
    · exact h
  · exact h

/-- **The path of a continued text** is the path of the text with one segment more; an empty one
that dots leave at the end gives way. -/
theorem path_continued {cs segment : List Char} (hends : EndsZone cs)
    (hmarks : ∀ c ∈ cs, c ≠ '?' ∧ c ≠ '#') (hlast : ∀ c, cs.getLast? = some c → isSlash c = false)
    (hsegment : segments segment = [segment]) (hdot : isDot segment = false)
    (hdots : isDoubleDot segment = false) :
    follow [] (segments (dropSlash (cs ++ '/' :: segment))) =
      stem (follow [] (segments (dropSlash cs))) ++ [segment] := by
  cases cs with
  | nil =>
    have hroot : follow [] (segments (dropSlash [])) = [[]] := by decide
    have hslash : dropSlash ([] ++ '/' :: segment) = segment := rfl
    rw [hroot, hslash, hsegment]
    simp [follow, stem, hdot, hdots]
  | cons c cs =>
    have hslash : isSlash c = true := by
      have hend := hends c rfl
      have hmark := hmarks c List.mem_cons_self
      simpa [endsAuthority_eq, hmark] using hend
    rw [List.cons_append, dropSlash, dropSlash, if_pos hslash, if_pos hslash]
    obtain rfl | ⟨before, last, rfl⟩ := List.eq_nil_or_concat' cs
    · rw [hlast c rfl] at hslash
      cases hslash
    · obtain ⟨front, piece, hpieces, hpiece⟩ :=
        segments_concat (hlast last (by rw [← List.cons_append, List.getLast?_concat])) before
      rw [segments_append, hsegment, hpieces, List.append_assoc]
      exact follow_concat [] hpiece hdot hdots

/-- **A page whose text is continued**: without the slashes at its end the text names a page too,
with others at its end one as well, and with a segment behind it the first page and the path of the
second, with one segment more. -/
theorem exists_bare_of_parse {start slashes : List Char} {last : Char} {page : Url}
    (hlast : 0x20 < last.toNat) (hnoSlash : isSlash last = false)
    (hmarks : ∀ c ∈ start ++ [last], c ≠ '?' ∧ c ≠ '#') (hslashes : ∀ c ∈ slashes, c = '/')
    (segment : List Char) (hsegment : segments segment = [segment])
    (hdot : isDot segment = false) (hdots : isDoubleDot segment = false)
    (hchars : ∀ c ∈ segment, 0x20 < c.toNat ∧ c ≠ '?' ∧ c ≠ '#')
    (h : parse (String.ofList (start ++ last :: slashes)) = .ok (.page page)) :
    ∃ bare, parse (String.ofList (start ++ [last])) = .ok (.page bare) ∧ bare.path ≠ [] ∧
      (∀ s ∈ bare.path, '/' ∉ s) ∧
      parse (String.ofList (start ++ last :: '/' :: segment)) = .ok (.page { page with
        path := stem bare.path ++ [segment], query := none, fragment := none }) ∧
      ∀ slashes : List Char, (∀ c ∈ slashes, c = '/') →
        ∃ other, parse (String.ofList (start ++ last :: slashes)) = .ok (.page other) := by
  obtain ⟨front, rest, hends, hend, hrest, hread⟩ := exists_front_of_parse hlast hslashes h
  have hrestMarks : ∀ c ∈ rest, c ≠ '?' ∧ c ≠ '#' := fun c hc =>
    hmarks c (by simpa using hrest c hc)
  -- behind the host stands a path alone, however the text goes on
  have hpage : ∀ more, EndsZone more → (∀ c ∈ more, 0x20 < c.toNat ∧ c ≠ '?' ∧ c ≠ '#') →
      parse (String.ofList (start ++ last :: more)) = .ok (.page { front with
        path := follow [] (segments (dropSlash (rest ++ more)))
        query := none, fragment := none }) := by
    intro more hmore hmoreChars
    rw [hread more hmore fun c hc => (hmoreChars c hc).1, withPath_of_not_mark]
    intro c hc
    rcases List.mem_append.1 (mem_of_mem_dropSlash hc) with hc | hc
    · exact hrestMarks c hc
    · exact (hmoreChars c hc).2
  have hpageSlashes : ∀ slashes : List Char, (∀ c ∈ slashes, c = '/') →
      parse (String.ofList (start ++ last :: slashes)) = .ok (.page { front with
        path := follow [] (segments (dropSlash (rest ++ slashes)))
        query := none, fragment := none }) := by
    intro slashes hslashes
    refine hpage slashes (fun c hc => ?_) fun c hc => ?_
    · rw [hslashes c (List.mem_of_mem_head? hc)]
      rfl
    · rw [hslashes c hc]
      decide
  have hrestEnd : ∀ c, rest.getLast? = some c → isSlash c = false := by
    intro c hc
    have hne : rest ≠ [] := by
      rintro rfl
      cases hc
    rw [hend hne, Option.some.injEq] at hc
    rw [← hc, hnoSlash]
  have hbare := hpageSlashes [] (by simp)
  rw [List.append_nil] at hbare
  rw [hpageSlashes slashes hslashes] at h
  cases h
  refine ⟨_, hbare, follow_segments_ne_nil _, fun _ => slash_not_mem_follow, ?_,
    fun slashes hslashes => ⟨_, hpageSlashes _ hslashes⟩⟩
  rw [hpage ('/' :: segment) (fun c hc => by cases hc; rfl)
      (List.forall_mem_cons.2 ⟨by decide, hchars⟩),
    path_continued hends hrestMarks hrestEnd hsegment hdot hdots]

end Url

namespace Config

variable {c : Config}

/-- The base address without the slashes at its end. -/
def bareText (c : Config) : String := String.ofList (Text.dropEnd (· = '/') c.baseUrl.toList)

def collection : List Char := ['b', 'o', 'o', 'k', 's']

theorem endpointText_eq (c : Config) :
    c.endpointText = c.bareText ++ String.ofList ('/' :: collection) := rfl

/-- The settings with a number of slashes at the end of the base address. -/
def withSlashes (c : Config) (n : Nat) : Config :=
  { c with baseUrl := c.bareText ++ String.ofList (List.replicate n '/') }

/-- No mark of a query or a fragment, no backward slash and no character below the space. -/
def isPlainChar (ch : Char) : Bool := ch ≠ '?' && ch ≠ '#' && ch ≠ '\\' && 0x20 ≤ ch.toNat

/-- The base address is of plain characters, and there is no space in front of the slashes at its
end. -/
def IsPlain (c : Config) : Prop :=
  c.baseUrl.toList.all isPlainChar = true ∧ c.bareText.toList.getLast? ≠ some ' '

instance : Decidable c.IsPlain := inferInstanceAs (Decidable (_ ∧ _))

theorem bareText_withSlashes (c : Config) (n : Nat) : (c.withSlashes n).bareText = c.bareText := by
  have hslashes : ∀ ch ∈ List.replicate n '/', decide (ch = '/') = true := fun ch hch => by
    simpa using List.eq_of_mem_replicate hch
  simp only [bareText, withSlashes, String.toList_append, String.toList_ofList,
    Text.dropEnd_append hslashes]

/-- Two settings describe one client, so nothing that is done with it tells them apart. -/
structure SameClient (c d : Config) : Prop where
  client : Client.ofConfig c = Client.ofConfig d
  search : c.search = d.search
  book : c.book = d.book
  suggestions : c.suggestions = d.suggestions

theorem SameClient.of_ofConfig {d : Config} (h : Client.ofConfig c = Client.ofConfig d) :
    c.SameClient d where
  client := h
  search := by
    funext catalog query
    simp only [Config.search, withClient, h]
  book := by
    funext catalog id
    simp only [Config.book, withClient, h]
  suggestions := by
    funext catalog terms
    simp only [Config.suggestions, withClient, h]

/-- What base addresses are written as without the slashes at their ends decides, with the name that
the client gives itself. -/
theorem SameClient.of_bareText {d : Config} {a b : Url} (ha : c.validate = .ok a)
    (hb : d.validate = .ok b) (htext : c.bareText = d.bareText)
    (hagent : c.userAgent = d.userAgent) : c.SameClient d := by
  have hendpoint : c.endpointText = d.endpointText := by rw [endpointText_eq, htext]; rfl
  apply of_ofConfig
  simp only [Client.ofConfig, ha, hb, Config.endpoint, hendpoint, agent, hagent]
  rfl

theorem IsPlain.of_mem (h : c.IsPlain) {ch : Char} (hch : ch ∈ c.baseUrl.toList) :
    ch ≠ '?' ∧ ch ≠ '#' ∧ ch ≠ '\\' ∧ 0x20 ≤ ch.toNat := by
  have hplain := List.all_eq_true.1 h.1 ch hch
  simp only [isPlainChar, Bool.and_eq_true, decide_eq_true_eq] at hplain
  obtain ⟨⟨⟨hquery, hfragment⟩, hback⟩, hcode⟩ := hplain
  exact ⟨hquery, hfragment, hback, hcode⟩

theorem exists_baseUrl_eq {base : Url} (hbase : Url.parse c.baseUrl = .ok (.page base))
    (hplain : c.IsPlain) :
    ∃ start last slashes, c.bareText = String.ofList (start ++ [last]) ∧
      c.baseUrl = String.ofList (start ++ last :: slashes) ∧ (∀ ch ∈ slashes, ch = '/') ∧
      0x20 < last.toNat ∧ Url.isSlash last = false := by
  have hspace := hplain.2
  obtain ⟨slashes, htext, hslashes⟩ := Text.exists_eq_dropEnd (· = '/') c.baseUrl.toList
  have hnoSlash := Text.getLast?_dropEnd (· = '/') c.baseUrl.toList
  rw [bareText, String.toList_ofList] at hspace
  rw [bareText]
  generalize Text.dropEnd (· = '/') c.baseUrl.toList = kept at htext hspace hnoSlash ⊢
  obtain rfl | ⟨start, last, rfl⟩ := List.eq_nil_or_concat' kept
  · -- slashes alone have no scheme
    have hcolon : ':' ∈ c.baseUrl.toList := Url.colon_mem_of_parse hbase
    rw [htext] at hcolon
    exact absurd (hslashes ':' hcolon) (by decide)
  · have hlast : last ∈ c.baseUrl.toList := by simp [htext]
    obtain ⟨-, -, hback, hcode⟩ := hplain.of_mem hlast
    have hnotSpace : last.toNat ≠ 0x20 := by
      intro hcode
      obtain rfl : last = ' ' := Char.toNat_inj.1 hcode
      exact hspace List.getLast?_concat
    have hforward : last ≠ '/' := by simpa using hnoSlash last List.getLast?_concat
    refine ⟨start, last, slashes, rfl, ?_, fun ch hch => by simpa using hslashes ch hch, by omega,
      by simp [Url.isSlash, hforward, hback]⟩
    rw [← String.ofList_toList (s := c.baseUrl), htext, List.append_assoc, List.singleton_append]

/-- **The collection below a base address**: where all books are is the base address with one
segment more, put behind what its text names without the slashes at its end, and these can be of any
number. -/
theorem endpoint_of_plain {base : Url} (hvalid : c.validate = .ok base) (hplain : c.IsPlain) :
    ∃ bare, Url.parse c.bareText = .ok (.page bare) ∧
      c.endpoint = .ok { base with
        path := Url.stem bare.path ++ [collection], query := none, fragment := none } ∧
      Url.writePath (Url.stem bare.path ++ [collection]) = Url.writePath bare.path ++
        (if (Url.writePath bare.path).getLast? = some '/' then [] else ['/']) ++ collection ∧
      ∀ n, (∃ base', (c.withSlashes n).validate = .ok base') ∧ (c.withSlashes n).SameClient c := by
  have hbase := parse_of_validate hvalid
  obtain ⟨start, last, slashes, hbare, htext, hslashes, hlast, hnoSlash⟩ :=
    exists_baseUrl_eq hbase hplain
  have hmarks : ∀ ch ∈ start ++ [last], ch ≠ '?' ∧ ch ≠ '#' := by
    intro ch hch
    have hmem : ch ∈ c.baseUrl.toList := by
      rw [htext, String.toList_ofList, ← List.singleton_append, ← List.append_assoc]
      exact List.mem_append_left slashes hch
    obtain ⟨hquery, hfragment, -⟩ := hplain.of_mem hmem
    exact ⟨hquery, hfragment⟩
  rw [htext] at hbase
  obtain ⟨bare, hread, hpath, hpathSlash, hendpoint, hothers⟩ :=
    Url.exists_bare_of_parse hlast hnoSlash hmarks hslashes collection (by decide) (by decide)
      (by decide) (by simp [collection]) hbase
  have hbehind : ∀ more, c.bareText ++ String.ofList more =
      String.ofList (start ++ last :: more) := fun more => by
    rw [hbare, ← String.ofList_append, List.append_assoc, List.singleton_append]
  refine ⟨bare, by rw [hbare, hread], ?_, Url.writePath_stem_concat hpath hpathSlash _,
    fun n => ?_⟩
  · have htext : c.endpointText = String.ofList (start ++ last :: '/' :: collection) := by
      rw [endpointText_eq, hbehind]
    rw [← htext] at hendpoint
    simp only [Config.endpoint, hendpoint]
  · have hslashes : ∀ ch ∈ List.replicate n '/', ch = '/' := fun ch => List.eq_of_mem_replicate
    obtain ⟨other, hother⟩ := hothers _ hslashes
    rw [← hbehind] at hother
    have hvalid' : (c.withSlashes n).validate = .ok other :=
      validate_eq_ok_iff.2 ⟨hother, (validate_eq_ok_iff.1 hvalid).2⟩
    exact ⟨⟨other, hvalid'⟩, .of_bareText hvalid' hvalid (bareText_withSlashes c n) rfl⟩

/-- A base address with a port that need not be said, and with a dot in front of its slashes. -/
theorem endpoint_of_plain_dot :
    ∃ c : Config, c.baseUrl = "http://u@[::1]:80/v1/.//" ∧ c.IsPlain ∧
      (∃ endpoint, c.endpoint = .ok endpoint ∧ endpoint.user = ['u'] ∧ endpoint.port = none ∧
        endpoint.path = [['v', '1'], collection]) ∧
      ∀ n, (c.withSlashes n).SameClient c := by
  let c : Config := ⟨"http://u@[::1]:80/v1/.//", 30, none⟩
  let base : Url :=
    { secure := false, user := ['u'], password := [], host := .ipv6 [0, 0, 0, 0, 0, 0, 0, 1]
      port := none, path := [['v', '1'], [], []], query := none, fragment := none }
  have hvalid : c.validate = .ok base := by decide +kernel
  have hplain : c.IsPlain := by decide +kernel
  have hread : Url.parse c.bareText = .ok (.page { base with path := [['v', '1'], []] }) := by
    decide +kernel
  obtain ⟨bare, hbare, hendpoint, -, hslashes⟩ := endpoint_of_plain hvalid hplain
  rw [hread] at hbare
  cases hbare
  exact ⟨c, rfl, hplain, ⟨_, hendpoint, rfl, rfl, rfl⟩, fun n => (hslashes n).2⟩

end Config

end BookCatalog
