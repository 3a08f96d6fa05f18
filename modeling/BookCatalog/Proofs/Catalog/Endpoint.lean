import BookCatalog.Catalog.Client
import BookCatalog.Proofs.Text.Ends
import BookCatalog.Proofs.Url.Authority
import Mathlib.Data.List.Basic

/-!
# The address of all books

The base address is read once when the settings are checked.  Then it loses the slashes at its end,
gets `/books` and is read again.

* `Url.scheme?_relevant_endpoint` — the second reading finds the scheme that the first one found,
  and what follows it begins as it did;
* `Config.exists_page_of_parse` — so checked settings lead to an address of the web, or to none.
-/

namespace BookCatalog

/-! ## Schemes -/

namespace Url

theorem scheme?_eq_some_iff {cs scheme rest : List Char} :
    scheme? cs = some (scheme, rest) ↔
      ∃ c name, cs = c :: name ++ ':' :: rest ∧ c.isAlpha = true ∧
        (∀ d ∈ c :: name, isSchemeChar d = true) ∧ scheme = (c :: name).map Char.toLower := by
  have hcolon : isSchemeChar ':' = false := by decide
  constructor
  · intro h
    cases cs with
    | nil => simp [scheme?] at h
    | cons c cs =>
      rw [scheme?] at h
      split at h
      · next halpha =>
        split at h
        · next name after hspan =>
          obtain ⟨rfl, rfl⟩ : name.map Char.toLower = scheme ∧ after = rest := by simpa using h
          rw [List.span_eq_takeWhile_dropWhile, Prod.mk.injEq] at hspan
          obtain ⟨htake, hdrop⟩ := hspan
          have hc : isSchemeChar c = true := by simp [isSchemeChar, Char.isAlphanum, halpha]
          obtain ⟨rest', rfl⟩ : ∃ rest', name = c :: rest' := by
            rw [List.takeWhile_cons_of_pos hc] at htake
            exact ⟨_, htake.symm⟩
          refine ⟨c, rest', ?_, halpha, fun d hd => ?_, rfl⟩
          · rw [← htake, ← hdrop, List.takeWhile_append_dropWhile]
          · rw [← htake] at hd
            exact List.all_eq_true.1 List.all_takeWhile d hd
        · simp at h
      · simp at h
  · rintro ⟨c, name, rfl, halpha, hall, rfl⟩
    have htake : ((c :: name) ++ ':' :: rest).takeWhile isSchemeChar = c :: name := by
      rw [List.takeWhile_append_of_pos hall, List.takeWhile_cons_of_neg (by simp [hcolon]),
        List.append_nil]
    have hdrop : ((c :: name) ++ ':' :: rest).dropWhile isSchemeChar = ':' :: rest := by
      rw [List.dropWhile_append_of_pos hall, List.dropWhile_cons_of_neg (by simp [hcolon])]
    rw [List.cons_append] at htake hdrop
    rw [List.cons_append, scheme?, if_pos halpha, List.span_eq_takeWhile_dropWhile, htake, hdrop]
    rfl

/-- What counts for nothing at the end of a text, but for tabs and line ends: they count for nothing
anywhere. -/
def trailing (cs : List Char) : List Char :=
  (cs.reverse.takeWhile (·.toNat ≤ 0x20)).reverse.filter (!isTabOrNewline ·)

theorem le_of_mem_trailing {cs : List Char} {c : Char} (h : c ∈ trailing cs) : c.toNat ≤ 0x20 := by
  have hmem := List.mem_reverse.1 (List.mem_filter.1 h).1
  simpa using List.all_eq_true.1 List.all_takeWhile c hmem

theorem trailing_append_cons {last : Char} {back : List Char} (hlast : ¬ last.toNat ≤ 0x20)
    (hback : ∀ c ∈ back, decide (c.toNat ≤ 0x20) = true) (front : List Char) :
    trailing (front ++ last :: back) = back.filter (!isTabOrNewline ·) := by
  have hrev : ∀ c ∈ back.reverse, decide (c.toNat ≤ 0x20) = true := fun c hc =>
    hback c (List.mem_reverse.1 hc)
  unfold trailing
  rw [List.reverse_append, List.reverse_cons, List.append_assoc, List.takeWhile_append_of_pos hrev,
    List.singleton_append, List.takeWhile_cons_of_neg (by simpa using hlast), List.append_nil,
    List.reverse_reverse]

/-- When slashes are taken off at the end of a text, behind which characters that count for nothing
may stand, the text loses slashes alone, and none where such characters stand. -/
theorem exists_dropEnd_slashes (text : List Char) {back : List Char}
    (hback : ∀ c ∈ back, decide (c.toNat ≤ 0x20) = true) :
    ∃ kept slashes, text = kept ++ slashes ∧ Text.dropEnd (· = '/') (text ++ back) = kept ++ back ∧
      (∀ c ∈ slashes, c = '/') ∧ (back = [] ∨ slashes = []) := by
  rcases List.eq_nil_or_concat' back with rfl | ⟨before, last, rfl⟩
  · obtain ⟨slashes, htext, hslashes⟩ := Text.exists_eq_dropEnd (· = '/') text
    refine ⟨_, slashes, htext, ?_, fun c hc => by simpa using hslashes c hc, .inl rfl⟩
    rw [List.append_nil, List.append_nil]
  · have hlast : decide (last = '/') = false := by
      have hcode := hback last (by simp)
      rw [decide_eq_false_iff_not]
      rintro rfl
      exact absurd hcode (by decide)
    refine ⟨text, [], (List.append_nil text).symm, ?_, by simp, .inr rfl⟩
    rw [← List.append_assoc, Text.dropEnd_append_cons hlast]
    rfl

/-- **The scheme of the address of all books** is the scheme of the base address: the slashes that
are taken off stand behind the colon.  What follows it begins as in the base address; there slashes
follow, here what counted for nothing at the end. -/
theorem scheme?_relevant_endpoint {base scheme rest : List Char} (tail : List Char) (last : Char)
    (h : scheme? (relevant base) = some (scheme, rest)) (hlast : 0x20 < last.toNat) :
    ∃ kept slashes, rest = kept ++ slashes ∧
      scheme? (relevant (Text.dropEnd (· = '/') base ++ (tail ++ [last]))) =
        some (scheme, kept ++ trailing base ++ (tail ++ [last]).filter (!isTabOrNewline ·)) ∧
      (∀ c ∈ slashes, c = '/') ∧ (trailing base = [] ∨ slashes = []) := by
  obtain ⟨c, name, hbase, halpha, hall, rfl⟩ := scheme?_eq_some_iff.1 h
  obtain ⟨front, back, hcs, hfront, hback⟩ := Text.exists_eq_of_strip (·.toNat ≤ 0x20) base
  have htrailing : trailing base = back.filter (!isTabOrNewline ·) := by
    rcases List.eq_nil_or_concat' (Text.strip (·.toNat ≤ 0x20) base) with hnil | ⟨before, d, hd⟩
    · simp [hnil, relevant] at hbase
    · have hvisible := Text.getLast?_dropEnd (·.toNat ≤ 0x20) (base.dropWhile (·.toNat ≤ 0x20)) d
        (by rw [← Text.strip, hd, List.getLast?_concat])
      rw [hd, ← List.append_assoc, List.append_assoc (front ++ before),
        List.singleton_append] at hcs
      rw [hcs, trailing_append_cons (by simpa using hvisible) hback]
  -- the colon, found in the text as it was given
  obtain ⟨before, behind, hstrip, hbefore, hbehind⟩ := List.filter_eq_append_iff.1 hbase
  obtain ⟨gap, more, rfl, hgap, -, hmore⟩ := List.filter_eq_cons_iff.1 hbehind
  have hmid : (before ++ gap).filter (!isTabOrNewline ·) = c :: name := by
    rw [List.filter_append, hbefore, List.filter_eq_nil_iff.2 hgap, List.append_nil]
  have hne : before ++ gap ≠ [] := fun hnil => by simp [hnil] at hmid
  rw [← List.append_assoc] at hstrip
  generalize before ++ gap = mid at hstrip hmid hne
  obtain ⟨kept, slashes, rfl, hdropped, hslashes, hnone⟩ := exists_dropEnd_slashes more hback
  have hdrop : Text.dropEnd (· = '/') base ++ (tail ++ [last]) =
      front ++ ((mid ++ ':' :: (kept ++ back ++ tail)) ++ [last]) := by
    rw [hcs, hstrip, show front ++ (mid ++ ':' :: (kept ++ slashes)) ++ back =
      (front ++ mid) ++ ':' :: (kept ++ slashes ++ back) by simp,
      Text.dropEnd_append_cons (by decide), hdropped]
    simp
  have hhead : ∀ d, (mid ++ ':' :: (kept ++ back ++ tail) ++ [last]).head? = some d →
      decide (d.toNat ≤ 0x20) = false := by
    obtain ⟨d, mid', rfl⟩ := List.exists_cons_of_ne_nil hne
    intro e he
    apply Text.head?_strip (·.toNat ≤ 0x20) base
    rw [hstrip]
    simpa using he
  have hfilter : (mid ++ ':' :: (kept ++ back ++ tail) ++ [last]).filter (!isTabOrNewline ·) =
      c :: name ++ ':' :: (kept.filter (!isTabOrNewline ·) ++ back.filter (!isTabOrNewline ·) ++
        (tail ++ [last]).filter (!isTabOrNewline ·)) := by
    have hcolon : (':' :: (kept ++ back ++ tail)) ++ [last] =
        [':'] ++ (kept ++ (back ++ (tail ++ [last]))) := by simp
    rw [List.append_assoc, hcolon]
    simp only [List.filter_append, hmid, List.append_assoc]
    rfl
  refine ⟨kept.filter (!isTabOrNewline ·), slashes.filter (!isTabOrNewline ·), ?_, ?_, ?_, ?_⟩
  · rw [← hmore, List.filter_append]
  · have hend : ∀ d, (mid ++ ':' :: (kept ++ back ++ tail) ++ [last]).getLast? = some d →
        decide (d.toNat ≤ 0x20) = false := by
      intro d hd
      rw [List.getLast?_concat, Option.some.injEq] at hd
      simpa [← hd] using hlast
    rw [hdrop, relevant, ← List.append_nil (front ++ _),
      Text.strip_append_append hfront (by simp) hhead hend, htrailing]
    exact scheme?_eq_some_iff.2 ⟨c, name, hfilter, halpha, hall, rfl⟩
  · exact fun d hd => hslashes d ((List.mem_filter.1 hd).1)
  · rcases hnone with rfl | rfl
    · exact .inl htrailing
    · exact .inr rfl

theorem ne_other_of_parseAfterScheme {scheme scheme' rest rest' : List Char} {page : Url}
    (h : parseAfterScheme scheme rest = .ok (.page page)) :
    parseAfterScheme scheme rest' ≠ .ok (.other scheme') := by
  obtain ⟨secure, hstyle, -⟩ := web_of_parseAfterScheme h
  unfold parseAfterScheme
  rw [hstyle]
  cases hpage : parsePage secure (rest'.dropWhile isSlash) <;> simp [Except.map, hpage]

end Url

namespace Config

variable {c : Config}

theorem validate_eq_ok_iff {base : Url} :
    c.validate = .ok base ↔ Url.parse c.baseUrl = .ok (.page base) ∧ c.timeoutSeconds ≠ 0 := by
  unfold validate
  split
  · next hparse => simp [hparse]
  · next hparse => simp [hparse]
  · next url hparse =>
    by_cases hseconds : c.timeoutSeconds = 0
    · simp [hseconds]
    · simp [hparse, hseconds]

theorem parse_of_validate {base : Url} (h : c.validate = .ok base) :
    Url.parse c.baseUrl = .ok (.page base) :=
  (validate_eq_ok_iff.1 h).1

theorem parse_of_endpoint {endpoint : Url} (h : c.endpoint = .ok endpoint) :
    Url.parse c.endpointText = .ok (.page endpoint) := by
  unfold Config.endpoint at h
  split at h
  · cases h
  · cases h
  · next page hpage =>
    rw [hpage]
    cases h
    rfl

/-- **The text of the address of all books** has the scheme of the base address, and what follows it
begins as it does there. -/
theorem scheme?_endpointText {scheme rest : List Char}
    (h : Url.scheme? (Url.relevant c.baseUrl.toList) = some (scheme, rest)) :
    ∃ kept slashes, rest = kept ++ slashes ∧
      Url.scheme? (Url.relevant c.endpointText.toList) =
        some (scheme, kept ++ Url.trailing c.baseUrl.toList ++ ['/', 'b', 'o', 'o', 'k', 's']) ∧
      (∀ c ∈ slashes, c = '/') ∧ (Url.trailing c.baseUrl.toList = [] ∨ slashes = []) := by
  have htext : c.endpointText.toList =
      Text.dropEnd (· = '/') c.baseUrl.toList ++ (['/', 'b', 'o', 'o', 'k'] ++ ['s']) := by
    simp [endpointText]
  rw [htext]
  exact Url.scheme?_relevant_endpoint ['/', 'b', 'o', 'o', 'k'] 's' h (by decide)

/-- **Checked settings** lead to an address of the web, or to none: what is read as the address of
all books never stands under another scheme. -/
theorem exists_page_of_parse {base : Url} {target : Url.Target}
    (hvalid : c.validate = .ok base) (htarget : Url.parse c.endpointText = .ok target) :
    ∃ endpoint, target = .page endpoint := by
  have hbase := parse_of_validate hvalid
  unfold Url.parse at hbase htarget
  cases hscheme : Url.scheme? (Url.relevant c.baseUrl.toList) with
  | none => simp [hscheme] at hbase
  | some found =>
    obtain ⟨scheme, rest⟩ := found
    obtain ⟨kept, slashes, -, hafter, -⟩ := scheme?_endpointText hscheme
    rw [hafter] at htarget
    rw [hscheme] at hbase
    cases target with
    | page endpoint => exact ⟨endpoint, rfl⟩
    | other scheme' => exact absurd htarget (Url.ne_other_of_parseAfterScheme hbase)

end Config

end BookCatalog
