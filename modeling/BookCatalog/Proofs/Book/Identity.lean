import BookCatalog.Proofs.Book.RoundTrip
import BookCatalog.Proofs.Json.Deciding
import BookCatalog.Proofs.Text.Ends

/-!
# One form for each identifier

Which JSON values name a book, which of them name the same one, and in which of them an identifier
is written.

* `Tree.Named` — the text that a value names as an identifier;
* `Id.decode_eq_ok_iff` — a value is read as the identifier with that text, and no other value is
  read;
* `Id.parses` — wherever an identifier stands, exactly such values are taken;
* `Id.value_eq_number_iff` — the identifiers that are written as numbers;
* `Id.canonicalForm` — so every identifier has one written form.
-/

namespace BookCatalog

open Json

/-- The text that a value names as an identifier: the numeral of an integer of 64 bits, or a text
without the blank space at its ends. -/
inductive Json.Tree.Named : Tree → String → Prop
  | number {n : Int} (h : Decimal.isWord n = true) :
      Named (.number (Decimal.int n)) (Decimal.integer n)
  | text {s t : String} (h : Text.Stripped s t) : Named (.text s) t

namespace Id

/-! ## Reading -/

/-- What is read where an identifier stands is an integer of 64 bits or a text. -/
theorem read_eq_ok_iff {levels : Nat} {input rest : List Char} {id : Id} :
    Id.read levels input = .ok (id, rest) ↔
      (∃ n, Json.readLoose levels input = .ok (.integer n, rest) ∧ Decimal.isWord n = true ∧
        id = ofInt n) ∨
      ∃ s, Json.readLoose levels input = .ok (.text s, rest) ∧ id = ofText s := by
  unfold Id.read
  constructor
  · intro h
    split at h
    · cases h
    · next n after hread =>
      split at h
      · next hword =>
        cases h
        exact .inl ⟨n, hread, hword, rfl⟩
      · cases h
    · next s after hread =>
      cases h
      exact .inr ⟨s, hread, rfl⟩
    · cases h
  · rintro (⟨n, hread, hword, rfl⟩ | ⟨s, hread, rfl⟩)
    · simp only [hread, hword, if_true]
    · simp only [hread]

/-- The texts that give an identifier: the numerals of the integers of 64 bits, and the spellings of
texts. -/
inductive Given : Id → List Char → Prop
  | number {n : Int} (h : Decimal.isWord n = true) : Given (ofInt n) (Decimal.int n)
  | text {s : String} {t : List Char} (h : SpelledText s t) : Given (ofText s) t

/-- What is read of any text is a whole number from its numeral in front of it, a text from its
spelling there, and else neither. -/
theorem exists_of_readLoose {levels : Nat} {input rest : List Char} {v : Loose}
    (h : readLoose levels input = .ok (v, rest)) :
    v = .other ∨ ∃ g t, input = g ++ (t ++ rest) ∧ Gap g ∧ Ended t rest ∧
      ((∃ n, v = .integer n ∧ t = Decimal.int n) ∨ ∃ s, v = .text s ∧ SpelledText s t) := by
  have hread := h
  unfold readLoose at h
  split at h
  · cases h
  · next c cs hskip =>
    obtain ⟨g, hg, rfl⟩ := exists_gap_of_skipSpace hskip
    by_cases hother : c ∈ ['n', 't', 'f', '[', '\x7b']
    · exact .inl (readLoose_other hg hother hread)
    · simp only [List.mem_cons, List.not_mem_nil, or_false, not_or] at hother
      obtain ⟨hn, ht, hf, hlist, hobject⟩ := hother
      simp only [hn, ht, hf, hlist, hobject, if_false] at h
      split at h
      · split at h
        · next n after hnumber =>
          cases h
          obtain ⟨m, hm, hvalue, hstops⟩ := eq_digits_of_readNumber hnumber
          refine .inr ⟨g, Decimal.int n, ?_, hg, fun _ => hstops, .inl ⟨n, rfl, rfl⟩⟩
          rw [int_of_ofWhole hvalue, List.append_assoc, ← hm]
          by_cases hsign : c = '-'
          · simp [hsign]
          · simp [hsign]
        · cases h
          exact .inl rfl
        · cases h
      · split at h
        · next hquote =>
          subst hquote
          obtain ⟨⟨s, after⟩, hquoted, heq⟩ := exists_of_map h
          cases heq
          obtain ⟨⟨chars, after⟩, hchars, heq⟩ := exists_of_map hquoted
          cases heq
          obtain ⟨u, rfl, hspelled⟩ := spelled_of_readChars hchars
          refine .inr ⟨g, '"' :: u ++ ['"'], by simp, hg, ended_cons (by decide) rfl _ _,
            .inr ⟨_, rfl, .mk ?_⟩⟩
          rwa [String.toList_ofList]
        · cases h

/-- **The reader of identifiers** is sound. -/
theorem sound (levels : Nat) : Sound (Id.read levels) Given := by
  intro input rest id h
  rcases read_eq_ok_iff.1 h with ⟨n, hread, hword, rfl⟩ | ⟨s, hread, rfl⟩
  · rcases exists_of_readLoose hread with hv | ⟨g, t, hinput, hg, hended, ⟨m, hm, rfl⟩ | ⟨s, hs, -⟩⟩
    · cases hv
    · cases hm
      exact ⟨g, _, hinput, hg, hended, .number hword⟩
    · cases hs
  · rcases exists_of_readLoose hread with hv | ⟨g, t, hinput, hg, hended, ⟨m, hm, -⟩ | ⟨s', hs, ht⟩⟩
    · cases hv
    · cases hm
    · cases hs
      exact ⟨g, t, hinput, hg, hended, .text ht⟩

/-- **The reader of identifiers** takes the texts that give one. -/
theorem parses (levels : Nat) : Parses (Id.read levels) Given where
  isValue := by
    rintro _ _ (hword | hs)
    · exact .number (isNumeral_int _)
    · exact hs.isValue
  takes := by
    rintro _ _ (hword | hs) g rest hg hrest
    · have hread := takes_readLoose_number levels hword g rest hg hrest
      exact read_eq_ok_iff.2 (.inl ⟨_, hread, hword, rfl⟩)
    · have hread := takes_readLoose_text levels hs g rest hg hrest
      exact read_eq_ok_iff.2 (.inr ⟨_, hread, rfl⟩)
  sound := sound levels

theorem given_iff_named {v : Tree} {t : List Char} (ht : Spelled v t) {id : Id} :
    Given id t ↔ v.Named id.text := by
  constructor
  · rintro (hword | hs)
    · cases ht.unique (.number (isNumeral_int _))
      exact .number hword
    · cases ht.unique (.text hs)
      exact .text (Text.trim_eq_iff.1 rfl)
  · generalize hx : id.text = x
    rintro (hword | hstripped)
    · obtain rfl : id = ofInt _ := eq_of_text hx
      cases ht
      exact .number hword
    · obtain rfl : id = ofText _ := eq_of_text (hx.trans (Text.trim_eq_iff.2 hstripped).symm)
      cases ht with
      | text hs => exact .text hs

/-- **What is read as an identifier**: the values that name one, as the one they name. -/
theorem decode_eq_ok_iff {v : Tree} {text : String} (h : Document v text) {id : Id} :
    Json.decode Id.read text = .ok id ↔ v.Named id.text := by
  cases h with
  | mk hg ht hback =>
    rw [(parses maxLevels).decides.decode_iff hg ht.isValue hback]
    exact given_iff_named ht

/-! ## Writing -/

theorem number?_eq_some_iff {id : Id} {n : Int} :
    id.number? = some n ↔ Decimal.isWord n = true ∧ id.text = Decimal.integer n := by
  rw [number?, Option.filter_eq_some_iff, Decimal.int?_eq_some_iff, and_comm, Decimal.integer,
    ← String.toList_inj, String.toList_ofList]

/-- **Written as numbers** are the identifiers that are the numeral of an integer of 64 bits. -/
theorem value_eq_number_iff {id : Id} {n : Int} :
    id.value = .number n ↔ Decimal.isWord n = true ∧ id.text = Decimal.integer n := by
  rw [← number?_eq_some_iff, value]
  cases id.number? with
  | none => simp
  | some m => simp

theorem value_eq_text_iff {id : Id} {s : String} :
    id.value = .text s ↔
      id.text = s ∧ ∀ n, Decimal.isWord n = true → id.text ≠ Decimal.integer n := by
  have hnone : id.number? = none ↔
      ∀ n, Decimal.isWord n = true → id.text ≠ Decimal.integer n := by
    simp only [Option.eq_none_iff_forall_ne_some, ne_eq, number?_eq_some_iff, not_and]
  rw [← hnone, value]
  cases id.number? with
  | none => simp
  | some m => simp

theorem exists_document (id : Id) :
    ∃ v : Tree, Document v id.value.toCompact ∧ v.Named id.text := by
  have hdocument : ∀ {v : Tree} {t : List Char}, Spelled v t → Document v (String.ofList t) := by
    intro v t ht
    have h : Document v (String.ofList ([] ++ (t ++ []))) := .mk gap_nil ht gap_nil
    rwa [List.nil_append, List.append_nil] at h
  cases hnumber : id.number? with
  | some n =>
    obtain ⟨hword, htext⟩ := number?_eq_some_iff.1 hnumber
    rw [value, hnumber, Json.Value.toCompact, Json.Value.compact, htext]
    exact ⟨_, hdocument (.number (isNumeral_int n)), .number hword⟩
  | none =>
    rw [value, hnumber, Json.Value.toCompact, Json.Value.compact]
    exact ⟨_, hdocument (.text (spelledText_writeText _)), .text (Text.trim_eq_iff.1 id.trimmed)⟩

/-- **The written form** is read as the identifier. -/
theorem decode_toCompact_value (id : Id) : Json.decode Id.read id.value.toCompact = .ok id := by
  obtain ⟨v, hdocument, hnamed⟩ := exists_document id
  exact (decode_eq_ok_iff hdocument).2 hnamed

theorem toCompact_value_inj {a b : Id} : a.value.toCompact = b.value.toCompact ↔ a = b := by
  constructor
  · intro h
    have hread := decode_toCompact_value a
    rw [h, decode_toCompact_value b] at hread
    exact (Except.ok.inj hread).symm
  · rintro rfl
    rfl

/-! ## One form -/

theorem named_number_iff {numeral : List Char} {x : String} :
    (Tree.number numeral).Named x ↔
      ∃ n, Decimal.isWord n = true ∧ numeral = Decimal.int n ∧ x = Decimal.integer n := by
  constructor
  · intro h
    generalize hv : Tree.number numeral = v at h
    cases h with
    | number hword =>
      cases hv
      exact ⟨_, hword, rfl, rfl⟩
    | text => cases hv
  · rintro ⟨n, hword, rfl, rfl⟩
    exact .number hword

theorem named_text_iff {s x : String} : (Tree.text s).Named x ↔ Text.trim s = x := by
  rw [Text.trim_eq_iff]
  constructor
  · intro h
    cases h with
    | text h => exact h
  · exact .text

theorem named_unique {v : Tree} {x y : String} (hx : v.Named x) (hy : v.Named y) : x = y := by
  cases v with
  | number numeral =>
    obtain ⟨n, -, hn, rfl⟩ := named_number_iff.1 hx
    obtain ⟨m, -, hm, rfl⟩ := named_number_iff.1 hy
    rw [Decimal.integer, Decimal.integer, ← hn, ← hm]
  | text s => rw [← named_text_iff.1 hx, ← named_text_iff.1 hy]
  | _ => cases hx

theorem named_padded {n : Int} {front back : List Char}
    (hfront : ∀ c ∈ front, Text.isBlank c = true) (hback : ∀ c ∈ back, Text.isBlank c = true) :
    (Tree.text (String.ofList (front ++ Decimal.int n ++ back))).Named (Decimal.integer n) := by
  refine .text ⟨front, back, ?_, hfront, hback, fun c hc => ?_, fun c hc => ?_⟩
  · rw [Decimal.integer, String.toList_ofList, String.toList_ofList]
  · rw [Decimal.integer, String.toList_ofList] at hc
    exact isBlank_eq_false_of_mem_int (List.mem_of_mem_head? hc)
  · rw [Decimal.integer, String.toList_ofList] at hc
    exact isBlank_eq_false_of_mem_int (List.mem_of_getLast? hc)

theorem not_named_of_int? {numeral : List Char} {s : String} (h : Decimal.int? s.toList = none) :
    ¬ (Tree.number numeral).Named s := by
  intro hnamed
  obtain ⟨n, -, -, rfl⟩ := named_number_iff.1 hnamed
  rw [Decimal.integer, String.toList_ofList, Decimal.int?_int] at h
  cases h

structure CanonicalForm : Prop where
  /-- Texts are read, and the numerals of the integers of 64 bits, and nothing else. -/
  accepted : ∀ {v : Tree} {text : String}, Document v text →
    ((∃ id, Json.decode Id.read text = .ok id) ↔
      (∃ s, v = .text s) ∨ ∃ n, Decimal.isWord n = true ∧ v = .number (Decimal.int n))
  /-- What is read is the identifier with the text that the value names. -/
  named : ∀ {v : Tree} {text : String}, Document v text →
    ∀ id, Json.decode Id.read text = .ok id ↔ v.Named id.text
  /-- Two values that are read are one identifier where they name one text. -/
  same : ∀ {v w : Tree} {t u : String}, Document v t → Document w u →
    ∀ {a b : Id}, Json.decode Id.read t = .ok a → Json.decode Id.read u = .ok b →
    ∀ {x y : String}, v.Named x → w.Named y → (a = b ↔ x = y)
  /-- A number and its numeral as a text, with any blank space around it, are one identifier. -/
  padded : ∀ {n : Int} {front back : List Char}, Decimal.isWord n = true →
    (∀ c ∈ front, Text.isBlank c = true) → (∀ c ∈ back, Text.isBlank c = true) →
    ∀ {t u : String}, Document (.number (Decimal.int n)) t →
    Document (.text (String.ofList (front ++ Decimal.int n ++ back))) u →
    Json.decode Id.read t = .ok (ofInt n) ∧ Json.decode Id.read u = .ok (ofInt n)
  /-- Zeros in front, a plus sign and a negative zero keep a text apart from all numbers. -/
  apart : ∀ s ∈ ["007", "+5", "-0"], ∀ {t : String}, Document (.text s) t →
    ∃ id, Json.decode Id.read t = .ok id ∧
      ∀ {numeral : List Char} {u : String}, Document (.number numeral) u →
        Json.decode Id.read u ≠ .ok id
  /-- The numerals of the integers of 64 bits are written as numbers. -/
  number : ∀ (id : Id) (n : Int),
    id.value = .number n ↔ Decimal.isWord n = true ∧ id.text = Decimal.integer n
  /-- All others are written as texts. -/
  text : ∀ (id : Id) (s : String), id.value = .text s ↔
    id.text = s ∧ ∀ n, Decimal.isWord n = true → id.text ≠ Decimal.integer n
  back : ∀ id : Id, Json.decode Id.read id.value.toCompact = .ok id
  injective : ∀ a b : Id, a.value.toCompact = b.value.toCompact ↔ a = b

/-- **Every identifier has one written form**, and is read from all values that name it. -/
theorem canonicalForm : CanonicalForm where
  accepted := by
    intro v text hdocument
    constructor
    · rintro ⟨id, hread⟩
      have hnamed := (decode_eq_ok_iff hdocument).1 hread
      generalize id.text = x at hnamed
      cases hnamed with
      | number hword => exact .inr ⟨_, hword, rfl⟩
      | text => exact .inl ⟨_, rfl⟩
    · rintro (⟨s, rfl⟩ | ⟨n, hword, rfl⟩)
      · exact ⟨ofText s, (decode_eq_ok_iff hdocument).2 (named_text_iff.2 rfl)⟩
      · exact ⟨ofInt n, (decode_eq_ok_iff hdocument).2 (.number hword)⟩
  named := fun hdocument id => decode_eq_ok_iff hdocument
  same := by
    intro v w t u hv hw a b ha hb x y hx hy
    rw [named_unique hx ((decode_eq_ok_iff hv).1 ha), named_unique hy ((decode_eq_ok_iff hw).1 hb)]
    exact ⟨congrArg Id.text, eq_of_text⟩
  padded := by
    intro n front back hword hfront hback t u ht hu
    exact ⟨(decode_eq_ok_iff ht).2 (.number hword),
      (decode_eq_ok_iff hu).2 (named_padded hfront hback)⟩
  apart := by
    intro s hs t ht
    obtain ⟨htrim, hnone⟩ : Text.trim s = s ∧ Decimal.int? s.toList = none := by
      simp only [List.mem_cons, List.not_mem_nil, or_false] at hs
      rcases hs with rfl | rfl | rfl <;> exact ⟨by decide, by decide⟩
    refine ⟨⟨s, htrim⟩, (decode_eq_ok_iff ht).2 (named_text_iff.2 htrim), fun hu hread => ?_⟩
    exact not_named_of_int? hnone ((decode_eq_ok_iff hu).1 hread)
  number _ _ := value_eq_number_iff
  text _ _ := value_eq_text_iff
  back := decode_toCompact_value
  injective _ _ := toCompact_value_inj

end Id

end BookCatalog
