import BookCatalog.Proofs.Json.Sound

/-!
# What readers take

A reader of values of one type decides about the text of every value: it takes the texts of that
type, wherever they stand, and refuses all others.

* `Decides` — what it is to decide;
* `Parses` — a reader that decides, and takes nothing but such texts off any text;
* `Parses.text`, `Parses.list` — texts, and lists of what a reader parses;
* `Decides.decode_iff`, `Parses.decode_iff` — whole texts, with space around the value.
-/

namespace BookCatalog.Json

variable {α β : Type}

/-- A reader decides about the texts of values: it takes those that `R` gives a meaning, for what
they mean, and no others. -/
structure Decides (read : Reader α) (R : α → List Char → Prop) : Prop where
  isValue : ∀ {v : α} {t : List Char}, R v t → IsValue t
  takes : ∀ {v : α} {t : List Char}, R v t → Takes read v t
  only : ∀ {v : α} {g t rest rest' : List Char}, IsValue t → Gap g → Ends rest →
    read (g ++ (t ++ rest)) = .ok (v, rest') → R v t ∧ rest' = rest

namespace Decides

variable {read : Reader α} {R : α → List Char → Prop}

theorem unique (h : Decides read R) {v w : α} {t : List Char} (hv : R v t) (hw : R w t) :
    v = w := by
  have hread := h.takes hv [] [] gap_nil ends_nil
  rw [h.takes hw [] [] gap_nil ends_nil] at hread
  cases hread
  rfl

theorem isValue_of_forall₂ (h : Decides read R) {xs : List α} {ts : List (List Char)}
    (hitems : List.Forall₂ R xs ts) : ∀ t ∈ ts, IsValue t := by
  induction hitems with
  | nil => simp
  | cons hx _ ih =>
    intro t ht
    rcases List.mem_cons.1 ht with rfl | ht
    · exact h.isValue hx
    · exact ih t ht

/-- **A whole text** is decoded as what its value means. -/
theorem decode_iff {read : ValueReader α} (h : Decides (read maxLevels) R) {v : α}
    {g t back : List Char} (hg : Gap g) (ht : IsValue t) (hback : Gap back) :
    decode read (String.ofList (g ++ (t ++ back))) = .ok v ↔ R v t := by
  constructor
  · intro hdecode
    rw [decode, String.toList_ofList] at hdecode
    split at hdecode
    · cases hdecode
    · next w rest hread =>
      split at hdecode
      · cases hdecode
        exact (h.only ht hg hback.ends_self hread).1
      · cases hdecode
  · intro hR
    exact decode_of_takes (h.takes hR) hg hback

end Decides

/-! ## Readers of a grammar -/

/-- A reader parses a grammar: it takes the texts to which `R` gives a meaning for what they mean,
and nothing else off any text. -/
structure Parses (read : Reader α) (R : α → List Char → Prop) : Prop where
  isValue : ∀ {v : α} {t : List Char}, R v t → IsValue t
  takes : ∀ {v : α} {t : List Char}, R v t → Takes read v t
  sound : Sound read R

namespace Parses

variable {read : Reader α} {R : α → List Char → Prop}

/-- **What is parsed is decided**: of two values in front of the same text, one is not part of the
other. -/
theorem decides (h : Parses read R) : Decides read R where
  isValue := h.isValue
  takes := h.takes
  only := by
    intro v g t rest rest' ht hg hrest hread
    obtain ⟨g', u, heq, hg', hended, hR⟩ := h.sound hread
    obtain ⟨-, rfl, rfl⟩ := ht.cut (h.isValue hR) hg hg' (hrest.ended t) hended heq
    exact ⟨hR, rfl⟩

theorem congr {S : α → List Char → Prop} (h : Parses read R) (hRS : ∀ {v t}, S v t ↔ R v t) :
    Parses read S := by
  obtain rfl : S = R := by
    funext v t
    exact propext hRS
  exact h

theorem map (h : Parses read R) (f : α → β) :
    Parses (fun input => (read input).map fun (v, rest) => (f v, rest))
      fun w t => ∃ v, R v t ∧ w = f v where
  isValue := by
    rintro w t ⟨v, hv, -⟩
    exact h.isValue hv
  takes := by
    rintro w t ⟨v, hv, rfl⟩ g rest hg hrest
    simp only [h.takes hv g rest hg hrest, Except.map]
  sound := Sound.map h.sound f

/-- **The reader of texts** takes the spellings of texts. -/
theorem text : Parses readText SpelledText where
  isValue := SpelledText.isValue
  takes := takes_readText
  sound := Sound.text

/-- **The reader of lists** takes the lists of what the reader of their items takes. -/
theorem list {item : ValueReader α} {levels : Nat} (h : Parses (item levels) R) :
    Parses (readList item (levels + 1)) (ListOf R) where
  isValue := by
    rintro xs _ ⟨hspread, hitems⟩
    exact .list hspread (h.decides.isValue_of_forall₂ hitems)
  takes := by
    rintro xs _ ⟨hspread, hitems⟩
    have hstarts := fun t ht => (h.decides.isValue_of_forall₂ hitems t ht).starts
    exact takes_readList hspread (hitems.imp fun _ _ hx => h.takes hx) hstarts
  sound := Sound.list h.sound

/-- **What is decoded**: the texts of the type, with nothing but space around them. -/
theorem decode_iff {read : ValueReader α} (h : Parses (read maxLevels) R) {v : α} {text : String} :
    decode read text = .ok v ↔
      ∃ g t back, text = String.ofList (g ++ (t ++ back)) ∧ Gap g ∧ Gap back ∧ R v t := by
  constructor
  · intro hdecode
    unfold decode at hdecode
    split at hdecode
    · cases hdecode
    · next w rest hread =>
      split at hdecode
      · next hend =>
        cases hdecode
        obtain ⟨g, t, htext, hg, -, hR⟩ := h.sound hread
        obtain ⟨back, hback, hrest⟩ := exists_gap_of_skipSpace hend
        rw [List.append_nil] at hrest
        subst hrest
        refine ⟨g, t, rest, ?_, hg, hback, hR⟩
        rw [← htext, String.ofList_toList]
      · cases hdecode
  · rintro ⟨g, t, back, rfl, hg, hback, hR⟩
    exact decode_of_takes (h.takes hR) hg hback

end Parses

end BookCatalog.Json
