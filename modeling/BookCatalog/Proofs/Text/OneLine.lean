import BookCatalog.Text.Pieces
import BookCatalog.Text.Quoted
import BookCatalog.Text.Real
import Mathlib.Data.List.Basic

/-!
# Texts of one line

Texts that hold no line end, and how they are put together.

* `Text.IsOneLine.append`, `Text.isOneLine_join` — texts behind one another;
* `Text.isOneLine_exchange` — a text with a word exchanged for another;
* `Text.isOneLine_quoted` — any text between quotes;
* `Real.isOneLine_write` — doubles.
-/

namespace BookCatalog

namespace Text

/-- A text without a line end. -/
def IsOneLine (s : String) : Prop := '\n' ∉ s.toList

instance (s : String) : Decidable (IsOneLine s) :=
  inferInstanceAs (Decidable ('\n' ∉ s.toList))

theorem IsOneLine.append {s t : String} (hs : IsOneLine s) (ht : IsOneLine t) :
    IsOneLine (s ++ t) := by
  rw [IsOneLine, String.toList_append]
  exact List.not_mem_append hs ht

/-! ## Numerals -/

theorem newline_not_mem_toDigits {base : Nat} (hlow : 1 < base) (hhigh : base ≤ 16) (n : Nat) :
    '\n' ∉ Nat.toDigits base n := by
  have hdigit : ∀ d < 16, '\n' ≠ Nat.digitChar d := by decide
  induction n using Nat.strongRecOn with
  | ind n ih =>
    by_cases hlt : n < base
    · rw [Nat.toDigits_of_lt_base hlt, List.mem_singleton]
      exact hdigit n (by omega)
    · have hmod : n % base < base := Nat.mod_lt n (by omega)
      rw [Nat.toDigits_of_base_le hlow (by omega), List.mem_append, List.mem_singleton, not_or]
      exact ⟨ih (n / base) (Nat.div_lt_self (by omega) hlow), hdigit _ (by omega)⟩

theorem isOneLine_natural (n : Nat) : IsOneLine (Decimal.natural n) := by
  rw [IsOneLine, Decimal.natural, String.toList_ofList]
  exact newline_not_mem_toDigits (by decide) (by decide) n

theorem isOneLine_integer (n : Int) : IsOneLine (Decimal.integer n) := by
  have hdigits : '\n' ∉ Decimal.digits n.natAbs :=
    newline_not_mem_toDigits (by decide) (by decide) n.natAbs
  rw [IsOneLine, Decimal.integer, String.toList_ofList, Decimal.int]
  split
  · simpa using hdigits
  · exact hdigits

/-! ## Pieces -/

theorem of_mem_replaceFirst {old new cs : List Char} {c : Char} (h : c ∈ replaceFirst old new cs) :
    c ∈ new ∨ c ∈ cs := by
  induction cs with
  | nil =>
    unfold replaceFirst at h
    split at h
    · exact .inl h
    · cases h
  | cons d ds ih =>
    unfold replaceFirst at h
    split at h
    · next rest hrest =>
      rcases List.mem_append.1 h with h | h
      · exact .inl h
      · have hparts : old ++ rest = d :: ds := List.append_eq_of_isPrefixOf?_eq_some hrest
        right
        rw [← hparts]
        exact List.mem_append_right old h
    · rcases List.mem_cons.1 h with rfl | h
      · exact .inr List.mem_cons_self
      · rcases ih h with h | h
        · exact .inl h
        · exact .inr (List.mem_cons_of_mem d h)

theorem isOneLine_exchange {old new s : String} (hnew : IsOneLine new) (hs : IsOneLine s) :
    IsOneLine (exchange old new s) := by
  intro h
  rw [exchange, String.toList_ofList] at h
  rcases of_mem_replaceFirst h with h | h
  · exact hnew h
  · exact hs h

theorem of_mem_joined {sep : List Char} {pieces : List (List Char)} {c : Char}
    (h : c ∈ joined sep pieces) : c ∈ sep ∨ ∃ p ∈ pieces, c ∈ p := by
  induction pieces with
  | nil => simp [joined, List.intercalate] at h
  | cons p ps ih =>
    have hrest : c ∈ joined sep ps → c ∈ sep ∨ ∃ q ∈ p :: ps, c ∈ q := by
      intro hmem
      rcases ih hmem with hsep | ⟨q, hq, hc⟩
      · exact .inl hsep
      · exact .inr ⟨q, List.mem_cons_of_mem p hq, hc⟩
    cases ps with
    | nil =>
      have hp : c ∈ p := by simpa [joined, List.intercalate] using h
      exact .inr ⟨p, List.mem_cons_self, hp⟩
    | cons q qs =>
      rw [joined, List.intercalate_cons_cons] at h
      rcases List.mem_append.1 h with h | h
      · rcases List.mem_append.1 h with h | h
        · exact .inr ⟨p, List.mem_cons_self, h⟩
        · exact .inl h
      · exact hrest h

theorem isOneLine_join {sep : String} {pieces : List String} (hsep : IsOneLine sep)
    (h : ∀ p ∈ pieces, IsOneLine p) : IsOneLine (join sep pieces) := by
  intro hmem
  rw [join, String.toList_ofList] at hmem
  rcases of_mem_joined hmem with hmem | ⟨p, hp, hmem⟩
  · exact hsep hmem
  · obtain ⟨piece, hpiece, rfl⟩ := List.mem_map.1 hp
    exact h piece hpiece hmem

/-! ## Quoted texts -/

theorem newline_not_mem_quotedChar (c : Char) : '\n' ∉ quotedChar c := by
  have hhex : '\n' ∉ lowerHex c.toNat := newline_not_mem_toDigits (by decide) (by decide) c.toNat
  unfold quotedChar
  split
  · decide
  split
  · decide
  split
  · decide
  split
  · decide
  next hnewline =>
  split
  · decide
  split
  · decide
  split
  · rw [List.mem_singleton]
    exact fun heq => hnewline heq.symm
  · simpa using hhex

/-- **A quoted text** is one line, whatever it quotes. -/
theorem isOneLine_quoted (s : String) : IsOneLine (quoted s) := by
  rw [IsOneLine, quoted, String.toList_ofList]
  intro hmem
  simp only [List.cons_append, List.mem_cons, List.mem_append, List.not_mem_nil, or_false] at hmem
  rcases hmem with hmem | hmem | hmem
  · exact absurd hmem (by decide)
  · obtain ⟨c, -, hc⟩ := List.mem_flatMap.1 hmem
    exact newline_not_mem_quotedChar c hc
  · exact absurd hmem (by decide)

end Text

/-! ## Doubles -/

namespace Real

theorem newline_not_mem_numeral (m : Magnitude) : '\n' ∉ m.numeral.digits := by
  have hdigits : ∀ d, '\n' ∉ Decimal.digits d := fun d =>
    Text.newline_not_mem_toDigits (by decide) (by decide) d
  unfold Magnitude.numeral
  dsimp only
  generalize hfound : List.findSome? _ (List.range 17) = found
  cases found with
  | none => decide
  | some n =>
    obtain ⟨k, -, hk⟩ := List.exists_of_findSome?_eq_some hfound
    obtain ⟨d, -, rfl⟩ := Option.map_eq_some_iff.1 hk
    intro hmem
    rw [Option.getD_some, List.mem_reverse] at hmem
    exact hdigits d (List.mem_reverse.1 (List.dropWhile_subset _ hmem))

theorem newline_not_mem_write (layout : Layout) {n : Numeral} (h : '\n' ∉ n.digits) :
    '\n' ∉ n.write layout := by
  have htake : ∀ k, '\n' ∉ n.digits.take k := fun k hmem => h (List.mem_of_mem_take hmem)
  have hdrop : ∀ k, '\n' ∉ n.digits.drop k := fun k hmem => h (List.mem_of_mem_drop hmem)
  have hdigits : ∀ d, '\n' ∉ Decimal.digits d := fun d =>
    Text.newline_not_mem_toDigits (by decide) (by decide) d
  have hzeros : ∀ k, '\n' ∉ List.replicate k '0' := fun k hmem =>
    absurd (List.eq_of_mem_replicate hmem) (by decide)
  unfold Numeral.write
  dsimp only
  split
  · split
    · simp [h, hzeros]
    · split <;> simp [htake, hdrop, hzeros]
  · have hsign : '\n' ≠ if n.exponent < 0 then '-' else '+' := by split <;> decide
    have htail : '\n' ∉ n.digits.tail := fun hmem => h (List.mem_of_mem_tail hmem)
    split <;> simp [htake, htail, hdigits, hsign]

/-- **A double** is written in one line. -/
theorem isOneLine_write (layout : Layout) (x : Float) : Text.IsOneLine (write layout x) := by
  have hnumeral := newline_not_mem_write layout (newline_not_mem_numeral (magnitude x))
  rw [Text.IsOneLine, write, String.toList_ofList, List.mem_append, not_or]
  constructor
  · split <;> decide
  · split
    · decide
    · exact hnumeral

end Real

end BookCatalog
