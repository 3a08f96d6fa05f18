import BookCatalog.Json.Reader
import BookCatalog.Proofs.Json.Layout

/-!
# Reading numbers back

Whatever may follow a whole number of 64 bits, a reader takes exactly its written form.

* `Ends` — what may follow a value;
* `Takes` — a reader takes a text and stops where a value ends;
* `takes_readLoose_number` — whole numbers of 64 bits.
-/

namespace BookCatalog.Json

/-- What may follow a value: nothing, space, a comma or a closing bracket. -/
def Ends (rest : List Char) : Prop :=
  ∀ c, rest.head? = some c → isSpace c = true ∨ c = ',' ∨ c = ']' ∨ c = '\x7d'

/-- A reader takes a text off what it is given and makes a value of it. -/
def Takes {α : Type} (read : Reader α) (v : α) (t : List Char) : Prop :=
  ∀ g rest, Gap g → Ends rest → read (g ++ (t ++ rest)) = .ok (v, rest)

theorem ends_nil : Ends [] := by
  intro c hc
  cases hc

theorem ends_cons {c : Char} (h : isSpace c = true ∨ c = ',' ∨ c = ']' ∨ c = '\x7d')
    (rest : List Char) : Ends (c :: rest) := by
  intro d hd
  obtain rfl : c = d := by simpa using hd
  exact h

theorem Gap.ends {g rest : List Char} (hg : Gap g) (hrest : Ends rest) : Ends (g ++ rest) := by
  cases g with
  | nil => exact hrest
  | cons c g => exact ends_cons (.inl (hg c (by simp))) _

theorem Gap.ends_self {g : List Char} (hg : Gap g) : Ends g := by
  have hends := hg.ends ends_nil
  rwa [List.append_nil] at hends

theorem skipSpace_append {g : List Char} (hg : Gap g) {c : Char} (hc : isSpace c = false)
    (rest : List Char) : skipSpace (g ++ c :: rest) = c :: rest := by
  rw [skipSpace, List.dropWhile_append_of_pos hg, List.dropWhile_cons_of_neg (by simp [hc])]

/-! ## Hexadecimal digits -/

theorem hexValue?_hexDigit : ∀ n < 16, Text.hexValue? (hexDigit n) = some n := by
  decide

theorem length_le_size (cs : List Char) : cs.length ≤ Utf8.size cs := by
  induction cs with
  | nil => exact Nat.le_refl 0
  | cons c cs ih =>
    have hc : 0 < c.utf8Size := Char.utf8Size_pos c
    rw [List.length_cons, show Utf8.size (c :: cs) = c.utf8Size + Utf8.size cs from rfl]
    omega

/-! ## Whole numbers -/

theorem le_ofDigitChars (ds : List Char) (n : Nat) : n ≤ Nat.ofDigitChars 10 ds n := by
  rw [Nat.ofDigitChars_eq_ofDigitChars_zero]
  have hpos : 0 < 10 ^ ds.length := Nat.pow_pos (by decide)
  have hle : 1 * n ≤ 10 ^ ds.length * n := Nat.mul_le_mul_right n hpos
  omega

/-- Digits are read to their end while their number fits a word. -/
theorem wholeDigits_append {ds rest : List Char} (n : Nat) (hdigits : ∀ c ∈ ds, c.isDigit = true)
    (hrest : ∀ c, rest.head? = some c → c.isDigit = false)
    (hfits : Nat.ofDigitChars 10 ds n < 2 * Decimal.wordEnd) :
    wholeDigits n (ds ++ rest) = (Nat.ofDigitChars 10 ds n, 0, rest) := by
  induction ds generalizing n with
  | nil =>
    cases rest with
    | nil => rfl
    | cons c cs =>
      have hc : ¬ c.isDigit = true := by simp [hrest c rfl]
      rw [List.nil_append, wholeDigits, if_neg hc, Nat.ofDigitChars_nil]
  | cons d ds ih =>
    have hstep : 10 * n + (d.toNat - '0'.toNat) = n * 10 + digitValue d := by
      rw [digitValue, Nat.mul_comm]
    rw [Nat.ofDigitChars_cons, hstep] at hfits ⊢
    have hle := le_ofDigitChars ds (n * 10 + digitValue d)
    have hd : fits n d = true := by
      rw [fits, decide_eq_true_iff]
      omega
    rw [List.cons_append, wholeDigits, if_pos (hdigits d (by simp)), if_pos hd]
    exact ih _ (fun c hc => hdigits c (by simp [hc])) hfits

theorem Ends.head?_ne {rest : List Char} (h : Ends rest) {c : Char} (hc : rest.head? = some c) :
    c.isDigit = false ∧ c ≠ '.' ∧ c ≠ 'e' ∧ c ≠ 'E' := by
  have hspace : isSpace c = true → c = ' ' ∨ c = '\n' ∨ c = '\t' ∨ c = '\r' := by
    simp [isSpace, or_assoc]
  rcases h c hc with h | rfl | rfl | rfl
  · rcases hspace h with rfl | rfl | rfl | rfl <;> decide
  · decide
  · decide
  · decide

theorem readAfterWhole_of_ends {rest : List Char} (h : Ends rest) (positive : Bool) (n : Nat) :
    readAfterWhole positive n 0 rest = .ok (Numeral.ofWhole positive n, rest) := by
  unfold readAfterWhole
  split
  · exact absurd rfl (h.head?_ne (c := '.') rfl).2.1
  · exact absurd rfl (h.head?_ne (c := 'e') rfl).2.2.1
  · exact absurd rfl (h.head?_ne (c := 'E') rfl).2.2.2
  · rfl

/-- **A numeral** is read as its number, if that fits a word. -/
theorem readNumber_digits {n : Nat} (hn : n < 2 * Decimal.wordEnd) (positive : Bool)
    {rest : List Char} (hrest : Ends rest) :
    readNumber positive (Decimal.digits n ++ rest) = .ok (Numeral.ofWhole positive n, rest) := by
  have hdigit : ∀ c, rest.head? = some c → c.isDigit = false := fun c hc => (hrest.head?_ne hc).1
  obtain rfl | hpos := Nat.eq_zero_or_pos n
  · have hend := readAfterWhole_of_ends hrest positive 0
    rw [Decimal.digits_zero, List.singleton_append]
    unfold readNumber
    cases rest with
    | nil => exact hend
    | cons c cs =>
      have hc : ¬ c.isDigit = true := by simp [hdigit c rfl]
      simp only [if_pos, if_neg hc]
      exact hend
  · obtain ⟨d, ds, hd⟩ := List.exists_cons_of_ne_nil (Decimal.digits_ne_nil n)
    have hmem : ∀ c ∈ d :: ds, c.isDigit = true := fun c hc =>
      Decimal.isDigit_of_mem_digits (by rw [hd]; exact hc)
    have hzero : d ≠ '0' := by
      have hhead := Decimal.head?_digits_ne_zero hpos
      rw [hd] at hhead
      simpa using hhead
    have hvalue : Nat.ofDigitChars 10 ds (digitValue d) = n := by
      have h := Decimal.value_digits n
      rw [hd, Decimal.value, Nat.ofDigitChars_cons] at h
      simpa [digitValue] using h
    have hwhole : wholeDigits (digitValue d) (ds ++ rest) = (n, 0, rest) := by
      have hfits : Nat.ofDigitChars 10 ds (digitValue d) < 2 * Decimal.wordEnd := by
        rw [hvalue]
        exact hn
      rw [wholeDigits_append _ (fun c hc => hmem c (by simp [hc])) hdigit hfits, hvalue]
    rw [hd, List.cons_append]
    unfold readNumber
    simp only [if_neg hzero, if_pos (hmem d (by simp)), hwhole]
    exact readAfterWhole_of_ends hrest positive n

theorem isSpace_of_isDigit {d : Char} (hd : d.isDigit = true) : isSpace d = false := by
  simp [isSpace, Decimal.ne_of_isDigit hd]

theorem ofWhole_of_isWord {n : Int} (h : Decimal.isWord n = true) :
    Numeral.ofWhole (decide (¬ n < 0)) n.natAbs = .integer n := by
  have hword : -(Decimal.wordEnd : Int) ≤ n ∧ n < Decimal.wordEnd := by
    simpa [Decimal.isWord] using h
  unfold Numeral.ofWhole
  by_cases hneg : n < 0
  · have hsmall : ¬ (n.natAbs = 0 ∨ Decimal.wordEnd < n.natAbs) := by omega
    simp only [hneg, hsmall, Bool.or_eq_true, decide_eq_true_eq, not_true, decide_false]
    simp only [Bool.false_eq_true, if_false]
    congr 1
    omega
  · simp only [hneg, not_false_eq_true, decide_true, if_true]
    congr 1
    omega

/-- **A whole number of 64 bits** is taken for itself. -/
theorem takes_readLoose_number (levels : Nat) {n : Int} (h : Decimal.isWord n = true) :
    Takes (readLoose levels) (.integer n) (Decimal.int n) := by
  intro g rest hg hrest
  have hword : -(Decimal.wordEnd : Int) ≤ n ∧ n < Decimal.wordEnd := by
    simpa [Decimal.isWord] using h
  have hread := readNumber_digits (n := n.natAbs) (by omega) (decide (¬ n < 0)) hrest
  rw [ofWhole_of_isWord h] at hread
  unfold Decimal.int
  by_cases hneg : n < 0
  · simp only [hneg, not_true, decide_false] at hread
    rw [if_pos hneg, List.cons_append, readLoose, skipSpace_append hg rfl]
    simp [hread]
  · obtain ⟨d, ds, hd⟩ := List.exists_cons_of_ne_nil (Decimal.digits_ne_nil n.natAbs)
    have hdigit : d.isDigit = true := Decimal.isDigit_of_mem_digits (by rw [hd]; simp)
    rw [hd, List.cons_append] at hread
    simp only [hneg, not_false_eq_true, decide_true] at hread
    rw [if_neg hneg, hd, List.cons_append, readLoose,
      skipSpace_append hg (isSpace_of_isDigit hdigit)]
    have hne : d ≠ 'n' ∧ d ≠ 't' ∧ d ≠ 'f' ∧ d ≠ '-' :=
      ⟨Decimal.ne_of_isDigit hdigit rfl, Decimal.ne_of_isDigit hdigit rfl,
        Decimal.ne_of_isDigit hdigit rfl, Decimal.ne_of_isDigit hdigit rfl⟩
    simp [hdigit, hne, hread]

end BookCatalog.Json
