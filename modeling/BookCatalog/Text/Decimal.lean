/-!
# Decimal numerals

Whole numbers in decimal: no sign on a positive number, no zero in front, nothing else.  Reading
accepts exactly what writing produces, so every integer has one numeral.

* `digits?_digits`, `eq_digits_of_digits?` — natural numbers;
* `int?_eq_some_iff` — integers: a text is read as `n` iff it is the numeral of `n`.
-/

namespace BookCatalog.Decimal

def digits (n : Nat) : List Char := Nat.toDigits 10 n

/-- The numeral of an integer: a minus sign in front of a negative number. -/
def int (n : Int) : List Char := if n < 0 then '-' :: digits n.natAbs else digits n.natAbs

/-- The value of a run of digits, zeros in front allowed. -/
def value (cs : List Char) : Nat := Nat.ofDigitChars 10 cs 0

/-- The natural number that a text is the numeral of, if any. -/
def digits? (cs : List Char) : Option Nat :=
  if digits (value cs) = cs then some (value cs) else none

/-- The integer that a text is the numeral of, if any. -/
def int? (cs : List Char) : Option Int :=
  match cs with
  | '-' :: ds => (digits? ds).bind fun n => if n = 0 then none else some (-(n : Int))
  | ds => (digits? ds).map Int.ofNat

def natural (n : Nat) : String := String.ofList (digits n)

def integer (n : Int) : String := String.ofList (int n)

/-- The least number above all integers of 64 bits. -/
def wordEnd : Nat := 9223372036854775808

/-- Whether a number is an integer of 64 bits, one of which is for the sign. -/
def isWord (n : Int) : Bool := -(wordEnd : Int) ≤ n && n < wordEnd

/-! ## Reading and writing agree -/

theorem value_digits (n : Nat) : value (digits n) = n := Nat.ofDigitChars_ten_toDigits

theorem digits?_digits (n : Nat) : digits? (digits n) = some n := by simp [digits?, value_digits]

theorem eq_digits_of_digits? {cs : List Char} {n : Nat} (h : digits? cs = some n) :
    cs = digits n := by
  unfold digits? at h
  split at h
  · next he => cases h; exact he.symm
  · cases h

theorem isDigit_of_mem_digits {n : Nat} {c : Char} (h : c ∈ digits n) : c.isDigit = true :=
  Nat.isDigit_of_mem_toDigits (by omega) (by omega) h

theorem digits_ne_nil (n : Nat) : digits n ≠ [] := Nat.toDigits_ne_nil

theorem minus_not_mem_digits (n : Nat) : '-' ∉ digits n := fun h => by
  have := isDigit_of_mem_digits h
  exact absurd this (by decide)

theorem ne_of_isDigit {d c : Char} (hd : d.isDigit = true) (hc : c.isDigit = false) : d ≠ c := by
  rintro rfl
  rw [hd] at hc
  cases hc

theorem digits_zero : digits 0 = ['0'] := Nat.toDigits_zero 10

theorem head?_digits_ne_zero {n : Nat} (h : 0 < n) : (digits n).head? ≠ some '0' := by
  induction n using Nat.strongRecOn with
  | ind n ih =>
    unfold digits at ih ⊢
    by_cases hlt : n < 10
    · have hsmall : ∀ m < 10, 0 < m → m.digitChar ≠ '0' := by decide
      rw [Nat.toDigits_of_lt_base hlt]
      simpa using hsmall n hlt h
    · have hhead := ih (n / 10) (by omega) (by omega)
      obtain ⟨d, ds, hd⟩ := List.exists_cons_of_ne_nil (digits_ne_nil (n / 10))
      rw [digits] at hd
      rw [Nat.toDigits_of_base_le (by decide) (by omega)]
      rw [hd] at hhead ⊢
      exact hhead

theorem digits_injective {m n : Nat} (h : digits m = digits n) : m = n := by
  rw [← value_digits m, h, value_digits]

theorem int?_int (n : Int) : int? (int n) = some n := by
  unfold int
  split
  · next hn =>
    have h0 : n.natAbs ≠ 0 := by omega
    simp only [int?, digits?_digits, Option.bind_some, if_neg h0]
    congr 1
    omega
  · next hn =>
    have hm := minus_not_mem_digits n.natAbs
    have hv := digits?_digits n.natAbs
    generalize digits n.natAbs = ds at hm hv ⊢
    unfold int?
    split
    · simp at hm
    · rw [hv, Option.map_some]
      congr 1
      exact Int.natAbs_of_nonneg (by omega)

theorem eq_int_of_int? {cs : List Char} {n : Int} (h : int? cs = some n) : cs = int n := by
  unfold int? at h
  split at h
  · next ds =>
    obtain ⟨m, hm, hn⟩ := Option.bind_eq_some_iff.1 h
    split at hn
    · cases hn
    · next h0 =>
      cases hn
      have h1 : (-(m : Int)) < 0 := by omega
      rw [int, if_pos h1, Int.natAbs_neg, Int.natAbs_natCast, eq_digits_of_digits? hm]
  · obtain ⟨m, hm, rfl⟩ := Option.map_eq_some_iff.1 h
    have h1 : ¬ (Int.ofNat m < 0) := by simp
    rw [int, if_neg h1]
    exact eq_digits_of_digits? hm

/-- A text is read as an integer exactly when it is that integer's numeral. -/
theorem int?_eq_some_iff {cs : List Char} {n : Int} : int? cs = some n ↔ cs = int n :=
  ⟨eq_int_of_int?, fun h => h ▸ int?_int n⟩

end BookCatalog.Decimal
