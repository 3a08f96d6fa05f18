/-!
# Blank space

The characters of the Unicode class `White_Space`, and texts stripped of them at both ends.

* `trim_of_not_blank` — a text with no blank at either end is its own trimmed form;
* `trim_trim` — trimming twice is trimming once.
-/

namespace BookCatalog.Text

/-- A character of the Unicode class `White_Space`. -/
def isBlank (c : Char) : Bool :=
  let n := c.toNat
  (9 ≤ n && n ≤ 13) || n == 0x20 || n == 0x85 || n == 0xA0 || n == 0x1680 ||
    (0x2000 ≤ n && n ≤ 0x200A) || n == 0x2028 || n == 0x2029 || n == 0x202F || n == 0x205F ||
    n == 0x3000

/-- A text without the characters of a class at its end. -/
def dropEnd (p : Char → Bool) (cs : List Char) : List Char := (cs.reverse.dropWhile p).reverse

/-- A text without the characters of a class at its start and at its end. -/
def strip (p : Char → Bool) (cs : List Char) : List Char := dropEnd p (cs.dropWhile p)

/-- A text without the blank space at its start and at its end. -/
def trim (s : String) : String := String.ofList (strip isBlank s.toList)

/-! ## Stripping is idempotent -/

theorem dropWhile_dropWhile_self (p : Char → Bool) (cs : List Char) :
    (cs.dropWhile p).dropWhile p = cs.dropWhile p := by
  induction cs with
  | nil => rfl
  | cons c cs ih => by_cases h : p c <;> simp [h, ih]

theorem strip_eq_self {p : Char → Bool} {cs : List Char}
    (hd : ∀ c, cs.head? = some c → p c = false) (hl : ∀ c, cs.getLast? = some c → p c = false) :
    strip p cs = cs := by
  have key : ∀ l : List Char, (∀ c, l.head? = some c → p c = false) → l.dropWhile p = l := by
    intro l h
    cases l with
    | nil => rfl
    | cons c l => simp [h c rfl]
  unfold strip dropEnd
  rw [key cs hd, key cs.reverse (by simpa using hl), List.reverse_reverse]

theorem head?_dropWhile (p : Char → Bool) (cs : List Char) :
    ∀ c, (cs.dropWhile p).head? = some c → p c = false := by
  induction cs with
  | nil => simp
  | cons c cs ih =>
    intro d hd
    by_cases h : p c
    · exact ih d (by simpa [h] using hd)
    · simp [h] at hd
      simpa [hd] using h

theorem getLast?_dropEnd (p : Char → Bool) (cs : List Char) :
    ∀ c, (dropEnd p cs).getLast? = some c → p c = false := by
  intro c hc
  apply head?_dropWhile p cs.reverse
  simpa [dropEnd] using hc

theorem head?_dropEnd (p : Char → Bool) (cs : List Char) :
    ∀ c, (dropEnd p cs).head? = some c → cs.head? = some c := by
  intro c hc
  have h : (cs.reverse.takeWhile p ++ cs.reverse.dropWhile p) = cs.reverse :=
    List.takeWhile_append_dropWhile
  have h' : cs = dropEnd p cs ++ (cs.reverse.takeWhile p).reverse := by
    rw [dropEnd, ← List.reverse_append, h, List.reverse_reverse]
  rw [h', List.head?_append, hc]
  rfl

theorem strip_strip (p : Char → Bool) (cs : List Char) : strip p (strip p cs) = strip p cs :=
  strip_eq_self
    (fun c hc => head?_dropWhile p cs c (head?_dropEnd p _ c hc))
    (fun c hc => getLast?_dropEnd p _ c hc)

theorem trim_trim (s : String) : trim (trim s) = trim s := by
  simp [trim, strip_strip]

theorem trim_of_not_blank {s : String} (hd : ∀ c, s.toList.head? = some c → isBlank c = false)
    (hl : ∀ c, s.toList.getLast? = some c → isBlank c = false) : trim s = s := by
  simp [trim, strip_eq_self hd hl]

end BookCatalog.Text
