import BookCatalog.Text.Blank
import BookCatalog.Text.Decimal
import BookCatalog.Json.Value
import BookCatalog.Json.Reader

/-!
# Identifiers of books

The catalog gives a book a whole number or a text as its identifier.  Both are kept as a text
without blank space at its ends, so `1` and `"1"` name the same book.

* `Id.ofInt_eq_ofText` — a number and its numeral are one identifier;
* `Id.value` — the written form: a number where the text is the numeral of a 64-bit integer.
-/

namespace BookCatalog

/-- An identifier of a book. -/
structure Id where
  text : String
  /-- No blank space at the ends. -/
  trimmed : Text.trim text = text
  deriving DecidableEq

namespace Id

theorem eq_of_text {a b : Id} (h : a.text = b.text) : a = b := by
  obtain ⟨a, ha⟩ := a
  obtain ⟨b, hb⟩ := b
  obtain rfl : a = b := h
  rfl

def ofText (s : String) : Id := ⟨Text.trim s, Text.trim_trim s⟩

theorem isBlank_eq_false_of_mem_int {n : Int} {c : Char} (h : c ∈ Decimal.int n) :
    Text.isBlank c = false := by
  have hd : ∀ d : Char, d.isDigit = true → Text.isBlank d = false := by
    intro d hd
    simp only [Char.isDigit, Bool.and_eq_true, decide_eq_true_eq] at hd
    have h1 : 48 ≤ d.toNat := hd.1
    have h2 : d.toNat ≤ 57 := hd.2
    simp only [Text.isBlank, Bool.or_eq_false_iff, Bool.and_eq_false_iff, beq_eq_false_iff_ne,
      decide_eq_false_iff_not]
    omega
  unfold Decimal.int at h
  split at h
  · rcases List.mem_cons.1 h with rfl | h
    · decide
    · exact hd c (Decimal.isDigit_of_mem_digits h)
  · exact hd c (Decimal.isDigit_of_mem_digits h)

theorem trim_integer (n : Int) : Text.trim (Decimal.integer n) = Decimal.integer n := by
  apply Text.trim_of_not_blank
  · intro c hc
    rw [Decimal.integer, String.toList_ofList] at hc
    exact isBlank_eq_false_of_mem_int (List.mem_of_mem_head? (by simpa using hc))
  · intro c hc
    rw [Decimal.integer, String.toList_ofList] at hc
    exact isBlank_eq_false_of_mem_int (List.mem_of_getLast? hc)

def ofInt (n : Int) : Id := ⟨Decimal.integer n, trim_integer n⟩

theorem ofInt_eq_ofText (n : Int) : ofInt n = ofText (Decimal.integer n) := by
  simp [ofInt, ofText, trim_integer]

/-- The number whose numeral an identifier is, if it fits a 64-bit word. -/
def number? (id : Id) : Option Int := (Decimal.int? id.text.toList).filter Decimal.isWord

def value (id : Id) : Json.Value :=
  match id.number? with
  | some n => .number n
  | none => .text id.text

/-- An identifier, written as a number or as a text. -/
def read : Json.ValueReader Id := fun levels input =>
  match Json.readLoose levels input with
  | .error e => .error e
  | .ok (.integer n, rest) =>
    if Decimal.isWord n then .ok (ofInt n, rest) else .error (.floating (.noVariant "RawId") rest)
  | .ok (.text s, rest) => .ok (ofText s, rest)
  | .ok (.other, rest) => .error (.floating (.noVariant "RawId") rest)

/-- The order of identifiers: that of their texts, character by character. -/
def le (a b : Id) : Bool := a.text ≤ b.text

def sort (ids : List Id) : List Id := ids.mergeSort le

end Id

end BookCatalog
