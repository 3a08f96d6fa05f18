import BookCatalog.Text.Blank
import Mathlib.Data.List.Basic
import Mathlib.Data.List.TakeDrop
import Mathlib.Data.List.TakeWhile

/-!
# Ends of texts

What is left of a text when the characters of a class are taken off at its ends.

* `exists_eq_of_strip` — a text is what is left of it, between characters of the class;
* `Stripped` — a text without the blank space at its ends, and `trim_eq_iff`.
-/

namespace BookCatalog.Text

variable {p : Char → Bool}

theorem dropEnd_append_cons {a : Char} (h : p a = false) (xs ys : List Char) :
    dropEnd p (xs ++ a :: ys) = xs ++ a :: dropEnd p ys := by
  have ha : (a :: xs.reverse).dropWhile p = a :: xs.reverse :=
    List.dropWhile_cons_of_neg (by simp [h])
  unfold dropEnd
  rw [List.reverse_append, List.reverse_cons, List.append_assoc, List.singleton_append,
    List.dropWhile_append, ha]
  split
  · next hnil =>
    have hnil : ys.reverse.dropWhile p = [] := by simpa using hnil
    simp [hnil]
  · simp

theorem dropEnd_append {ys : List Char} (h : ∀ c ∈ ys, p c = true) (xs : List Char) :
    dropEnd p (dropEnd p xs ++ ys) = dropEnd p xs := by
  unfold dropEnd
  rw [List.reverse_append, List.reverse_reverse,
    List.dropWhile_append_of_pos fun c hc => h c (List.mem_reverse.1 hc), dropWhile_dropWhile_self]

theorem exists_eq_dropEnd (p : Char → Bool) (cs : List Char) :
    ∃ back, cs = dropEnd p cs ++ back ∧ ∀ c ∈ back, p c = true := by
  refine ⟨(cs.reverse.takeWhile p).reverse, ?_, fun c hc => ?_⟩
  · rw [dropEnd, ← List.reverse_append, List.takeWhile_append_dropWhile, List.reverse_reverse]
  · exact List.all_eq_true.1 List.all_takeWhile c (List.mem_reverse.1 hc)

/-- A text is what is left of it after stripping, between characters of the class. -/
theorem exists_eq_of_strip (p : Char → Bool) (cs : List Char) :
    ∃ front back, cs = front ++ strip p cs ++ back ∧ (∀ c ∈ front, p c = true) ∧
      ∀ c ∈ back, p c = true := by
  have hfront : cs.takeWhile p ++ cs.dropWhile p = cs := List.takeWhile_append_dropWhile
  obtain ⟨back, hcs, hback⟩ := exists_eq_dropEnd p (cs.dropWhile p)
  refine ⟨cs.takeWhile p, back, ?_, ?_, hback⟩
  · rw [strip, List.append_assoc, ← hcs, hfront]
  · exact fun c hc => List.all_eq_true.1 List.all_takeWhile c hc

theorem head?_strip (p : Char → Bool) (cs : List Char) :
    ∀ c, (strip p cs).head? = some c → p c = false :=
  fun c hc => head?_dropWhile p cs c (head?_dropEnd p _ c hc)

/-- **Stripping** takes the characters of the class off on both sides of a text that has none of
them at its ends. -/
theorem strip_append_append {front cs back : List Char} (hfront : ∀ c ∈ front, p c = true)
    (hback : ∀ c ∈ back, p c = true) (hhead : ∀ c, cs.head? = some c → p c = false)
    (hlast : ∀ c, cs.getLast? = some c → p c = false) : strip p (front ++ cs ++ back) = cs := by
  have hgone : dropEnd p back = [] := by
    rw [dropEnd, List.dropWhile_eq_nil_iff.2 fun c hc => hback c (List.mem_reverse.1 hc)]
    rfl
  rw [strip, List.append_assoc, List.dropWhile_append_of_pos hfront]
  obtain rfl | ⟨before, last, rfl⟩ := List.eq_nil_or_concat' cs
  · rw [List.nil_append, List.dropWhile_eq_nil_iff.2 hback]
    rfl
  · have hkept : (before ++ [last] ++ back).dropWhile p = before ++ last :: back := by
      rw [List.append_assoc, List.singleton_append]
      cases before with
      | nil => exact List.dropWhile_cons_of_neg (by simp [hhead last rfl])
      | cons c before => exact List.dropWhile_cons_of_neg (by simp [hhead c rfl])
    rw [hkept, dropEnd_append_cons (hlast last List.getLast?_concat), hgone]

theorem dropWhile_append_cons {a : Char} (h : p a = false) (xs ys : List Char) :
    (xs ++ a :: ys).dropWhile p = xs.dropWhile p ++ a :: ys := by
  rw [List.dropWhile_append, List.dropWhile_cons_of_neg (by simp [h])]
  split
  · next hnil => rw [List.isEmpty_iff.1 hnil, List.nil_append]
  · rfl

theorem strip_append_cons {a : Char} (h : p a = false) (xs : List Char) {ys : List Char}
    (hys : ∀ c ∈ ys, p c = false) : strip p (xs ++ a :: ys) = xs.dropWhile p ++ a :: ys := by
  have hend : dropEnd p ys = ys := by
    rw [dropEnd, List.dropWhile_eq_self_iff.2, List.reverse_reverse]
    intro hpos
    rw [hys _ (List.mem_reverse.1 (List.getElem_mem hpos))]
    exact Bool.false_ne_true
  rw [strip, dropWhile_append_cons h, dropEnd_append_cons h, hend]

/-! ## Blank space -/

/-- One text is another without the blank space at its ends. -/
def Stripped (s t : String) : Prop :=
  ∃ front back, s.toList = front ++ t.toList ++ back ∧ (∀ c ∈ front, isBlank c = true) ∧
    (∀ c ∈ back, isBlank c = true) ∧ (∀ c, t.toList.head? = some c → isBlank c = false) ∧
    ∀ c, t.toList.getLast? = some c → isBlank c = false

/-- **The trimmed form** of a text is the text without the blank space at its ends. -/
theorem trim_eq_iff {s t : String} : trim s = t ↔ Stripped s t := by
  constructor
  · rintro rfl
    obtain ⟨front, back, hs, hfront, hback⟩ := exists_eq_of_strip isBlank s.toList
    refine ⟨front, back, ?_, hfront, hback, fun c hc => ?_, fun c hc => ?_⟩
    · rw [trim, String.toList_ofList, ← hs]
    · rw [trim, String.toList_ofList] at hc
      exact head?_strip isBlank s.toList c hc
    · rw [trim, String.toList_ofList] at hc
      exact getLast?_dropEnd isBlank _ c hc
  · rintro ⟨front, back, hs, hfront, hback, hhead, hlast⟩
    rw [trim, hs, strip_append_append hfront hback hhead hlast, String.ofList_toList]

end BookCatalog.Text
