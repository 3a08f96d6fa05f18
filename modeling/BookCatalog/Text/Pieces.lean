/-!
# Pieces of a text

A separator joins pieces into a text and cuts a text into pieces, and a word in a text may be
exchanged for another where it first occurs.

* `cut_joined` — pieces joined by a separator character that none of them holds are got back by
  cutting at it.
-/

namespace BookCatalog.Text

/-- A text with the first occurrence of `old`, read from the left, exchanged for `new`. -/
def replaceFirst (old new : List Char) : List Char → List Char
  | [] => if old = [] then new else []
  | c :: cs =>
    match old.isPrefixOf? (c :: cs) with
    | some rest => new ++ rest
    | none => c :: replaceFirst old new cs

/-- A text with the first occurrence of a word exchanged for another word. -/
def exchange (old new s : String) : String :=
  String.ofList (replaceFirst old.toList new.toList s.toList)

def joined (sep : List Char) (pieces : List (List Char)) : List Char := sep.intercalate pieces

def join (sep : String) (pieces : List String) : String :=
  String.ofList (joined sep.toList (pieces.map String.toList))

/-- The pieces of a text between the occurrences of a separator character. -/
def cut (sep : Char) : List Char → List (List Char)
  | [] => [[]]
  | c :: cs =>
    if c = sep then [] :: cut sep cs
    else match cut sep cs with
      | [] => [[c]]
      | p :: ps => (c :: p) :: ps

/-- The text before the first occurrence of a character, and the text after it, if it occurs. -/
def cutFirst (sep : Char) (cs : List Char) : List Char × Option (List Char) :=
  match cs.span (· != sep) with
  | (before, []) => (before, none)
  | (before, _ :: after) => (before, some after)

theorem map_ofList_map_toList (texts : List String) :
    (texts.map String.toList).map String.ofList = texts := by
  rw [List.map_map]
  exact (List.map_congr_left fun _ _ => String.ofList_toList).trans (List.map_id texts)

/-! ## Cutting undoes joining -/

theorem cut_ne_nil (sep : Char) (cs : List Char) : cut sep cs ≠ [] := by
  cases cs with
  | nil => simp [cut]
  | cons c cs =>
    by_cases h : c = sep
    · simp [cut, h]
    · cases h' : cut sep cs <;> simp [cut, h, h']

theorem cut_of_not_mem {sep : Char} {p : List Char} (h : sep ∉ p) : cut sep p = [p] := by
  induction p with
  | nil => rfl
  | cons c cs ih =>
    have hc : c ≠ sep := fun e => h (by simp [e])
    have hcs : sep ∉ cs := fun e => h (by simp [e])
    simp [cut, hc, ih hcs]

theorem cut_append {sep : Char} {p : List Char} (h : sep ∉ p) (cs : List Char) :
    cut sep (p ++ sep :: cs) = p :: cut sep cs := by
  induction p with
  | nil => simp [cut]
  | cons c r ih =>
    have hc : c ≠ sep := fun e => h (by simp [e])
    have hr : sep ∉ r := fun e => h (by simp [e])
    simp [cut, hc, ih hr]

/-- Pieces without the separator come back from the text that joins them. -/
theorem cut_joined {sep : Char} {p : List Char} {ps : List (List Char)}
    (h : ∀ q ∈ p :: ps, sep ∉ q) : cut sep (joined [sep] (p :: ps)) = p :: ps := by
  induction ps generalizing p with
  | nil => simpa [joined, List.intercalate] using cut_of_not_mem (h p (by simp))
  | cons q qs ih =>
    have hp : sep ∉ p := h p (by simp)
    have hq := ih (p := q) (fun r hr => h r (List.mem_cons_of_mem _ hr))
    have e : joined [sep] (p :: q :: qs) = p ++ sep :: joined [sep] (q :: qs) := by
      simp [joined, List.intercalate, List.intersperse]
    rw [e, cut_append hp, hq]

end BookCatalog.Text
