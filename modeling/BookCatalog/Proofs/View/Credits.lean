import BookCatalog.Proofs.Text.Splitting
import BookCatalog.View.Results

/-!
# Labelled pieces

The pieces of a labelled line are told apart by the separator between each two of them.  The shown
names of people are separated by a comma with a space, which is exchanged in each of them where it
first stands.

* `Person.absent_displayName_iff` — shown names that do not hold the separator;
* `View.pieces?_labelled_iff` — pieces that are read back from their line;
* `View.credits_read_back` — people, shelves, subjects and languages are read back.
-/

namespace BookCatalog

theorem Person.absent_displayName_iff (p : Person) :
    ¬ ", ".toList <:+: p.displayName.toList ↔ Text.occurrences ", ".toList p.name.toList ≤ 1 := by
  have hrestarts : Text.restarts ", ".toList = [] := by decide
  have hhyphen : '-' ∉ ", ".toList := by decide
  have hshown : p.displayName.toList = Text.replaceFirst ", ".toList ['-'] p.name.toList :=
    String.toList_ofList
  rw [hshown]
  exact Text.absent_replaceFirst_iff (by decide) hrestarts hhyphen

namespace View

/-- The pieces that a line shows behind its label, if it is a line with this label: its text is
split at every separator. -/
def pieces? (label sep shown : String) : Option (List String) := do
  let text ← (label ++ ": ").toList.isPrefixOf? shown.toList
  if text.getLast? = some '\n' then
    return (Text.split sep.toList text.dropLast).map String.ofList
  else none

theorem pieces?_line (label sep text : String) :
    pieces? label sep (line (label ++ ": " ++ text)) =
      some ((Text.split sep.toList text.toList).map String.ofList) := by
  have hbehind : (label ++ ": ").toList.isPrefixOf? (line (label ++ ": " ++ text)).toList =
      some (text.toList ++ ['\n']) :=
    List.isPrefixOf?_eq_some_iff_append_eq.2 (by simp [line])
  rw [pieces?, hbehind]
  simp

theorem pieces?_empty (label sep : String) : pieces? label sep "" = none := by
  have hlabel : (label ++ ": ").toList.isPrefixOf? "".toList = none := by
    refine Option.eq_none_iff_forall_ne_some.2 fun text htext => ?_
    have hnil := List.isPrefixOf?_eq_some_iff_append_eq.1 htext
    simp at hnil
  rw [pieces?, hlabel]
  rfl

/-- **Pieces are read back** from their line exactly if there are any and none of them holds the
separator, whatever they begin or end with. -/
theorem pieces?_labelled_iff {sep : String} (hsep : sep.toList ≠ [])
    (hrestarts : Text.restarts sep.toList = []) (label : String) (pieces : List String) :
    pieces? label sep (labelled label sep pieces) = some pieces ↔
      pieces ≠ [] ∧ ∀ piece ∈ pieces, ¬ sep.toList <:+: piece.toList := by
  by_cases hnil : pieces = []
  · rw [labelled, if_pos hnil, pieces?_empty, hnil]
    simp
  · have hchars : ∀ lists : List (List Char),
        lists.map String.ofList = pieces ↔ lists = pieces.map String.toList := by
      intro lists
      rw [← List.map_inj_right fun _ _ => String.ofList_injective, Text.map_ofList_map_toList]
    rw [labelled, if_neg hnil, pieces?_line, Text.join, String.toList_ofList, Option.some_inj,
      hchars, Text.split_joined_iff hsep hrestarts]
    simp

/-- **Credits are read back**, one shown name for each person and in their order, exactly where
there is a person and no name holds a comma with a space twice: the names may begin and end with
commas and spaces, and they may be empty.  Shelves, subjects and languages are read back exactly
where there are any and none of them holds a semicolon with a space. -/
theorem credits_read_back (label : String) :
    (∀ persons : List Person,
      pieces? label ", " (people label persons) = some (persons.map Person.displayName) ↔
        persons ≠ [] ∧ ∀ p ∈ persons, Text.occurrences ", ".toList p.name.toList ≤ 1) ∧
    ∀ items : List String,
      pieces? label "; " (labelled label "; " items) = some items ↔
        items ≠ [] ∧ ∀ item ∈ items, ¬ "; ".toList <:+: item.toList := by
  refine ⟨fun persons => ?_, pieces?_labelled_iff (by decide) (by decide) label⟩
  rw [people, pieces?_labelled_iff (by decide) (by decide), List.forall_mem_map,
    ne_eq, List.map_eq_nil_iff]
  simp only [Person.absent_displayName_iff, ne_eq]

/-- Names that end where the separator begins or begin where it ends, and an empty one. -/
example :
    pieces? "Author" ", " (people "Author" [⟨"Austen,"⟩, ⟨""⟩, ⟨" Shelley, Mary,"⟩]) =
      some ["Austen,", "", " Shelley-Mary,"] := by
  decide

end View

end BookCatalog
