import BookCatalog.Proofs.Files.Walking
import BookCatalog.Proofs.Url.Encoding

/-!
# Paths of what is inside a folder

A name behind the path of a folder is the path of something directly inside, however many slashes
the path of the folder ends in.

* `Path.exists_steps_child` — the steps of such a path;
* `Files.locate_child` — where it leads: from where the folder is, one step further in.
-/

namespace BookCatalog

/-! ## Paths -/

namespace Path

/-- A text that names something inside a folder: a single step that goes further in. -/
structure IsName (name : String) : Prop where
  slash : '/' ∉ name.toList
  idle : isIdle name = false
  up : name ≠ ".."

instance (name : String) : Decidable (IsName name) :=
  decidable_of_iff ('/' ∉ name.toList ∧ isIdle name = false ∧ name ≠ "..")
    ⟨fun ⟨hslash, hidle, hup⟩ => ⟨hslash, hidle, hup⟩, fun h => ⟨h.slash, h.idle, h.up⟩⟩

variable {folder name : String}

theorem IsName.isAbsolute (h : IsName name) : isAbsolute name = false := by
  rw [Path.isAbsolute, decide_eq_false_iff_not]
  exact fun hhead => h.slash (List.mem_of_head? hhead)

theorem exists_child_eq_append (folder : String) (hname : IsName name) :
    ∃ rest, child folder name = folder ++ rest := by
  unfold child
  rw [hname.isAbsolute, if_neg Bool.false_ne_true]
  split
  · exact ⟨name, rfl⟩
  · exact ⟨"/" ++ name, String.append_assoc⟩

/-- One slash is in front of the name, that at the end of the path of the folder or another one. -/
theorem exists_toList_child (hfolder : folder ≠ "") (hname : IsName name) :
    ∃ stem, (child folder name).toList = stem ++ '/' :: name.toList ∧
      (folder.toList = stem ∨ folder.toList = stem ++ ['/']) := by
  unfold child
  rw [hname.isAbsolute, if_neg Bool.false_ne_true]
  by_cases hlast : folder.toList.getLast? = some '/'
  · have hstem := List.dropLast_append_getLast? '/' hlast
    refine ⟨folder.toList.dropLast, ?_, .inr hstem.symm⟩
    rw [if_pos (by simp [hlast]), String.toList_append]
    conv_lhs => rw [← hstem]
    simp
  · refine ⟨folder.toList, ?_, .inl rfl⟩
    rw [if_neg (by simp [hfolder, hlast])]
    simp

theorem child_ne_empty (hfolder : folder ≠ "") (hname : IsName name) : child folder name ≠ "" := by
  obtain ⟨stem, hchild, -⟩ := exists_toList_child hfolder hname
  intro hempty
  rw [hempty] at hchild
  simp at hchild

theorem exists_steps_child (hfolder : folder ≠ "") (hname : IsName name) :
    ∃ before, steps (child folder name) = before ++ [name] ∧
      (steps folder = before ∨ steps folder = before ++ [""]) := by
  obtain ⟨stem, hchild, hstem⟩ := exists_toList_child hfolder hname
  refine ⟨(Text.cut '/' stem).map String.ofList, ?_, ?_⟩
  · rw [steps, hchild, Text.cut_append_cons, Text.cut_of_not_mem hname.slash]
    simp
  · rcases hstem with hstem | hstem
    · exact .inl (by rw [steps, hstem])
    · refine .inr ?_
      rw [steps, hstem, Text.cut_append_cons, List.map_append]
      rfl

end Path

/-! ## Places -/

namespace Files

variable {files : Files} {folder name rest : String} {start place : Location}

theorem origin_of_append (h : files.origin (folder ++ rest) = .ok start) (hfolder : folder ≠ "") :
    files.origin folder = .ok start := by
  obtain ⟨c, cs, hcs⟩ : ∃ c cs, folder.toList = c :: cs :=
    List.exists_cons_of_ne_nil fun hnil => hfolder (String.toList_inj.1 hnil)
  have habsolute : Path.isAbsolute (folder ++ rest) = Path.isAbsolute folder := by
    simp [Path.isAbsolute, hcs]
  have hlength : (folder ++ rest).utf8ByteSize = folder.utf8ByteSize + rest.utf8ByteSize :=
    String.utf8ByteSize_append
  unfold origin at h ⊢
  rw [habsolute] at h
  split at h
  · cases h
  · next hzero =>
    rw [String.toList_append, List.contains_append, Bool.or_eq_true, not_or] at hzero
    rw [if_neg hzero.1]
    split at h
    · cases h
    · next hlong =>
      rw [if_neg (by omega), if_neg hfolder]
      split at h
      · cases h
      · exact h

/-- **Something inside a folder** is one step further in than the folder. -/
theorem locate_child (h : files.locate (Path.child folder name) = .ok place)
    (hfolder : folder ≠ "") (hname : Path.IsName name) :
    ∃ around, files.locate folder = .ok around ∧ place = name :: around := by
  obtain ⟨start, horigin, hwalk⟩ := locate_eq_ok_iff.1 h
  obtain ⟨rest, hrest⟩ := Path.exists_child_eq_append folder hname
  rw [hrest] at horigin
  obtain ⟨before, hsteps, hbefore⟩ := Path.exists_steps_child hfolder hname
  rw [hsteps, walk_append] at hwalk
  obtain ⟨around, haround, hlast⟩ := bind_eq_ok_iff.1 hwalk
  obtain ⟨next, hstep, hnext⟩ := walk_cons_eq_ok_iff.1 hlast
  obtain rfl := Except.ok.inj hnext
  obtain ⟨hat, hcases⟩ := step_cases hstep
  refine ⟨around, locate_eq_ok_iff.2 ⟨start, origin_of_append horigin hfolder, ?_⟩, ?_⟩
  · rcases hbefore with hbefore | hbefore
    · rw [hbefore, haround]
    · -- the step behind the slash at the end stays in the folder
      have hstay : files.step around "" = .ok around := by
        simp [step, enter, hat, Path.isIdle, bind, Except.bind, pure, Except.pure]
      rw [hbefore, walk_append, haround]
      exact walk_cons_eq_ok_iff.2 ⟨around, hstay, rfl⟩
  · obtain ⟨hidle, -⟩ | ⟨hup, -⟩ | ⟨-, -, rfl⟩ := hcases
    · rw [hname.idle] at hidle
      cases hidle
    · exact absurd hup hname.up
    · rfl

end Files

end BookCatalog
