import BookCatalog.Proofs.Files.Walking

/-!
# What is added and what is kept

Making folders only adds folders: all that was there is still there.  Writing a text changes one
place, to which its path leads.

* `Files.AddsFolders` — a file system with more folders, one after the other;
* `Files.makeFolders_adds` — making folders, whether it succeeds or not;
* `Files.Writes` — a file system with a file written at the end of a path;
* `Files.writeText_writes` — writing a text.
-/

namespace BookCatalog.Files

variable {before after files made : Files} {place other : Location} {path : String}

/-- The same file is at a place in both file systems, or none in either. -/
def SameFileAt (a b : Files) (place : Location) : Prop :=
  ∀ bytes, a.at? place = some (.file bytes) ↔ b.at? place = some (.file bytes)

/-! ## Folders -/

/-- All of a file system, and folders added one after the other where nothing was. -/
inductive AddsFolders (before : Files) : Files → Prop
  | refl : AddsFolders before before
  | add {after : Files} {name : String} {around : Location} (h : AddsFolders before after)
      (hfolder : after.at? around = some .folder) (hnone : after.at? (name :: around) = none) :
      AddsFolders before (after.put (name :: around) .folder)

namespace AddsFolders

theorem trans (h : AddsFolders before files) (hmore : AddsFolders files after) :
    AddsFolders before after := by
  induction hmore with
  | refl => exact h
  | add _ hfolder hnone ih => exact ih.add hfolder hnone

theorem start_eq (h : AddsFolders before after) : after.start = before.start := by
  induction h with
  | refl => rfl
  | add _ _ _ ih => exact ih

theorem at?_of_some (h : AddsFolders before after) {entry : Entry}
    (hentry : before.at? place = some entry) : after.at? place = some entry := by
  induction h with
  | refl => exact hentry
  | @add after name around _ _ hnone ih =>
    have hne : place ≠ name :: around := by
      rintro rfl
      rw [ih] at hnone
      cases hnone
    rw [at?_put_of_ne _ hne, ih]

theorem at?_cases (h : AddsFolders before after) (place : Location) :
    after.at? place = before.at? place ∨
      before.at? place = none ∧ after.at? place = some .folder := by
  induction h with
  | refl => exact .inl rfl
  | @add after name around _ _ hnone ih =>
    by_cases hplace : place = name :: around
    · subst hplace
      rw [at?_put_self _ (List.cons_ne_nil _ _)]
      rw [hnone] at ih
      obtain hsame | ⟨-, hnew⟩ := ih
      · exact .inr ⟨hsame.symm, rfl⟩
      · cases hnew
    · rwa [at?_put_of_ne _ hplace]

theorem sameFileAt (h : AddsFolders before after) (place : Location) :
    before.SameFileAt after place := by
  intro bytes
  obtain hsame | ⟨hnone, hfolder⟩ := h.at?_cases place
  · rw [hsame]
  · simp [hnone, hfolder]

theorem rooted (h : AddsFolders before after) (hrooted : before.Rooted) : after.Rooted := by
  induction h with
  | refl => exact hrooted
  | add _ hfolder hnone ih => exact ih.put hfolder (by simp [hnone]) _

end AddsFolders

theorem makeFolder_adds (h : files.makeFolder path = .ok made) : AddsFolders files made := by
  obtain ⟨target, htarget, h⟩ := bind_eq_ok_iff.1 h
  cases target with
  | standing => cases h
  | place place slash =>
    obtain ⟨⟨name, around, rfl, hfolder⟩, -⟩ := target_place htarget
    cases hat : files.at? (name :: around) with
    | some entry =>
      simp only [hat] at h
      cases h
    | none =>
      simp only [hat] at h
      obtain rfl := Except.ok.inj h
      exact .add .refl hfolder hat

theorem ensureFolder_adds (h : files.ensureFolder path = .ok made) : AddsFolders files made := by
  unfold ensureFolder at h
  split at h
  · next heq =>
    obtain rfl := Except.ok.inj h
    exact makeFolder_adds heq
  · split_ifs at h
    obtain rfl := Except.ok.inj h
    exact .refl

theorem ensureFolder_of_isFolder (h : files.isFolder path = true) :
    files.ensureFolder path = .ok files := by
  unfold ensureFolder
  split
  · next made hmade =>
    obtain ⟨target, htarget, hmade⟩ := bind_eq_ok_iff.1 hmade
    cases target with
    | standing => cases hmade
    | place place slash =>
      obtain ⟨there, hleads, hfolder⟩ := isFolder_iff.1 h
      have hsome := at?_of_target htarget (holds_iff.2 ⟨there, .folder, hleads, hfolder⟩)
      obtain ⟨entry, hat⟩ := Option.ne_none_iff_exists'.1 hsome
      simp only [hat] at hmade
      cases hmade
  · rw [if_pos h]

/-- By induction on how far the folders around are made, too. -/
theorem makeFoldersWithin_adds (files : Files) (depth : Nat) (path : String) :
    AddsFolders files (files.makeFoldersWithin depth path).1 := by
  induction depth generalizing path with
  | zero => exact .refl
  | succ depth ih =>
    unfold makeFoldersWithin
    split_ifs
    · exact .refl
    · split
      · next hmade => exact ensureFolder_adds hmade
      · split
        · exact .refl
        · next around _ =>
          have hthere := ih around
          split
          · next hfailed => rwa [hfailed] at hthere
          · next hdone =>
            rw [hdone] at hthere
            split
            · next hmade => exact hthere.trans (ensureFolder_adds hmade)
            · exact hthere
      · exact .refl

/-- **Making folders**, whether it succeeds or not, only adds folders. -/
theorem makeFolders_adds (files : Files) (path : String) :
    AddsFolders files (files.makeFolders path).1 :=
  makeFoldersWithin_adds files _ path

/-! ## Files -/

/-- A path leads to a place in a folder where no folder is, and there a file is put. -/
structure Writes (before : Files) (path : String) (bytes : List UInt8) (place : Location)
    (after : Files) : Prop where
  inFolder : ∃ name around, place = name :: around ∧ before.at? around = some .folder
  free : before.at? place ≠ some .folder
  leads : before.locate path = .ok place
  after_eq : after = before.put place (.file bytes)

namespace Writes

variable {bytes : List UInt8}

theorem at?_self (h : Writes before path bytes place after) :
    after.at? place = some (.file bytes) := by
  obtain ⟨name, around, rfl, -⟩ := h.inFolder
  rw [h.after_eq, at?_put_self _ (List.cons_ne_nil _ _)]

theorem at?_of_ne (h : Writes before path bytes place after) (hne : other ≠ place) :
    after.at? other = before.at? other := by
  rw [h.after_eq, at?_put_of_ne _ hne]

theorem start_eq (h : Writes before path bytes place after) : after.start = before.start := by
  rw [h.after_eq, start_put]

theorem folder (h : Writes before path bytes place after)
    (hfolder : before.at? other = some .folder) : after.at? other = some .folder := by
  have hne : other ≠ place := by
    rintro rfl
    exact h.free hfolder
  rw [h.at?_of_ne hne, hfolder]

theorem locate_eq (h : Writes before path bytes place after) : after.locate path = .ok place :=
  locate_mono h.start_eq (fun _ => h.folder) h.leads

theorem rooted (h : Writes before path bytes place after) (hrooted : before.Rooted) :
    after.Rooted := by
  have hfree := h.free
  rw [h.after_eq]
  obtain ⟨name, around, rfl, hfolder⟩ := h.inFolder
  exact hrooted.put hfolder hfree _

end Writes

/-- **Writing a text** puts it at the end of its path. -/
theorem writeText_writes {text : String} (h : files.writeText path text = .ok after) :
    ∃ place, Writes files path (Utf8.encode text.toList) place after := by
  obtain ⟨target, htarget, h⟩ := bind_eq_ok_iff.1 h
  cases target with
  | standing => cases h
  | place place slash =>
    cases slash with
    | true => cases h
    | false =>
      obtain ⟨hfolder, hleads⟩ := target_place htarget
      refine ⟨place, hfolder, ?_, hleads rfl, ?_⟩
      · intro hat
        simp only [hat] at h
        cases h
      · dsimp only at h
        split at h
        · cases h
        · exact (Except.ok.inj h).symm

theorem exists_writeText (htarget : files.target path = .ok (.place place false))
    (hfree : files.at? place ≠ some .folder) (text : String) :
    ∃ after, files.writeText path text = .ok after := by
  refine ⟨files.put place (.file (Utf8.encode text.toList)), ?_⟩
  rw [writeText, writeBytes, htarget]
  rcases hat : files.at? place with _ | entry
  · simp only [bind, Except.bind, hat]
    rfl
  · cases entry with
    | file bytes =>
      simp only [bind, Except.bind, hat]
      rfl
    | folder => exact absurd hat hfree

theorem readBytes_eq_ok_iff {bytes : List UInt8} : files.readBytes path = .ok bytes ↔
    ∃ place, files.locate path = .ok place ∧ files.at? place = some (.file bytes) := by
  rw [readBytes, bind_eq_ok_iff, ← find_eq_ok_iff]
  constructor
  · rintro ⟨_ | found, hfind, hfile⟩
    · cases hfile
    · obtain rfl := Except.ok.inj hfile
      exact hfind
  · intro hfind
    exact ⟨_, hfind, rfl⟩

theorem AddsFolders.readBytes_eq {bytes : List UInt8} (h : AddsFolders before after)
    (hread : before.readBytes path = .ok bytes) : after.readBytes path = .ok bytes := by
  obtain ⟨place, hleads, hat⟩ := readBytes_eq_ok_iff.1 hread
  exact readBytes_eq_ok_iff.2
    ⟨place, locate_mono h.start_eq (fun _ => h.at?_of_some) hleads, h.at?_of_some hat⟩

end BookCatalog.Files
