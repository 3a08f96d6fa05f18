import BookCatalog.Proofs.Files.Alike
import BookCatalog.Proofs.Files.Writing
import BookCatalog.Proofs.Settings.RoundTrip

/-!
# Saving settings

Saving makes the folders around a path and then writes one file.  If it fails, only folders were
added.

* `Config.KeptAt` — settings in a file at a place, everything else as before but for more folders;
* `Config.save_of_ok`, `Config.save_of_error` — what saving does;
* `Config.restores` — which settings can be saved, and that they are got back;
* `Config.init_of_ok`, `Config.init_of_error` — what initialising settings does;
* `Config.KeptAt.at?_eq_none` — nothing was at the place, if nothing was at the path and the path
  does not climb;
* `Config.init_alike` — initialising does not depend on what files hold.
-/

namespace BookCatalog.Config

variable {c : Config} {files after : Files} {env : Environment} {path : String} {place : Location}
  {named : Option String} {force : Bool}

/-! ## Saving -/

theorem makeRoom_adds (files : Files) (path : String) :
    Files.AddsFolders files (makeRoom files path).1 := by
  unfold makeRoom
  split
  · exact Files.makeFolders_adds files _
  · exact .refl

/-- Settings are in a file at a place, to which a path leads; everything else is as before, but for
folders that were added. -/
def KeptAt (c : Config) (files : Files) (path : String) (place : Location) (after : Files) : Prop :=
  ∃ roomy text, Files.AddsFolders files roomy ∧ c.toText? = some text ∧
    roomy.Writes path (Utf8.encode text.toList) place after

theorem save_of_ok (h : c.save files path = (after, .ok ())) :
    ∃ place, c.KeptAt files path place after := by
  have hroom := makeRoom_adds files path
  unfold save at h
  generalize htext : c.toText? = text? at h
  rcases hroomy : makeRoom files path with ⟨roomy, e | ⟨⟩⟩
  · simp [hroomy] at h
  · cases text? with
    | none => simp [hroomy] at h
    | some text =>
      cases hwritten : roomy.writeText path text with
      | error e => simp [hroomy, hwritten] at h
      | ok written =>
        obtain rfl : written = after := by simpa [hroomy, hwritten] using h
        rw [hroomy] at hroom
        obtain ⟨place, hplace⟩ := Files.writeText_writes hwritten
        exact ⟨place, roomy, text, hroom, htext, hplace⟩

theorem save_of_error {e : CommandError} (h : c.save files path = (after, .error e)) :
    Files.AddsFolders files after := by
  have hroom := makeRoom_adds files path
  suffices hafter : (makeRoom files path).1 = after by rwa [hafter] at hroom
  unfold save at h
  generalize c.toText? = text? at h
  rcases hroomy : makeRoom files path with ⟨roomy, e | ⟨⟩⟩
  · rw [hroomy] at h
    exact (Prod.mk.inj h).1
  · cases text? with
    | none =>
      rw [hroomy] at h
      exact (Prod.mk.inj h).1
    | some text =>
      cases hwritten : roomy.writeText path text with
      | error e =>
        simp only [hroomy, hwritten] at h
        exact (Prod.mk.inj h).1
      | ok written => simp [hroomy, hwritten] at h

theorem fromFile_of_locate {text : String} (htext : c.toText? = some text)
    (hleads : files.locate path = .ok place)
    (hat : files.at? place = some (.file (Utf8.encode text.toList))) :
    fromFile files path = .ok c := by
  have hbytes := Files.readBytes_eq_ok_iff.2 ⟨place, hleads, hat⟩
  exact c.fromFile_of_readBytes hbytes (c.ofText?_of_toText? htext)

/-! ## Settings in a file -/

namespace KeptAt

theorem locate_eq (h : c.KeptAt files path place after) : after.locate path = .ok place := by
  obtain ⟨roomy, text, -, -, hwrites⟩ := h
  exact hwrites.locate_eq

theorem start_eq (h : c.KeptAt files path place after) : after.start = files.start := by
  obtain ⟨roomy, text, hadds, -, hwrites⟩ := h
  rw [hwrites.start_eq, hadds.start_eq]

theorem at?_self (h : c.KeptAt files path place after) :
    ∃ text, c.toText? = some text ∧
      after.at? place = some (.file (Utf8.encode text.toList)) := by
  obtain ⟨roomy, text, -, htext, hwrites⟩ := h
  exact ⟨text, htext, hwrites.at?_self⟩

theorem readBytes_eq (h : c.KeptAt files path place after) :
    ∃ text, c.toText? = some text ∧ after.readBytes path = .ok (Utf8.encode text.toList) := by
  obtain ⟨text, htext, hat⟩ := h.at?_self
  exact ⟨text, htext, Files.readBytes_eq_ok_iff.2 ⟨place, h.locate_eq, hat⟩⟩

theorem fromFile_eq (h : c.KeptAt files path place after) : fromFile after path = .ok c := by
  obtain ⟨text, htext, hbytes⟩ := h.readBytes_eq
  exact c.fromFile_of_readBytes hbytes (c.ofText?_of_toText? htext)

theorem sameFileAt (h : c.KeptAt files path place after) {other : Location} (hne : other ≠ place) :
    files.SameFileAt after other := by
  obtain ⟨roomy, text, hadds, -, hwrites⟩ := h
  intro bytes
  rw [hwrites.at?_of_ne hne, hadds.sameFileAt other bytes]

theorem folder (h : c.KeptAt files path place after) {other : Location}
    (hfolder : files.at? other = some .folder) : after.at? other = some .folder := by
  obtain ⟨roomy, text, hadds, -, hwrites⟩ := h
  exact hwrites.folder (hadds.at?_of_some hfolder)

theorem rooted (h : c.KeptAt files path place after) (hrooted : files.Rooted) : after.Rooted := by
  obtain ⟨roomy, text, hadds, -, hwrites⟩ := h
  exact hwrites.rooted (hadds.rooted hrooted)

/-- **Nothing was at the place** if nothing was at the path, unless the path climbs out of a folder
that was missing. -/
theorem at?_eq_none (h : c.KeptAt files path place after) (hrooted : files.Rooted)
    (hholds : files.holds path = false) (hclimb : ¬ files.ClimbsMissing path) :
    files.at? place = none := by
  obtain ⟨roomy, text, hadds, -, hwrites⟩ := h
  exact Files.at?_of_not_holds hrooted hadds.start_eq (fun _ _ => hadds.at?_of_some) hholds hclimb
    hwrites.leads

end KeptAt

/-- **Settings can be saved** if their time to wait is an integer of TOML, and saving fails for
their format otherwise.  Saving that succeeds leaves their text where the path leads, and from their
text, in a file or not, the very same settings are read. -/
theorem restores (c : Config) :
    ((∃ text, c.toText? = some text) ↔ c.timeoutSeconds ≤ 9223372036854775807) ∧
    (∀ files path, (c.save files path).2 = .error .format ↔
      (makeRoom files path).2 = .ok () ∧ 9223372036854775807 < c.timeoutSeconds) ∧
    (∀ files path after, c.save files path = (after, .ok ()) →
      ∃ text, c.toText? = some text ∧ after.readBytes path = .ok (Utf8.encode text.toList)) ∧
    ∀ text, c.toText? = some text → ofText? text = some c ∧
      ∀ (files : Files) (path : String),
        files.readBytes path = .ok (Utf8.encode text.toList) → fromFile files path = .ok c := by
  have hexists : (∃ text, c.toText? = some text) ↔ c.timeoutSeconds ≤ greatestSeconds := by
    simp [toText?_eq_some_iff]
  refine ⟨hexists, fun files path => ?_, fun files path after hsave => ?_, fun text htext => ?_⟩
  · rw [save_eq_format_iff, Option.eq_none_iff_forall_ne_some]
    refine and_congr_right fun _ => ?_
    rw [← not_exists, hexists, greatestSeconds, Nat.not_le]
  · obtain ⟨place, hkept⟩ := save_of_ok hsave
    exact hkept.readBytes_eq
  · have hread := c.ofText?_of_toText? htext
    exact ⟨hread, fun files path hbytes => c.fromFile_of_readBytes hbytes hread⟩

/-! ## Initialising -/

/-- Initialising that succeeds keeps the default settings at the path that is named, else at the
default one; without force nothing was at that path. -/
theorem init_of_ok {words : String} (h : init files env named force = (after, .ok words)) :
    ∃ path place, (named <|> env.settingsPath?) = some path ∧
      (force = false → files.holds path = false) ∧
      default.KeptAt files path place after := by
  unfold init at h
  split at h
  · cases h
  · next path hpath =>
    split at h
    · cases h
    · next hfree =>
      split at h
      · cases h
      · next heq =>
        obtain ⟨rfl, -⟩ := Prod.mk.inj h
        obtain ⟨place, hplace⟩ := save_of_ok heq
        refine ⟨path, place, hpath, fun hforce => ?_, hplace⟩
        simpa [hforce] using hfree

theorem init_of_error {e : CommandError} (h : init files env named force = (after, .error e)) :
    Files.AddsFolders files after := by
  unfold init at h
  split at h
  · obtain ⟨rfl, -⟩ := Prod.mk.inj h
    exact .refl
  · split at h
    · obtain ⟨rfl, -⟩ := Prod.mk.inj h
      exact .refl
    · split at h
      · next heq =>
        obtain ⟨rfl, -⟩ := Prod.mk.inj h
        exact save_of_error heq
      · cases h

/-! ## What files hold -/

section Alike

variable {others : Files} (h : files.Alike others)
include h

theorem makeRoom_alike (path : String) :
    Files.EndsAlike (makeRoom files path) (makeRoom others path) := by
  unfold makeRoom
  cases Path.parent? path with
  | none => exact .mk h _
  | some folder => exact h.makeFolders folder

theorem save_alike (c : Config) (path : String) :
    Files.EndsAlike (c.save files path) (c.save others path) := by
  unfold save
  have hroom := makeRoom_alike h path
  generalize makeRoom files path = room at hroom ⊢
  generalize makeRoom others path = room' at hroom ⊢
  obtain ⟨hroomy, e | done⟩ := hroom
  · exact .mk hroomy _
  · generalize c.toText? = text?
    cases text? with
    | none => exact .mk hroomy _
    | some text =>
      have hwrite := hroomy.writeText path text
      dsimp only
      generalize Files.writeText _ path text = written at hwrite ⊢
      generalize Files.writeText _ path text = written' at hwrite ⊢
      cases hwrite with
      | ok halike => exact .mk halike _
      | error e => exact .mk hroomy _

/-- **Initialising** does not depend on what files hold. -/
theorem init_alike (env : Environment) (named : Option String) (force : Bool) :
    Files.EndsAlike (init files env named force) (init others env named force) := by
  unfold init
  cases named <|> env.settingsPath? with
  | none => exact .mk h _
  | some path =>
    dsimp only
    rw [h.holds_eq]
    split
    · exact .mk h _
    · have hsaved := save_alike h default path
      generalize default.save files path = saved at hsaved ⊢
      generalize default.save others path = saved' at hsaved ⊢
      obtain ⟨hafter, e | done⟩ := hsaved
      · exact .mk hafter _
      · exact .mk hafter _

end Alike

end BookCatalog.Config
