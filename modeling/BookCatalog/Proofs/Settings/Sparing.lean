import BookCatalog.Proofs.Settings.Saving

/-!
# Saving writes one file or none

Saving takes three steps that may each fail: folders are made, the settings are written as a text,
and the text is put into a file.  Whatever fails, and wherever it does, no file is lost.

* `Config.Saved` — settings were put where a path leads, and into no other file;
* `Config.Untouched` — all files are as they were;
* `Config.Hindered`, `Config.Ready` — what makes saving fail, and what makes it succeed;
* `Config.sparing` — saving and initialising by force end in one of these ways.
-/

namespace BookCatalog.Config

variable {c : Config} {files after : Files} {path : String} {place : Location}

/-! ## Outcomes -/

/-- Settings are read where a path leads, and all other files are as they were. -/
structure Saved (c : Config) (files : Files) (path : String) (after : Files) : Prop where
  read : fromFile after path = .ok c
  others : ∃ place, after.locate path = .ok place ∧
    ∀ other, other ≠ place → files.SameFileAt after other

/-- All files are as they were, and all settings can still be read. -/
structure Untouched (files after : Files) : Prop where
  same : ∀ place, files.SameFileAt after place
  readable : ∀ path c, fromFile files path = .ok c → fromFile after path = .ok c

theorem KeptAt.saved (h : c.KeptAt files path place after) : Saved c files path after :=
  ⟨h.fromFile_eq, place, h.locate_eq, fun _ => h.sameFileAt⟩

theorem fromFile_congr {bytes : List UInt8} (hread : files.readBytes path = .ok bytes)
    (hread' : after.readBytes path = .ok bytes) : fromFile after path = fromFile files path := by
  unfold fromFile Files.readText
  rw [hread, hread']

theorem exists_readBytes_of_fromFile (h : fromFile files path = .ok c) :
    ∃ bytes, files.readBytes path = .ok bytes := by
  unfold fromFile Files.readText at h
  cases hread : files.readBytes path with
  | ok bytes => exact ⟨bytes, rfl⟩
  | error e =>
    rw [hread] at h
    cases h

theorem untouched_of_adds (h : Files.AddsFolders files after) : Untouched files after where
  same := h.sameFileAt
  readable := by
    intro path c hread
    obtain ⟨bytes, hbytes⟩ := exists_readBytes_of_fromFile hread
    rw [fromFile_congr hbytes (h.readBytes_eq hbytes), hread]

/-! ## Failure and success -/

/-- What makes saving fail. -/
inductive Hindered (c : Config) (files : Files) (path : String) : Prop
  /-- The time to wait is no integer of TOML. -/
  | time (h : greatestSeconds < c.timeoutSeconds)
  | empty (h : path = "")
  /-- A folder is where the path leads. -/
  | folder {place : Location} (hleads : files.locate path = .ok place)
      (hat : files.at? place = some .folder)
  /-- The path goes on behind a file. -/
  | file {start here : Location} {before rest : List String} {step : String} {bytes : List UInt8}
      (horigin : files.origin path = .ok start) (hsteps : Path.steps path = before ++ step :: rest)
      (hwalk : files.walk start before = .ok here) (hat : files.at? here = some (.file bytes))

theorem not_hindered_of_keptAt (h : c.KeptAt files path place after) : ¬ Hindered c files path := by
  obtain ⟨roomy, text, hadds, htext, hwrites⟩ := h
  have hfolders : ∀ other, files.at? other = some .folder → roomy.at? other = some .folder :=
    fun _ => hadds.at?_of_some
  obtain ⟨start, horigin, hwalk⟩ := Files.locate_eq_ok_iff.1 hwrites.leads
  rintro (hlong | rfl | ⟨hleads, hat⟩ | ⟨horigin', hsteps, hbefore, hat⟩)
  · have hsmall := ((c.toText?_eq_some_iff text).1 htext).1
    omega
  · simp [Files.origin] at horigin
  · have hsame := Files.locate_mono hadds.start_eq hfolders hleads
    obtain rfl := Except.ok.inj (hwrites.leads.symm.trans hsame)
    exact hwrites.free (hadds.at?_of_some hat)
  · rw [Files.origin_congr hadds.start_eq, horigin'] at horigin
    obtain rfl := Except.ok.inj horigin
    rw [hsteps, Files.walk_append, Files.walk_mono hfolders hbefore] at hwalk
    obtain ⟨next, hstep, -⟩ := Files.walk_cons_eq_ok_iff.1 hwalk
    -- a step can be taken in folders alone
    have hfolder := (Files.step_cases hstep).1
    rw [hadds.at?_of_some hat] at hfolder
    cases hfolder

theorem save_of_hindered (h : Hindered c files path) :
    ∃ after e, c.save files path = (after, .error e) := by
  rcases hsave : c.save files path with ⟨after, e | ⟨⟩⟩
  · exact ⟨after, e, rfl⟩
  · obtain ⟨place, hkept⟩ := save_of_ok hsave
    exact absurd h (not_hindered_of_keptAt hkept)

/-- All that saving needs is there: the folder around the file, and no folder in its place. -/
structure Ready (c : Config) (files : Files) (path : String) : Prop where
  time : c.timeoutSeconds ≤ greatestSeconds
  around : ∀ folder ∈ Path.parent? path, folder = "" ∨ files.isFolder folder = true
  target : ∃ place, files.target path = .ok (.place place false) ∧ files.at? place ≠ some .folder

theorem makeRoom_of_around
    (h : ∀ folder ∈ Path.parent? path, folder = "" ∨ files.isFolder folder = true) :
    makeRoom files path = (files, .ok ()) := by
  unfold makeRoom
  split
  · next folder hfolder =>
    unfold Files.makeFolders Files.makeFoldersWithin
    rcases h folder hfolder with rfl | hthere
    · rfl
    · rw [Files.ensureFolder_of_isFolder hthere]
      split
      · rfl
      · rfl
  · rfl

theorem save_of_ready (h : Ready c files path) : ∃ after, c.save files path = (after, .ok ()) := by
  obtain ⟨place, htarget, hfree⟩ := h.target
  have htext : c.toText? = some c.writtenText := (c.toText?_eq_some_iff _).2 ⟨h.time, rfl⟩
  obtain ⟨after, hwritten⟩ := Files.exists_writeText htarget hfree c.writtenText
  refine ⟨after, ?_⟩
  unfold save
  rw [makeRoom_of_around h.around, htext]
  simp only [hwritten]

/-! ## Initialising by force -/

theorem init_force {env : Environment} {named : Option String}
    (hpath : (named <|> env.settingsPath?) = some path) :
    init files env named true = ((default.save files path).1,
      (default.save files path).2.map fun _ =>
        "Wrote default configuration to " ++ path ++ "\n") := by
  unfold init
  rw [hpath]
  rcases hsave : default.save files path with ⟨after, e | ⟨⟩⟩
  · simp [hsave, Except.map]
  · simp [hsave, Except.map]

/-- What saving does to files: one is written, or none. -/
structure Sparing (files : Files) : Prop where
  saved : ∀ (c : Config) (path : String) (after : Files),
    c.save files path = (after, .ok ()) → Saved c files path after
  failed : ∀ (c : Config) (path : String) (after : Files) (e : CommandError),
    c.save files path = (after, .error e) → Untouched files after
  hindered : ∀ (c : Config) (path : String), Hindered c files path →
    ∃ after e, c.save files path = (after, .error e)
  ready : ∀ (c : Config) (path : String), Ready c files path →
    ∃ after, c.save files path = (after, .ok ())
  initialised : ∀ (env : Environment) (named : Option String) (after : Files) (words : String),
    init files env named true = (after, .ok words) →
    ∃ path, (named <|> env.settingsPath?) = some path ∧ Saved default files path after
  notInitialised : ∀ (env : Environment) (named : Option String) (after : Files) (e : CommandError),
    init files env named true = (after, .error e) → Untouched files after
  initHindered : ∀ (env : Environment) (named : Option String) (path : String),
    (named <|> env.settingsPath?) = some path → Hindered default files path →
    ∃ after e, init files env named true = (after, .error e)
  initReady : ∀ (env : Environment) (named : Option String) (path : String),
    (named <|> env.settingsPath?) = some path → Ready default files path →
    ∃ after words, init files env named true = (after, .ok words)

/-- **Saving writes one file or none**: the settings are read where the path leads and nothing else
is written, or all files are as they were. -/
theorem sparing (files : Files) : Sparing files where
  saved := by
    intro c path after h
    obtain ⟨place, hkept⟩ := save_of_ok h
    exact hkept.saved
  failed := fun _ _ _ _ h => untouched_of_adds (save_of_error h)
  hindered := fun _ _ => save_of_hindered
  ready := fun _ _ => save_of_ready
  initialised := by
    intro env named after words h
    obtain ⟨path, place, hpath, -, hkept⟩ := init_of_ok h
    exact ⟨path, hpath, hkept.saved⟩
  notInitialised := fun _ _ _ _ h => untouched_of_adds (init_of_error h)
  initHindered := by
    intro env named path hpath hhindered
    obtain ⟨after, e, hsave⟩ := save_of_hindered hhindered
    exact ⟨after, e, by rw [init_force hpath, hsave]; rfl⟩
  initReady := by
    intro env named path hpath hready
    obtain ⟨after, hsave⟩ := save_of_ready hready
    exact ⟨after, _, by rw [init_force hpath, hsave]; rfl⟩

end BookCatalog.Config
