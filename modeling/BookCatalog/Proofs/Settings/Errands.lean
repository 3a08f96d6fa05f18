import BookCatalog.Proofs.Settings.Saving

/-!
# Files through errands about settings

Settings are read, loaded and initialised without force, in any order, while the environment
changes.  A file that was there is never touched, and one that is new was made by one initialising
and holds the default settings.  There is one way around this: a path that climbs by `..` out of a
folder that is missing seems to lead nowhere, and leads on to what is there once the folder is made.

* `Errand.perform_cases` — what one errand does to the files;
* `World.kept`, `World.made_once` — what a run of errands keeps, and what it makes;
* `World.files_safe` — a place is safe in every run that does not climb to a file there;
* `World.init_overwrites` — a file to which a path climbs is overwritten.
-/

namespace BookCatalog

/-- Files, and the environment in which they are used. -/
structure World where
  files : Files
  env : Environment

/-- What may be done about settings, without force. -/
inductive Errand where
  /-- Reads the settings in a file. -/
  | read (path : String)
  /-- Loads the settings to use. -/
  | load (named : Option String)
  /-- Asks for the path of the settings by default. -/
  | ask
  /-- Initialises settings. -/
  | init (named : Option String)
  /-- Goes on in another environment. -/
  | move (env : Environment)

namespace Errand

inductive Answer where
  | settings (result : Except CommandError Config)
  | path (path : Option String)
  | words (result : Except CommandError String)
  | nothing

def perform (world : World) : Errand → World × Answer
  | .read path => (world, .settings (Config.fromFile world.files path))
  | .load named => (world, .settings (Config.load world.files world.env named))
  | .ask => (world, .path world.env.settingsPath?)
  | .init named =>
    let (files, result) := Config.init world.files world.env named false
    ({ world with files }, .words result)
  | .move env => ({ world with env }, .nothing)

/-- An errand initialises settings with success, at a path that then leads to a place. -/
def Initialises (world : World) (errand : Errand) (path : String) (place : Location) : Prop :=
  ∃ named words, errand = .init named ∧ (named <|> world.env.settingsPath?) = some path ∧
    (errand.perform world).2 = .words (.ok words) ∧
    (errand.perform world).1.files.locate path = .ok place

end Errand

namespace World

def after (world : World) (errands : List Errand) : World :=
  errands.foldl (fun world errand => (errand.perform world).1) world

/-- The errand with a number is one that initialises settings with success, at a path that then
leads to a place. -/
def InitialisesAt (world : World) (errands : List Errand) (n : Nat) (path : String)
    (place : Location) : Prop :=
  ∃ errand, errands[n]? = some errand ∧ errand.Initialises (world.after (errands.take n)) path place

end World

/-! ## One errand -/

namespace Errand

variable {world : World} {errand : Errand} {path : String} {place : Location}

theorem Initialises.unique {path' : String} {place' : Location}
    (h : errand.Initialises world path place) (h' : errand.Initialises world path' place') :
    path = path' ∧ place = place' := by
  obtain ⟨named, words, rfl, hpath, -, hplace⟩ := h
  obtain ⟨named', words', hinit, hpath', -, hplace'⟩ := h'
  obtain rfl := Errand.init.inj hinit
  obtain rfl := Option.some.inj (hpath.symm.trans hpath')
  exact ⟨rfl, Except.ok.inj (hplace.symm.trans hplace')⟩

theorem perform_init (world : World) (named : Option String) :
    (Errand.init named).perform world =
      let initialised := Config.init world.files world.env named false
      ({ world with files := initialised.1 }, .words initialised.2) := rfl

/-- An errand adds folders and no more, or it keeps the default settings at a path where nothing
was. -/
theorem perform_cases (world : World) (errand : Errand) :
    (Files.AddsFolders world.files (errand.perform world).1.files ∧
      ∀ path place, ¬ errand.Initialises world path place) ∨
    ∃ path place, errand.Initialises world path place ∧ world.files.holds path = false ∧
      Config.default.KeptAt world.files path place (errand.perform world).1.files := by
  have hother (hinit : ∀ named, errand ≠ .init named) (path : String) (place : Location) :
      ¬ errand.Initialises world path place := fun ⟨named, _, heq, _⟩ => hinit named heq
  cases errand with
  | read path => exact .inl ⟨.refl, hother (fun _ => Errand.noConfusion)⟩
  | load named => exact .inl ⟨.refl, hother (fun _ => Errand.noConfusion)⟩
  | ask => exact .inl ⟨.refl, hother (fun _ => Errand.noConfusion)⟩
  | move env => exact .inl ⟨.refl, hother (fun _ => Errand.noConfusion)⟩
  | init named =>
    rw [perform_init]
    rcases h : Config.init world.files world.env named false with ⟨files, e | words⟩
    · refine .inl ⟨Config.init_of_error h, fun path place hinit => ?_⟩
      obtain ⟨named', words, heq, -, hwords, -⟩ := hinit
      rw [perform_init, h] at hwords
      cases hwords
    · obtain ⟨path, place, hpath, hholds, hkept⟩ := Config.init_of_ok h
      refine .inr ⟨path, place, ⟨named, words, rfl, hpath, ?_, ?_⟩, hholds rfl, hkept⟩
      · rw [perform_init, h]
      · rw [perform_init, h]
        exact hkept.locate_eq

theorem perform_rooted (h : world.files.Rooted) : (errand.perform world).1.files.Rooted := by
  obtain ⟨hadds, -⟩ | ⟨path, place, -, -, hkept⟩ := perform_cases world errand
  · exact hadds.rooted h
  · exact hkept.rooted h

theorem perform_start : (errand.perform world).1.files.start = world.files.start := by
  obtain ⟨hadds, -⟩ | ⟨path, place, -, -, hkept⟩ := perform_cases world errand
  · exact hadds.start_eq
  · exact hkept.start_eq

theorem perform_folder (h : world.files.at? place = some .folder) :
    (errand.perform world).1.files.at? place = some .folder := by
  obtain ⟨hadds, -⟩ | ⟨path, place', -, -, hkept⟩ := perform_cases world errand
  · exact hadds.at?_of_some h
  · exact hkept.folder h

theorem perform_sameFileAt (h : ∀ path, ¬ errand.Initialises world path place) :
    world.files.SameFileAt (errand.perform world).1.files place := by
  obtain ⟨hadds, -⟩ | ⟨path, place', hinit, -, hkept⟩ := perform_cases world errand
  · exact hadds.sameFileAt place
  · refine hkept.sameFileAt ?_
    rintro rfl
    exact h path hinit

theorem Initialises.made (h : errand.Initialises world path place) :
    ∃ text, Config.default.toText? = some text ∧
      (errand.perform world).1.files.at? place = some (.file (Utf8.encode text.toList)) := by
  obtain ⟨-, hnone⟩ | ⟨path', place', hinit, -, hkept⟩ := perform_cases world errand
  · exact absurd h (hnone path place)
  · obtain ⟨rfl, rfl⟩ := h.unique hinit
    exact hkept.at?_self

theorem Initialises.at?_eq_none (h : errand.Initialises world path place)
    (hrooted : world.files.Rooted) (hclimb : ¬ world.files.ClimbsMissing path) :
    world.files.at? place = none := by
  obtain ⟨-, hnone⟩ | ⟨path', place', hinit, hholds, hkept⟩ := perform_cases world errand
  · exact absurd h (hnone path place)
  · obtain ⟨rfl, rfl⟩ := h.unique hinit
    exact hkept.at?_eq_none hrooted hholds hclimb

end Errand

/-! ## Runs of errands -/

namespace World

variable {world : World} {errand : Errand} {errands : List Errand} {n : Nat} {path : String}
  {place : Location}

theorem initialisesAt_zero_iff :
    world.InitialisesAt (errand :: errands) 0 path place ↔ errand.Initialises world path place := by
  simp [InitialisesAt, after]

theorem initialisesAt_succ_iff :
    world.InitialisesAt (errand :: errands) (n + 1) path place ↔
      (errand.perform world).1.InitialisesAt errands n path place := by
  simp [InitialisesAt, after]

theorem locate_after (errands : List Errand) (h : world.files.locate path = .ok place) :
    (world.after errands).files.locate path = .ok place := by
  induction errands generalizing world with
  | nil => exact h
  | cons errand errands ih =>
    exact ih (Files.locate_mono Errand.perform_start (fun _ => Errand.perform_folder) h)

theorem InitialisesAt.locate_eq (h : world.InitialisesAt errands n path place) :
    (world.after errands).files.locate path = .ok place := by
  induction errands generalizing world n with
  | nil =>
    obtain ⟨errand, herrand, -⟩ := h
    cases herrand
  | cons errand errands ih =>
    cases n with
    | zero =>
      obtain ⟨named, words, -, -, -, hleads⟩ := initialisesAt_zero_iff.1 h
      exact locate_after errands hleads
    | succ n => exact ih (initialisesAt_succ_iff.1 h)

/-- Where a file is, no settings are initialised by a path that climbs out of a missing folder. -/
def NeverClimbsTo (world : World) (errands : List Errand) (place : Location) : Prop :=
  ∀ n path, world.InitialisesAt errands n path place →
    (∃ bytes, (world.after (errands.take n)).files.at? place = some (.file bytes)) →
      ¬ (world.after (errands.take n)).files.ClimbsMissing path

theorem NeverClimbsTo.first (h : world.NeverClimbsTo (errand :: errands) place)
    (hinit : errand.Initialises world path place) {bytes : List UInt8}
    (hfile : world.files.at? place = some (.file bytes)) : ¬ world.files.ClimbsMissing path :=
  h 0 path (initialisesAt_zero_iff.2 hinit) ⟨bytes, hfile⟩

theorem NeverClimbsTo.rest (h : world.NeverClimbsTo (errand :: errands) place) :
    (errand.perform world).1.NeverClimbsTo errands place :=
  fun n path hinit => h (n + 1) path (initialisesAt_succ_iff.2 hinit)

/-- **A file that is there** stays as it is in every run, and no settings are initialised in its
place. -/
theorem kept {bytes : List UInt8} (hrooted : world.files.Rooted)
    (hclimb : world.NeverClimbsTo errands place)
    (h : world.files.at? place = some (.file bytes)) :
    (world.after errands).files.at? place = some (.file bytes) ∧
      ∀ n path, ¬ world.InitialisesAt errands n path place := by
  induction errands generalizing world with
  | nil =>
    refine ⟨h, fun n path hinit => ?_⟩
    obtain ⟨errand, herrand, -⟩ := hinit
    cases herrand
  | cons errand errands ih =>
    have hfirst : ∀ path, ¬ errand.Initialises world path place := by
      intro path hinit
      have hnone := hinit.at?_eq_none hrooted (hclimb.first hinit h)
      rw [h] at hnone
      cases hnone
    obtain ⟨hend, hlater⟩ := ih (Errand.perform_rooted hrooted) hclimb.rest
      ((Errand.perform_sameFileAt hfirst bytes).1 h)
    refine ⟨hend, fun n path hinit => ?_⟩
    cases n with
    | zero => exact hfirst path (initialisesAt_zero_iff.1 hinit)
    | succ n => exact hlater n path (initialisesAt_succ_iff.1 hinit)

/-- **A file that is new** was made by one initialising of settings, and holds the text of the
default ones. -/
theorem made_once {bytes : List UInt8} (hrooted : world.files.Rooted)
    (hclimb : world.NeverClimbsTo errands place)
    (hnew : ∀ old, world.files.at? place ≠ some (.file old))
    (h : (world.after errands).files.at? place = some (.file bytes)) :
    (∃! n, ∃ path, world.InitialisesAt errands n path place) ∧
      ∃ text, Config.default.toText? = some text ∧ bytes = Utf8.encode text.toList := by
  induction errands generalizing world with
  | nil => exact absurd h (hnew bytes)
  | cons errand errands ih =>
    by_cases hfirst : ∃ path, errand.Initialises world path place
    · -- it is there from now on, and later errands find it
      obtain ⟨path, hinit⟩ := hfirst
      obtain ⟨text, htext, hthere⟩ := hinit.made
      obtain ⟨hend, hlater⟩ := kept (Errand.perform_rooted hrooted) hclimb.rest hthere
      refine ⟨⟨0, ⟨path, initialisesAt_zero_iff.2 hinit⟩, ?_⟩, text, htext, ?_⟩
      · rintro (- | n) ⟨path', hagain⟩
        · rfl
        · exact absurd (initialisesAt_succ_iff.1 hagain) (hlater n path')
      · exact Entry.file.inj (Option.some.inj (h.symm.trans hend))
    · rw [not_exists] at hfirst
      have hstill : ∀ old, (errand.perform world).1.files.at? place ≠ some (.file old) :=
        fun old hold => hnew old ((Errand.perform_sameFileAt hfirst old).2 hold)
      obtain ⟨⟨n, ⟨path, hn⟩, honly⟩, htext⟩ :=
        ih (Errand.perform_rooted hrooted) hclimb.rest hstill h
      refine ⟨⟨n + 1, ⟨path, initialisesAt_succ_iff.2 hn⟩, ?_⟩, htext⟩
      rintro (- | m) ⟨path', hagain⟩
      · exact absurd (initialisesAt_zero_iff.1 hagain) (hfirst path')
      · rw [honly m ⟨path', initialisesAt_succ_iff.1 hagain⟩]

/-! ## Safety -/

/-- What a run of errands may do at a place. -/
structure SafeAt (world : World) (errands : List Errand) (place : Location) : Prop where
  /-- A file that was there holds the same bytes. -/
  kept (bytes : List UInt8) (h : world.files.at? place = some (.file bytes)) :
    (world.after errands).files.at? place = some (.file bytes)
  /-- A file that is new was made by one initialising of settings, and not again by another. -/
  made (bytes : List UInt8) (hnew : ∀ old, world.files.at? place ≠ some (.file old))
    (h : (world.after errands).files.at? place = some (.file bytes)) :
    ∃! n, ∃ path, world.InitialisesAt errands n path place
  /-- It is read as the default settings, by the path that made it and by any other that leads
  there. -/
  read (bytes : List UInt8) (hnew : ∀ old, world.files.at? place ≠ some (.file old))
    (h : (world.after errands).files.at? place = some (.file bytes)) (path : String)
    (hpath : (∃ n, world.InitialisesAt errands n path place) ∨
      (world.after errands).files.locate path = .ok place) :
    Config.fromFile (world.after errands).files path = .ok Config.default

/-- **Every place is safe** in every run of errands, unless there is a file and settings are
initialised by a path that climbs to it out of a folder that is missing. -/
theorem files_safe (world : World) (errands : List Errand) (place : Location)
    (hrooted : world.files.Rooted) (hclimb : world.NeverClimbsTo errands place) :
    world.SafeAt errands place where
  kept _ h := (kept hrooted hclimb h).1
  made _ hnew h := (made_once hrooted hclimb hnew h).1
  read _ hnew h path hpath := by
    obtain ⟨text, htext, rfl⟩ := (made_once hrooted hclimb hnew h).2
    have hleads : (world.after errands).files.locate path = .ok place := by
      obtain ⟨n, hinit⟩ | hleads := hpath
      · exact hinit.locate_eq
      · exact hleads
    exact Config.fromFile_of_locate htext hleads h

/-- The path of new settings may climb, out of a missing folder to where nothing is, and again when
the folder is there.  Neither it nor the default path, which comes to lead to the same place, makes
the settings a second time. -/
theorem files_safe_again :
    let world : World := ⟨Files.withFolder ["work"], ⟨[]⟩⟩
    let elsewhere : Environment := ⟨[("BOOKSHELF_CONFIG_DIR", "/work")]⟩
    let errands : List Errand := [.init (some "new/../config.toml"), .move elsewhere, .init none,
      .init (some "new/../config.toml"), .load none]
    let place : Location := ["config.toml", "work"]
    world.files.Rooted ∧ world.NeverClimbsTo errands place ∧
      world.InitialisesAt errands 0 "new/../config.toml" place ∧ world.SafeAt errands place := by
  intro world elsewhere errands place
  have hrooted : world.files.Rooted := Files.rooted_withFolder ["work"]
  have hup : Path.steps "new/../config.toml" = ["new", ".."] ++ ["config.toml"] := by decide +kernel
  have hdown : Path.steps "/work/config.toml" = [] ++ ["", "work", "config.toml"] := by
    decide +kernel
  have hdefault : elsewhere.settingsPath? = some "/work/config.toml" := by decide +kernel
  have hclimb : world.NeverClimbsTo errands place := by
    rintro (- | - | - | - | - | n) path ⟨errand, herrand, named, words, rfl, hpath, -⟩ ⟨old, hold⟩
    · -- nothing is there yet
      have hnone : world.files.at? place = none := by decide +kernel
      exact absurd (hnone.symm.trans hold) (by simp)
    · cases herrand
    · obtain rfl := Errand.init.inj (Option.some.inj herrand)
      obtain rfl := Option.some.inj (hdefault.symm.trans hpath)
      exact Files.not_climbsMissing_of_walk rfl hdown rfl (by decide)
    · -- the folder is there now
      obtain rfl := Errand.init.inj (Option.some.inj herrand)
      obtain rfl := Option.some.inj hpath
      have horigin : (world.after (errands.take 3)).files.origin "new/../config.toml" =
          .ok ["work"] := by decide +kernel
      have hwalk : (world.after (errands.take 3)).files.walk ["work"] ["new", ".."] =
          .ok ["work"] := by decide +kernel
      exact Files.not_climbsMissing_of_walk horigin hup hwalk (by decide)
    · cases herrand
    · cases herrand
  have hinit : world.InitialisesAt errands 0 "new/../config.toml" place := by
    refine initialisesAt_zero_iff.2 ⟨some "new/../config.toml",
      "Wrote default configuration to new/../config.toml\n", rfl, rfl, ?_, ?_⟩
    · rw [Errand.perform_init]
      exact congrArg Errand.Answer.words (by decide +kernel)
    · rw [Errand.perform_init]
      decide +kernel
  exact ⟨hrooted, hclimb, hinit, files_safe world errands place hrooted hclimb⟩

/-- A path that climbs out of a folder that is missing leads to a file that is there, and the file
is overwritten without force. -/
theorem init_overwrites :
    let files := (Files.withFolder ["work"]).put ["own.toml", "work"] (.file [])
    let world : World := ⟨files, ⟨[]⟩⟩
    world.files.Rooted ∧ world.files.at? ["own.toml", "work"] = some (.file []) ∧
      (world.after [.init (some "new/../own.toml")]).files.at? ["own.toml", "work"] ≠
        some (.file []) := by
  intro files world
  have hrooted : world.files.Rooted :=
    (Files.rooted_withFolder ["work"]).put (by decide +kernel) (by decide +kernel) _
  exact ⟨hrooted, by decide +kernel, by decide +kernel⟩

end World

end BookCatalog
