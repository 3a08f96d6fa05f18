import BookCatalog.Proofs.Files.Inside
import BookCatalog.Proofs.Settings.Layers
import BookCatalog.Proofs.Settings.Sparing
import BookCatalog.Proofs.Url.Plain
import Mathlib.Data.Option.Basic

/-!
# The place of the settings by default

The environment says in which folder the settings are.  Initialising them and loading them without a
path come to the same file in it, and what was put there last is what is loaded.

* `Environment.SettingsFolder` — the folder that an environment says;
* `Config.KeptAt.serves` — settings that were saved at the default path are loaded;
* `Config.init_then_load` — initialising settings and loading them.
-/

namespace BookCatalog

/-! ## The folder of the settings -/

namespace Environment

inductive Home (env : Environment) : String → Prop
  | named {home : String} (h : env.get? "HOME" = some home) (hne : home ≠ "") : Home env home
  /-- That of the account, if none is named, or by an empty text. -/
  | account {home : String} (h : ∀ named, env.get? "HOME" = some named → named = "")
      (hhome : env.get? accountHome = some home) (hne : home ≠ "") : Home env home

/-- The folder for settings of all programs. -/
inductive PlatformFolder (env : Environment) : String → Prop
  /-- The one that is named, by a path from the root. -/
  | named {folder : String} (h : env.get? "XDG_CONFIG_HOME" = some folder)
      (hroot : Path.isAbsolute folder = true) : PlatformFolder env folder
  /-- The hidden one at home, if none is named, or by another path. -/
  | hidden {home : String}
      (h : ∀ folder, env.get? "XDG_CONFIG_HOME" = some folder → Path.isAbsolute folder = false)
      (hhome : env.Home home) : PlatformFolder env (Path.child home ".config")

inductive SettingsFolder (env : Environment) : String → Prop
  | named {folder : String} (h : env.get? "BOOKSHELF_CONFIG_DIR" = some folder)
      (hne : folder ≠ "") : SettingsFolder env folder
  /-- Its own among those of all programs, if none is named, or by an empty text. -/
  | platform {folder : String}
      (h : ∀ named, env.get? "BOOKSHELF_CONFIG_DIR" = some named → named = "")
      (hfolder : env.PlatformFolder folder) : SettingsFolder env (Path.child folder "bookshelf")

variable {env : Environment} {folder home name value : String}

theorem filled?_eq_some_iff :
    env.filled? name = some value ↔ env.get? name = some value ∧ value ≠ "" := by
  rw [filled?, Option.filter_eq_some_iff, decide_eq_true_eq]

theorem filled?_eq_none_iff :
    env.filled? name = none ↔ ∀ value, env.get? name = some value → value = "" := by
  simp [filled?, Option.filter_eq_none_iff]

theorem home_iff : env.Home home ↔ env.home? = some home := by
  rw [home?, Option.orElse_eq_some, filled?_eq_some_iff, filled?_eq_none_iff, filled?_eq_some_iff]
  constructor
  · rintro (⟨h, hne⟩ | ⟨h, hhome, hne⟩)
    · exact .inl ⟨h, hne⟩
    · exact .inr ⟨h, hhome, hne⟩
  · rintro (⟨h, hne⟩ | ⟨h, hhome, hne⟩)
    · exact .named h hne
    · exact .account h hhome hne

theorem Home.ne_empty (h : env.Home home) : home ≠ "" := by
  cases h with
  | named _ hne => exact hne
  | account _ _ hne => exact hne

theorem platformFolder_iff : env.PlatformFolder folder ↔ env.platformFolder? = some folder := by
  rw [platformFolder?, Option.orElse_eq_some, Option.filter_eq_some_iff, Option.filter_eq_none_iff,
    Option.map_eq_some_iff]
  constructor
  · rintro (⟨h, hroot⟩ | ⟨h, hhome⟩)
    · exact .inl ⟨h, hroot⟩
    · exact .inr ⟨fun folder hfolder => by simp [h folder hfolder], _, home_iff.1 hhome, rfl⟩
  · rintro (⟨h, hroot⟩ | ⟨h, home, hhome, rfl⟩)
    · exact .named h hroot
    · exact .hidden (fun folder hfolder => by simpa using h folder hfolder) (home_iff.2 hhome)

theorem settingsFolder_iff : env.SettingsFolder folder ↔ env.settingsFolder? = some folder := by
  rw [settingsFolder?, Option.orElse_eq_some, filled?_eq_some_iff, filled?_eq_none_iff,
    Option.map_eq_some_iff]
  constructor
  · rintro (⟨h, hne⟩ | ⟨h, hfolder⟩)
    · exact .inl ⟨h, hne⟩
    · exact .inr ⟨h, _, platformFolder_iff.1 hfolder, rfl⟩
  · rintro (⟨h, hne⟩ | ⟨h, platform, hfolder, rfl⟩)
    · exact .named h hne
    · exact .platform h (platformFolder_iff.2 hfolder)

theorem PlatformFolder.ne_empty (h : env.PlatformFolder folder) : folder ≠ "" := by
  cases h with
  | named _ hroot =>
    rintro rfl
    cases hroot
  | hidden _ hhome => exact Path.child_ne_empty hhome.ne_empty (by decide)

theorem SettingsFolder.ne_empty (h : env.SettingsFolder folder) : folder ≠ "" := by
  cases h with
  | named _ hne => exact hne
  | platform _ hfolder => exact Path.child_ne_empty hfolder.ne_empty (by decide)

theorem exists_settingsFolder (hhome : env.Home home) : ∃ folder, env.SettingsFolder folder := by
  have hplatform : ∃ folder, env.PlatformFolder folder := by
    by_cases hroot : ∃ folder, env.get? "XDG_CONFIG_HOME" = some folder ∧
        Path.isAbsolute folder = true
    · obtain ⟨folder, h, hroot⟩ := hroot
      exact ⟨folder, .named h hroot⟩
    · exact ⟨_, .hidden (fun folder h => by simpa using fun hr => hroot ⟨folder, h, hr⟩) hhome⟩
  by_cases hnamed : ∃ folder, env.get? "BOOKSHELF_CONFIG_DIR" = some folder ∧ folder ≠ ""
  · obtain ⟨folder, h, hfolder⟩ := hnamed
    exact ⟨folder, .named h hfolder⟩
  · obtain ⟨folder, hfolder⟩ := hplatform
    refine ⟨_, .platform (fun named h => ?_) hfolder⟩
    exact Classical.not_not.1 fun hnamed' => hnamed ⟨named, h, hnamed'⟩

theorem SettingsFolder.settingsPath? (h : env.SettingsFolder folder) :
    env.settingsPath? = some (Path.child folder "config.toml") := by
  rw [Environment.settingsPath?, settingsFolder_iff.1 h]
  rfl

end Environment

/-! ## Settings at the default path -/

namespace Config

variable {c : Config} {files after : Files} {env : Environment} {path folder : String}
  {place : Location}

/-- **The default settings** can be used. -/
theorem validate_default : ∃ base, default.validate = .ok base := by
  have hhost : Url.parseHost "localhost".toList = .ok (.name "localhost".toList) :=
    Url.parseHost_of_lower (List.all_eq_true.1 (by decide)) (by decide)
  have huser : Url.cutUser true "localhost:8080/api".toList =
      (none, "localhost:8080/api".toList) := by decide +kernel
  have hcut : Url.cutHost true false "localhost:8080/api".toList =
      ("localhost".toList, ":8080/api".toList) := by decide +kernel
  have hport : Url.cutPort ":8080/api".toList = .ok (some 8080, "/api".toList) := by
    decide +kernel
  have hscheme : Url.scheme? (Url.relevant defaultBaseUrl.toList) =
      some ("http".toList, "//localhost:8080/api".toList) := by decide +kernel
  have hslashes : "//localhost:8080/api".toList.dropWhile Url.isSlash =
      "localhost:8080/api".toList := by decide +kernel
  have hauthority := Url.parseAuthority_of_host huser hcut (by decide) hhost hport
  rw [← hslashes] at hauthority
  exact ⟨_, validate_eq_ok_iff.2 ⟨Url.parse_of_parseAuthority hscheme rfl hauthority, by decide⟩⟩

/-- Settings at a path are the ones that are loaded where no path is named. -/
structure Serves (files : Files) (env : Environment) (path : String) (c : Config) : Prop where
  consulted : Config.consulted files env none = some path
  /-- No other file has a part in what is loaded. -/
  only (others : Files) (h : others.readBytes path = files.readBytes path) :
    load others env none = load files env none
  loaded (haddress : env.Addressed none) (hvalid : ∃ base, c.validate = .ok base) :
    load files env none = .ok c

theorem isFile_of_readBytes {bytes : List UInt8} (h : files.readBytes path = .ok bytes) :
    files.isFile path = true := by
  have hfind := Files.find_eq_ok_iff.2 (Files.readBytes_eq_ok_iff.1 h)
  rw [Files.isFile, hfind]

theorem base_of_readBytes {bytes : List UInt8} (hpath : env.settingsPath? = some path)
    (h : files.readBytes path = .ok bytes) :
    consulted files env none = some path ∧ base files env none = fromFile files path := by
  have hconsulted : consulted files env none = some path := by
    rw [consulted, hpath, Option.filter_some_pos (isFile_of_readBytes h)]
  exact ⟨hconsulted, by rw [base_eq, hconsulted]⟩

/-- **Settings that were saved at the default path** are loaded. -/
theorem KeptAt.serves (h : c.KeptAt files path place after)
    (hpath : env.settingsPath? = some path) : Serves after env path c := by
  obtain ⟨text, -, hbytes⟩ := h.readBytes_eq
  obtain ⟨hconsulted, hbase⟩ := base_of_readBytes hpath hbytes
  refine ⟨hconsulted, fun others hsame => ?_, fun haddress ⟨base, hvalid⟩ => ?_⟩
  · rw [hbytes] at hsame
    rw [load, load, (base_of_readBytes hpath hsame).2, hbase, fromFile_congr hbytes hsame]
  · have hover : c.override env = c := by
      rw [override, Environment.addressed_iff.1 haddress]
      rfl
    rw [load_of_base (hbase.trans h.fromFile_eq), hover, hvalid]

/-! ## Initialising and loading -/

/-- What became of files in which the settings were initialised in a folder. -/
structure InitialisedIn (files : Files) (env : Environment) (folder : String) (after : Files) :
    Prop where
  /-- The default settings were put into the file in the folder, and into no other file. -/
  wrote : Saved default files (Path.child folder "config.toml") after
  inside : ∃ around, after.locate folder = .ok around ∧
    after.locate (Path.child folder "config.toml") = .ok ("config.toml" :: around)
  serves : Serves after env (Path.child folder "config.toml") default
  loaded (haddress : env.Addressed none) : load after env none = .ok default
  /-- Settings that are saved there later are loaded from then on, whatever else was done to
  files. -/
  saved (c : Config) (now later : Files)
    (h : c.save now (Path.child folder "config.toml") = (later, .ok ())) :
    Serves later env (Path.child folder "config.toml") c

/-- **Initialising and loading** agree on the path of the settings. -/
theorem init_then_load {home : String} (hhome : env.get? "HOME" = some home) (hne : home ≠ "") :
    ∃ folder, env.SettingsFolder folder ∧
      env.settingsPath? = some (Path.child folder "config.toml") ∧
      ∀ (files after : Files) (force : Bool) (words : String),
        init files env none force = (after, .ok words) →
          InitialisedIn files env folder after := by
  obtain ⟨folder, hfolder⟩ := Environment.exists_settingsFolder (.named hhome hne)
  refine ⟨folder, hfolder, hfolder.settingsPath?, fun files after force words h => ?_⟩
  obtain ⟨path, place, hpath, -, hkept⟩ := init_of_ok h
  obtain rfl := Option.some.inj (hfolder.settingsPath?.symm.trans hpath)
  have hserves := hkept.serves hfolder.settingsPath?
  obtain ⟨around, haround, rfl⟩ :=
    Files.locate_child hkept.locate_eq hfolder.ne_empty (by decide)
  refine ⟨hkept.saved, ⟨around, haround, hkept.locate_eq⟩, hserves,
    fun haddress => hserves.loaded haddress validate_default, fun c now later hsave => ?_⟩
  obtain ⟨place, hlater⟩ := save_of_ok hsave
  exact hlater.serves hfolder.settingsPath?

/-- The home and the folder for settings of all programs are named by relative paths, of which only
the first counts. -/
theorem init_then_load_home :
    let env : Environment :=
      ⟨[("BOOKSHELF_CONFIG_DIR", ""), ("XDG_CONFIG_HOME", "shared"), ("HOME", "home/")]⟩
    let path := "home/.config/bookshelf/config.toml"
    let hasty : Config := ⟨defaultBaseUrl, 5, some "reader"⟩
    ∃ after later,
      init (Files.withFolder ["work"]) env none false =
        (after, .ok ("Wrote default configuration to " ++ path ++ "\n")) ∧
      after.locate path = .ok ["config.toml", "bookshelf", ".config", "home", "work"] ∧
      load after env none = .ok default ∧
      hasty.save after path = (later, .ok ()) ∧ load later env none = .ok hasty := by
  intro env path hasty
  have hpath : env.settingsPath? = some path := by decide +kernel
  have hunset : env.Addressed none := .unset rfl
  have hvalid : ∃ base, hasty.validate = .ok base := by
    obtain ⟨base, hbase⟩ := validate_default
    exact ⟨base, validate_eq_ok_iff.2 ⟨(validate_eq_ok_iff.1 hbase).1, by decide⟩⟩
  have hwords : (init (Files.withFolder ["work"]) env none false).2 =
      .ok ("Wrote default configuration to " ++ path ++ "\n") := by decide +kernel
  have hplace : (init (Files.withFolder ["work"]) env none false).1.locate path =
      .ok ["config.toml", "bookshelf", ".config", "home", "work"] := by decide +kernel
  have hdone : (hasty.save (init (Files.withFolder ["work"]) env none false).1 path).2 =
      .ok () := by decide +kernel
  rcases hinit : init (Files.withFolder ["work"]) env none false with ⟨after, answer⟩
  rw [hinit] at hwords hplace hdone
  obtain rfl : answer = .ok ("Wrote default configuration to " ++ path ++ "\n") := hwords
  rcases hsave : hasty.save after path with ⟨later, ending⟩
  rw [hsave] at hdone
  obtain rfl : ending = .ok () := hdone
  obtain ⟨folder, -, hfolder, hall⟩ :=
    init_then_load (rfl : env.get? "HOME" = some "home/") (by decide)
  have hchild : path = Path.child folder "config.toml" :=
    Option.some.inj (hpath.symm.trans hfolder)
  have hafter := hall _ after false _ hinit
  have hlater := hafter.saved hasty after later (hchild ▸ hsave)
  exact ⟨after, later, rfl, hplace, hafter.loaded hunset, hsave, hlater.loaded hunset hvalid⟩

end Config

end BookCatalog
