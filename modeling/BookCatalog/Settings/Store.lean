import BookCatalog.Command.Error
import BookCatalog.Files.Access
import BookCatalog.Settings.Format
import BookCatalog.Settings.Place

/-!
# Keeping settings

* `Config.fromFile` — the settings in a file;
* `Config.load` — the settings to use: from a file, with what the environment overrides;
* `Config.save` — settings into a file;
* `Config.init` — the default settings into a file.
-/

namespace BookCatalog.Config

def fromFile (files : Files) (path : String) : Except CommandError Config :=
  match files.readText path with
  | .error e => .error (.file e)
  | .ok text =>
    match ofText? text with
    | none => .error .format
    | some c => .ok c

def override (env : Environment) (c : Config) : Config :=
  { c with baseUrl := env.address?.getD c.baseUrl }

/-- The settings before anything overrides them: those in the file that is named, which must be
there, else those in the file at the default path if one is there, else the default ones. -/
def base (files : Files) (env : Environment) (path : Option String) : Except CommandError Config :=
  match path with
  | some path => fromFile files path
  | none =>
    match env.settingsPath? with
    | some path => if files.isFile path then fromFile files path else .ok default
    | none => .ok default

/-- The settings to use. -/
def load (files : Files) (env : Environment) (path : Option String) :
    Except CommandError Config := do
  let c := (← base files env path).override env
  match c.validate with
  | .ok _ => return c
  | .error e => throw (.search e)

def makeRoom (files : Files) (path : String) : Files × Except FileError Unit :=
  match Path.parent? path with
  | some folder => files.makeFolders folder
  | none => (files, .ok ())

/-- Saves settings.  The folder for them is made first, and stays even if they cannot be saved. -/
def save (c : Config) (files : Files) (path : String) : Files × Except CommandError Unit :=
  match makeRoom files path with
  | (roomy, .error e) => (roomy, .error (.file e))
  | (roomy, .ok ()) =>
    match c.toText? with
    | none => (roomy, .error .format)
    | some text =>
      match roomy.writeText path text with
      | .error e => (roomy, .error (.file e))
      | .ok written => (written, .ok ())

/-- Saves the default settings, at the default path if none is named, and says where.  What is there
already is only overwritten by force. -/
def init (files : Files) (env : Environment) (path : Option String) (force : Bool) :
    Files × Except CommandError String :=
  match path <|> env.settingsPath? with
  | none => (files, .error (.settings "no config directory found; pass --config <path>"))
  | some path =>
    if files.holds path && !force then
      (files, .error (.settings (path ++ " already exists; use --force to overwrite")))
    else
      match default.save files path with
      | (after, .error e) => (after, .error e)
      | (after, .ok ()) => (after, .ok ("Wrote default configuration to " ++ path ++ "\n"))

end BookCatalog.Config
