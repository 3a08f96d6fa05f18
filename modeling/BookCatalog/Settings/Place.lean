import BookCatalog.Files.Path
import BookCatalog.Text.Blank

/-!
# Where settings are kept, and what overrides them

* `Environment.settingsPath?` — the path of the settings by default;
* `Environment.address?` — the address of the catalog that overrides theirs.
-/

namespace BookCatalog

/-- The variables of an environment, and what else is known of where a program runs. -/
structure Environment where
  bindings : List (String × String)

namespace Environment

def get? (env : Environment) (name : String) : Option String := env.bindings.lookup name

/-- The environment with a variable set, or taken away. -/
def set (env : Environment) (name : String) (value : Option String) : Environment :=
  let others := env.bindings.filter (·.1 ≠ name)
  match value with
  | some v => ⟨(name, v) :: others⟩
  | none => ⟨others⟩

/-- The value of a variable, unless it is empty. -/
def filled? (env : Environment) (name : String) : Option String := (env.get? name).filter (· ≠ "")

/-- The name for the home that the system keeps of the account.  No variable has it, since the name
of a variable holds no equals sign. -/
def accountHome : String := "account=home"

/-- The home: the one that is named, else that of the account. -/
def home? (env : Environment) : Option String := env.filled? "HOME" <|> env.filled? accountHome

/-- The folder for settings of all programs: the one that is named, if that is a path from the root,
else a hidden one at home. -/
def platformFolder? (env : Environment) : Option String :=
  ((env.get? "XDG_CONFIG_HOME").filter (Path.isAbsolute ·)) <|>
    env.home?.map (Path.child · ".config")

/-- The folder for the settings of this program: the one that is named, else its own among those of
all programs. -/
def settingsFolder? (env : Environment) : Option String :=
  env.filled? "BOOKSHELF_CONFIG_DIR" <|> env.platformFolder?.map (Path.child · "bookshelf")

def settingsPath? (env : Environment) : Option String :=
  env.settingsFolder?.map (Path.child · "config.toml")

/-- The address of the catalog that overrides the one in the settings, blanks around it left out. -/
def address? (env : Environment) : Option String :=
  ((env.get? "API_URI").map Text.trim).filter (· ≠ "")

end Environment

end BookCatalog
