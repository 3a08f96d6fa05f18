import BookCatalog.Catalog.Config
import BookCatalog.Toml.Printer
import BookCatalog.Toml.Reader

/-!
# Settings as TOML

The settings of the client are the table `api` of a TOML text.  What the text leaves out is as by
default, and what it has besides is of no account.

* `Config.ofText?` — the settings that a text gives;
* `Config.toText?` — a text that gives the settings.
-/

namespace BookCatalog.Config

/-! ## Reading -/

/-- A value that has to be a text. -/
def textOf? : Toml.Value → Option String
  | .text s => some s
  | _ => none

/-- A value that has to be a number of seconds. -/
def secondsOf? : Toml.Value → Option Nat
  | .integer n => if 0 ≤ n then some n.toNat else none
  | _ => none

/-- What the value of a key gives, or what is given where the key is missing. -/
def field {α : Type} (entries : Toml.Entries) (key : String) (of? : Toml.Value → Option α)
    (missing : α) : Option α :=
  match entries.lookup key with
  | some v => of? v
  | none => some missing

/-- The settings that the entries of a table give. -/
def ofEntries? (entries : Toml.Entries) : Option Config := do
  let baseUrl ← field entries "base_url" textOf? default.baseUrl
  let seconds ← field entries "timeout_seconds" secondsOf? default.timeoutSeconds
  let agent ← field entries "user_agent" (fun v => (textOf? v).map some) default.userAgent
  return ⟨baseUrl, seconds, agent⟩

/-- The keys of the settings, in the order in which a list gives their values. -/
def keys : List String := ["base_url", "timeout_seconds", "user_agent"]

/-- The settings that a value gives: a table of them, or a list of their values, of which the last
ones may be missing.  A date gives none. -/
def ofValue? : Toml.Value → Option Config
  | .table _ entries => ofEntries? entries
  | .list values => ofEntries? (keys.zip values)
  | .moment => some default
  | _ => none

def ofText? (text : String) : Option Config :=
  (Toml.read text).bind fun entries => field entries "api" ofValue? default

/-! ## Writing -/

/-- A text that gives the settings.  A number of seconds that is no integer of TOML cannot be
written. -/
def toText? (c : Config) : Option String :=
  if Decimal.isWord c.timeoutSeconds then
    some (String.ofList (Toml.headerLine "api" ++
      Toml.keyLine "base_url" (Toml.quotedText c.baseUrl) ++
      Toml.keyLine "timeout_seconds" (Decimal.digits c.timeoutSeconds) ++
      (c.userAgent.map fun agent => Toml.keyLine "user_agent" (Toml.quotedText agent)).getD []))
  else none

end BookCatalog.Config
