import BookCatalog.Catalog.Client
import BookCatalog.Command.Error
import BookCatalog.Settings.Store
import BookCatalog.View.Results

/-!
# Commands

Each command asks the catalog once and shows what it learned, as lines of text or as JSON.  Keeping
settings is a command too, which asks nothing.

* `Config.showSearch` — a search in every way; it fails only for settings that cannot be used;
* `Config.showBook` — one book;
* `Config.showSuggestions` — similar books;
* `Command.perform` — any command, with the settings to be found first.
-/

namespace BookCatalog

inductive Style where
  | text
  | json
  deriving DecidableEq

/-- A JSON value as output: indented, with a line end. -/
def output (v : Json.Value) : String := v.toIndented ++ "\n"

namespace Config

/-- What a command shows of what a request ended in. -/
def present {α : Type} (render : α → String) (outcome : Except SearchError α) :
    Except CommandError String :=
  match outcome with
  | .ok v => .ok (render v)
  | .error e => .error (.search e)

def showSearch (c : Config) (catalog : Catalog) (query : Option String) (order : View.Order) :
    Style → Web (Except CommandError String)
  | .text => do return present (View.results order) (← c.search catalog query)
  | .json => do return present (fun r => output r.value) (← c.search catalog query)

def showBook (c : Config) (catalog : Catalog) (id : Id) : Style → Web (Except CommandError String)
  | .text => do return present View.detail (← c.book catalog id)
  | .json => do return present (fun b => output b.value) (← c.book catalog id)

def showSuggestions (c : Config) (catalog : Catalog) (terms : List String) :
    Style → Web (Except CommandError String)
  | .text => do return present View.suggestions (← c.suggestions catalog terms)
  | .json => do return present (fun bs => output (Book.listValue bs)) (← c.suggestions catalog terms)

end Config

inductive Command where
  | search (query : Option String) (order : View.Order) (style : Style)
  | book (id : String) (style : Style)
  | suggest (ids : List String) (style : Style)
  /-- Saves default settings. -/
  | init (force : Bool)
  deriving DecidableEq

namespace Command

/-- What a command shows with given settings. -/
def shown (command : Command) (c : Config) (catalog : Catalog) : Web (Except CommandError String) :=
  match command with
  | .search query order style => c.showSearch catalog query order style
  | .book id style => c.showBook catalog (.ofText id) style
  | .suggest ids style => c.showSuggestions catalog ids style
  | .init _ => return .ok ""

/-- Performs a command, with the settings at a path or those that are found without one. -/
def perform (command : Command) (catalog : Catalog) (files : Files) (env : Environment)
    (path : Option String) : Web (Files × Except CommandError String) :=
  match command with
  | .init force => return Config.init files env path force
  | _ =>
    match Config.load files env path with
    | .error e => return (files, .error e)
    | .ok c => do return (files, ← command.shown c catalog)

end Command

end BookCatalog
