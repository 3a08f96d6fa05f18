import BookCatalog.Command.Arguments

/-!
# Help

A page of help says what a command does, how it is used, and what may be given to it.  There is one
for each place of the command line, named by the words that lead there.

* `Help.text` — the page for a place.
-/

namespace BookCatalog.Help

def purpose : List String → String
  | [] => "Command-line client for searching and browsing a remote book catalog"
  | ["search"] => "Search titles, authors, and content for a keyword or pattern"
  | ["book"] => "Show details of a single book"
  | ["suggest"] => "List books similar to the given ones"
  | ["config"] => "Manage the configuration file"
  | ["config", "init"] =>
    "Write a default config file to \x60--config\x60 or the default location"
  | _ => "Print this message or the help of the given subcommand(s)"

/-- What follows the words of a command. -/
def usage : List String → String
  | [] => "[OPTIONS] <COMMAND>"
  | ["search"] => "[OPTIONS] [QUERY]"
  | ["book"] => "[OPTIONS] [ID]"
  | ["suggest"] => "[OPTIONS] <IDS>..."
  | ["config"] => "[OPTIONS] <COMMAND>"
  | ["config", "init"] => "[OPTIONS]"
  | _ => "[COMMAND]..."

/-! ## Entries -/

/-- Something that can be given, and what is said of it. -/
abbrev Entry := String × String

def commands (path : List String) : List Entry :=
  (Grammar.below path).map fun word => (word, purpose (path ++ [word]))

/-- The words that a command takes. -/
def arguments : List String → List Entry
  | ["search"] =>
    [("[QUERY]", "Keyword or regular expression. Omit to search with an empty query")]
  | ["book"] => [("[ID]", "Book id [default: 1]")]
  | ["suggest"] => [("<IDS>...", "Ids of the books to find neighbours for")]
  | ["help"] | ["config", "help"] => [("[COMMAND]...", "Print help for the subcommand(s)")]
  | _ => []

/-- The options without a value, besides those for help and the version. -/
def flags : List String → List Entry
  | ["search"] =>
    [("--ordered", "Show content matches ordered by popularity (closeness centrality)"),
      ("--json", "Print the full result set as JSON")]
  | ["book"] => [("--json", "Print the book as JSON")]
  | ["suggest"] => [("--json", "Print the books as JSON")]
  | ["config", "init"] => [("--force", "Overwrite an existing file")]
  | _ => []

def options (path : List String) : List Entry :=
  if path = ["help"] || path = ["config", "help"] then []
  else
    ("-c, --config <CONFIG>", "Path to TOML configuration file") ::
      (flags path).map (fun entry => ("    " ++ entry.1, entry.2)) ++
      ("-h, --help", "Print help") ::
      if path = [] then [("-V, --version", "Print version")] else []

/-! ## Pages -/

/-- Entries under a title, with what is said of them in one column; nothing without entries. -/
def table (title : String) (entries : List Entry) : String :=
  let width := (entries.map (·.1.length)).foldl max 0
  let line := fun entry : Entry =>
    "  " ++ entry.1 ++ String.ofList (List.replicate (width - entry.1.length) ' ') ++ "  " ++
      entry.2 ++ "\n"
  if entries = [] then "" else "\n" ++ title ++ ":\n" ++ String.join (entries.map line)

def text (path : List String) : String :=
  purpose path ++ "\n\nUsage: " ++ Text.join " " ("bookshelf" :: path ++ [usage path]) ++ "\n" ++
    table "Commands" (commands path) ++ table "Arguments" (arguments path) ++
    table "Options" (options path)

example : text ["book"] =
    "Show details of a single book\n\nUsage: bookshelf book [OPTIONS] [ID]\n\n" ++
    "Arguments:\n  [ID]  Book id [default: 1]\n\n" ++
    "Options:\n  -c, --config <CONFIG>  Path to TOML configuration file\n" ++
    "      --json             Print the book as JSON\n  -h, --help             Print help\n" := by
  decide +kernel

/-- What is said of arguments that are not understood, whichever they are. -/
def hint (_ : List String) : String :=
  "Usage: bookshelf " ++ usage [] ++ "\n\nFor more information, try '--help'."

end BookCatalog.Help
