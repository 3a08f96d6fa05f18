import BookCatalog.Command.Help

/-!
# A run of the program

From arguments, environment and files to what is written and the files afterwards.

* `Command.run` — a run.
-/

namespace BookCatalog

inductive Ending where
  /-- With this output. -/
  | shown (output : String)
  /-- With a failure of the command. -/
  | failed (e : CommandError)
  /-- Without a command, with these words about the arguments. -/
  | misused (words : String)
  deriving DecidableEq

namespace Ending

/-- The number that a run hands back. -/
def code : Ending → Nat
  | .shown _ => 0
  | .failed _ => 1
  | .misused _ => 2

def output : Ending → String
  | .shown output => output
  | _ => ""

def failure : Ending → String
  | .shown _ => ""
  | .failed e =>
    "Error: " ++ e.message ++
      (e.cause?.map fun cause => "\n\nCaused by:\n    " ++ cause).getD "" ++ "\n"
  | .misused words => words ++ "\n"

end Ending

/-- How a run without a command ends, with these words about arguments that are not understood. -/
def Halt.ending (words : String) : Halt → Ending
  | .usage => .misused words
  | .version => .shown "bookshelf 0.1.0\n"
  | .help path => .shown (Help.text path)

/-! ## Runs -/

/-- Performs the command that arguments ask for: the files afterwards, and how the run ends.  What
is said of arguments that are not understood is left open. -/
def Command.run (catalog : Catalog) (files : Files) (env : Environment) (args : List String)
    (explain : List String → String := Help.hint) : Web (Files × Ending) :=
  match Invocation.read args with
  | .error halt => return (files, halt.ending (explain args))
  | .ok call => do
    match ← call.command.perform catalog files env call.settings with
    | (after, .ok output) => return (after, .shown output)
    | (after, .error e) => return (after, .failed e)

end BookCatalog
