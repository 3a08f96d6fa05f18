import BookCatalog.Command.Basic

/-!
# The command line

The first word names a command, and `config` takes one more word.  Options may stand before and
after these words and among the words that a command takes; after `--` there are only words.  The
path of the settings may be given in front of a command and again behind it, and then the last one
counts; otherwise no option may be given twice.

* `Invocation.read` — the command that arguments ask for, or why they ask for none.
-/

namespace BookCatalog

structure Invocation where
  /-- The path of the settings. -/
  settings : Option String
  command : Command
  deriving DecidableEq

/-- Why arguments ask for no command. -/
inductive Halt where
  /-- They are not understood. -/
  | usage
  /-- They ask for the version. -/
  | version
  /-- They ask for help with the command that the words name. -/
  | help (words : List String)
  deriving DecidableEq

/-- The options that may be given at one place, besides those for settings and help. -/
structure Grammar where
  /-- The words that lead here. -/
  path : List String
  /-- Options without a value. -/
  flags : List String
  /-- Whether the version can be asked for. -/
  version : Bool
  /-- The words that lead on; if there are none, words are for the command. -/
  next : List String
  /-- The number of words that the command takes, if it is bounded. -/
  words : Option Nat

/-- What the arguments at one place have given. -/
structure Given where
  settings : Option String
  flags : List String
  words : List String

namespace Given

def nothing : Given := ⟨none, [], []⟩

/-- Adds the path of the settings, which must not be empty nor given before. -/
def withSettings (given : Given) (path : String) : Except Halt Given :=
  if path = "" || given.settings.isSome then .error .usage
  else .ok { given with settings := some path }

/-- Adds an option without a value, which must not be given before. -/
def withFlag (given : Given) (flag : String) : Except Halt Given :=
  if given.flags.contains flag then .error .usage
  else .ok { given with flags := given.flags ++ [flag] }

def withWords (given : Given) (grammar : Grammar) (words : List String) : Except Halt Given :=
  let all := given.words ++ words
  if grammar.words.any (· < all.length) then .error .usage else .ok { given with words := all }

end Given

namespace Grammar

/-- What an argument is at one place. -/
inductive Argument where
  /-- An option with the path of the settings. -/
  | settings (path : String)
  /-- An option for the path of the settings, which is the next argument. -/
  | awaiting
  /-- An option without a value. -/
  | flag (name : String)
  /-- The sign that only words follow. -/
  | words
  | word (word : String)

/-- What an argument of a dash and letters is. -/
def short (grammar : Grammar) (c : Char) (more : List Char) : Except Halt Argument :=
  if c = 'c' then
    match more with
    | [] => .ok .awaiting
    | '=' :: path => .ok (.settings (String.ofList path))
    | path => .ok (.settings (String.ofList path))
  else if c = 'h' then .error (.help grammar.path)
  else if c = 'V' && grammar.version then .error .version
  else .error .usage

/-- What an argument of two dashes and a name is, and perhaps a value after the name. -/
def long (grammar : Grammar) (name : String) (given : Option String) : Except Halt Argument :=
  match given with
  | some path => if name = "config" then .ok (.settings path) else .error .usage
  | none =>
    if name = "config" then .ok .awaiting
    else if name = "help" then .error (.help grammar.path)
    else if name = "version" && grammar.version then .error .version
    else if grammar.flags.contains name then .ok (.flag name)
    else .error .usage

def classify (grammar : Grammar) (arg : String) : Except Halt Argument :=
  match arg.toList with
  | ['-', '-'] => .ok .words
  | '-' :: '-' :: cs =>
    let (name, given) := Text.cutFirst '=' cs
    grammar.long (String.ofList name) (given.map String.ofList)
  | '-' :: c :: more => grammar.short c more
  | _ => .ok (.word arg)

/-- Can an argument be the value of the option in front of it? -/
def isValue (arg : String) : Bool := arg.toList.head? ≠ some '-' || arg = "-"

/-- Reads the arguments at one place, up to a word that leads on; that word and the arguments after
it are given back.  The flag says that the path of the settings must come next. -/
def scan (grammar : Grammar) : Bool → Given → List String → Except Halt (Given × List String)
  | true, _, [] => .error .usage
  | true, given, arg :: rest =>
    if isValue arg then (given.withSettings arg).bind fun given => scan grammar false given rest
    else .error .usage
  | false, given, [] => .ok (given, [])
  | false, given, arg :: rest =>
    match grammar.classify arg with
    | .error halt => .error halt
    | .ok .awaiting => scan grammar true given rest
    | .ok (.settings path) =>
      (given.withSettings path).bind fun given => scan grammar false given rest
    | .ok (.flag name) => (given.withFlag name).bind fun given => scan grammar false given rest
    | .ok .words =>
      if grammar.next = [] then (given.withWords grammar rest).map (·, []) else .error .usage
    | .ok (.word word) =>
      if grammar.next = [] then
        (given.withWords grammar [word]).bind fun given => scan grammar false given rest
      else if grammar.next.contains word then .ok (given, word :: rest)
      else .error .usage

end Grammar

/-! ## The commands -/

/-- The words that lead on from a place. -/
def Grammar.below (path : List String) : List String :=
  if path = [] then ["search", "book", "suggest", "config", "help"]
  else if path = ["config"] then ["init", "help"]
  else []

/-- In front of the command. -/
def Grammar.top : Grammar := ⟨[], [], true, Grammar.below [], none⟩

/-- In front of what to do with the settings. -/
def Grammar.config : Grammar := ⟨["config"], [], false, Grammar.below ["config"], none⟩

def Grammar.leaf (path flags : List String) (words : Option Nat) : Grammar :=
  ⟨path, flags, false, [], words⟩

namespace Invocation

/-- The command that words ask for help with, if they name one. -/
def helpWith (path : List String) : List String → Halt
  | [] => .help path
  | word :: rest =>
    if path = [] && word = "config" then helpWith ["config"] rest
    else if rest = [] && (Grammar.below path).contains word then .help (path ++ [word])
    else .usage

/-- Reads the arguments after a command. -/
def after (path flags : List String) (words : Option Nat) (outer : Option String)
    (args : List String) (command : Given → Except Halt Command) : Except Halt Invocation := do
  let (given, _) ← (Grammar.leaf path flags words).scan false .nothing args
  return ⟨given.settings <|> outer, ← command given⟩

def style (given : Given) : Style := if given.flags.contains "json" then .json else .text

/-- The command that arguments ask for. -/
def read (args : List String) : Except Halt Invocation := do
  let (given, rest) ← Grammar.top.scan false .nothing args
  match rest with
  | "search" :: args =>
    after ["search"] ["ordered", "json"] (some 1) given.settings args fun here =>
      let order := if here.flags.contains "ordered" then View.Order.closeness else .relevance
      .ok (.search here.words.head? order (style here))
  | "book" :: args =>
    after ["book"] ["json"] (some 1) given.settings args fun here =>
      .ok (.book (here.words.head?.getD "1") (style here))
  | "suggest" :: args =>
    after ["suggest"] ["json"] none given.settings args fun here =>
      if here.words = [] then .error .usage else .ok (.suggest here.words (style here))
  | "config" :: args =>
    let (inner, rest) ← Grammar.config.scan false .nothing args
    match rest with
    | "init" :: args =>
      let outer := inner.settings <|> given.settings
      after ["config", "init"] ["force"] (some 0) outer args fun here =>
        .ok (.init (here.flags.contains "force"))
    | "help" :: words => throw (helpWith ["config"] words)
    | _ => throw .usage
  | "help" :: words => throw (helpWith [] words)
  | _ => throw .usage

end Invocation

end BookCatalog
