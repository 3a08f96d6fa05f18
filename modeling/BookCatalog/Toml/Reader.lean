import BookCatalog.Toml.Number
import BookCatalog.Toml.Moment
import BookCatalog.Toml.Table

/-!
# Reading TOML

A text is first read line by line into statements, which are headers and assignments; the statements
then make up the table.

* `statements?` — the statements of a text;
* `build` — the table that statements make up;
* `read` — both.
-/

namespace BookCatalog.Toml

/-! ## Keys -/

/-- A character of a key without quotes. -/
def isBare (c : Char) : Bool := c.isAlphanum || c = '_' || c = '-'

/-- One key, in quotes or bare. -/
def readKey : Reader String
  | [] => none
  | c :: cs =>
    if c = '"' then (readBasic cs).map fun (ds, rest) => (String.ofList ds, rest)
    else if c = '\'' then (readLiteral cs).map fun (ds, rest) => (String.ofList ds, rest)
    else if isBare c then
      some (String.ofList (c :: cs.takeWhile isBare), cs.dropWhile isBare)
    else none

/-- Keys with dots between them, space around each. -/
def readKeys (cs : List Char) : Option (List String × List Char) :=
  (readKey (skipSpace cs)).bind fun (key, rest) =>
    match skipSpace rest with
    | '.' :: after =>
      if after.length < cs.length then (readKeys after).map fun (keys, rest) => (key :: keys, rest)
      else none
    | after => some ([key], after)
termination_by cs.length

/-- The number of keys, of lists and of braces within each other from which on a text is refused. -/
def depthLimit : Nat := 80

/-- A path of keys, as the keys in front and the last one. -/
def readPath : Reader (List String × String) := fun cs =>
  (readKeys cs).bind fun (keys, rest) =>
    if keys.length < depthLimit then (keys.getLast?).map fun key => ((keys.dropLast, key), rest)
    else none

/-! ## Values -/

/-- The items of a list after its opening bracket: commas between them, one more allowed at the end,
and space, comments and line ends anywhere around them. -/
def readItems (item : Reader Value) (cs : List Char) : Option (List Value × List Char) :=
  (skipLines cs).bind fun start =>
    match start with
    | ']' :: rest => some ([], rest)
    | _ =>
      (item start).bind fun (v, rest) =>
        (skipLines rest).bind fun rest =>
          match rest with
          | ']' :: after => some ([v], after)
          | ',' :: after =>
            if after.length < cs.length then
              (readItems item after).map fun (vs, rest) => (v :: vs, rest)
            else none
          | _ => none
termination_by cs.length

/-- A key and its value: what is in front of the last key, that key, and the value. -/
abbrev Pair := (List String × String) × Value

/-- A key and its value, the space after it left. -/
def readPair (value : Reader Value) : Reader Pair := fun cs => do
  let (path, rest) ← readPath cs
  let (v, rest) ← value (skipSpace (← after? '=' rest))
  some ((path, v), rest)

/-- Keys and values in braces, after the opening one: at least one pair, commas between them. -/
def readPairs (value : Reader Value) (cs : List Char) : Option (List Pair × List Char) :=
  (readPair value cs).bind fun (p, rest) =>
    match skipSpace rest with
    | '}' :: after => some ([p], after)
    | ',' :: after =>
      if after.length < cs.length then (readPairs value after).map fun (ps, rest) => (p :: ps, rest)
      else none
    | _ => none
termination_by cs.length

/-- The table in braces that keys and values make up. -/
def inlineTable (pairs : List Pair) : Option Value :=
  (pairs.foldlM (fun entries ((path, key), v) => Entries.assign path key v .inline entries) []).map
    (.table .inline)

def readBraces (value : Reader Value) : Reader Value := fun cs =>
  match skipSpace cs with
  | '}' :: rest => some (.table .inline [], rest)
  | _ => do
    let (pairs, rest) ← readPairs value cs
    some (← inlineTable pairs, rest)

/-- A value that holds no other: a text, a number, a truth value, a date or a time. -/
def readScalar : Reader Value := fun cs =>
  match cs with
  | '"' :: _ | '\'' :: _ => (readText cs).map fun (ds, rest) => (.text (String.ofList ds), rest)
  | 't' :: 'r' :: 'u' :: 'e' :: rest => some (.truth true, rest)
  | 'f' :: 'a' :: 'l' :: 's' :: 'e' :: rest => some (.truth false, rest)
  | _ =>
    ((moment? cs).map fun rest => (.moment, rest)) <|>
    ((readReal cs).map fun (_, rest) => (.real, rest)) <|>
    (readInteger cs).map fun (n, rest) => (.integer n, rest)

/-- A value, lists and braces within each other no deeper than the number says. -/
def readValue : Nat → Reader Value
  | depth + 1, '[' :: cs =>
    (readItems (readValue depth) cs).map fun (vs, rest) => (.list vs, rest)
  | depth + 1, '{' :: cs => readBraces (readValue depth) cs
  | _, cs => readScalar cs

/-! ## Statements -/

inductive Statement where
  /-- A key gets a value. -/
  | assign (path : List String) (key : String) (v : Value)
  /-- A table is opened. -/
  | table (path : List String) (key : String)
  /-- One more of several tables is opened. -/
  | element (path : List String) (key : String)

def readStatement : Reader Statement
  | '[' :: '[' :: cs => do
    let ((path, key), rest) ← readPath cs
    let rest ← after? ']' (← after? ']' rest)
    some (.element path key, rest)
  | '[' :: cs => do
    let ((path, key), rest) ← readPath cs
    some (.table path key, ← after? ']' rest)
  | cs => do
    let (((path, key), v), rest) ← readPair (readValue (depthLimit - 1)) cs
    some (.assign path key v, rest)

/-- A line with its end: at most one statement. -/
def readLine : Reader (Option Statement) := fun cs =>
  match endLine? cs with
  | some rest => some (none, rest)
  | none => do
    let (s, rest) ← readStatement (skipSpace cs)
    some (some s, ← endLine? rest)

def lines? (cs : List Char) : Option (List Statement) :=
  if cs = [] then some []
  else
    (readLine cs).bind fun (s, rest) =>
      if rest.length < cs.length then (lines? rest).map (s.toList ++ ·) else none
termination_by cs.length

/-- The statements of a text, in front of which a byte order mark may stand. -/
def statements? (text : String) : Option (List Statement) :=
  match text.toList with
  | '\uFEFF' :: cs => lines? cs
  | cs => lines? cs

/-! ## The table that a text makes up -/

/-- A table in the making: its entries, and the path to the table that was opened last. -/
structure Draft where
  entries : Entries
  current : List String

def Draft.follow (draft : Draft) : Statement → Option Draft
  | .assign path key v =>
    (Entries.within .header (Entries.assign path key v) draft.current .header draft.entries).map
      fun entries => { draft with entries }
  | .table path key =>
    (draft.entries.openTable path key).map fun entries => ⟨entries, path ++ [key]⟩
  | .element path key =>
    (draft.entries.openElement path key).map fun entries => ⟨entries, path ++ [key]⟩

def build (statements : List Statement) : Option Entries :=
  (statements.foldlM Draft.follow ⟨[], []⟩).map Draft.entries

/-- The table that a text stands for, if it is TOML. -/
def read (text : String) : Option Entries := (statements? text).bind build

end BookCatalog.Toml
