import BookCatalog.Json.Skip

/-!
# Reading values of a known type

Texts, lists and records with named fields.  Lists and objects that are read, not skipped, may be
nested up to a limit, so a reader of values is given how many more levels may be opened.

A record is written as an object, whose members may come in any order and among others that nobody
asks for, or as a list of its fields in order.
-/

namespace BookCatalog.Json

/-- A reader of values, given how many levels of lists and objects may still be opened. -/
abbrev ValueReader (α : Type) := (levels : Nat) → Reader α

/-- The failure of a value of the wrong kind in front of the text that is left. -/
def wrongKind (expected : String) (input : List Char) : Failure :=
  let kind := fun found rest => Failure.here (.wrongKind found expected) rest
  match input with
  | [] => .next .expectedValue []
  | c :: cs =>
    if c = 'n' then
      match skipWord ['u', 'l', 'l'] cs with
      | .ok rest => kind .null rest
      | .error e => e
    else if c = 't' then
      match skipWord ['r', 'u', 'e'] cs with
      | .ok rest => kind (.bool true) rest
      | .error e => e
    else if c = 'f' then
      match skipWord ['a', 'l', 's', 'e'] cs with
      | .ok rest => kind (.bool false) rest
      | .error e => e
    else if c = '-' || c.isDigit then
      match readNumber (c ≠ '-') (if c = '-' then cs else c :: cs) with
      | .ok (.integer n, rest) => kind (.integer n) rest
      | .ok (.real x, rest) => kind (.real x) rest
      | .error e => e
    else if c = '"' then
      match readQuoted cs with
      | .ok (s, rest) => kind (.text s) rest
      | .error e => e
    else if c = '[' then kind .list (c :: cs)
    else if c = '\x7b' then kind .object (c :: cs)
    else .next .expectedValue (c :: cs)

def readText : Reader String := fun input =>
  match skipSpace input with
  | [] => .error (.next .endInValue [])
  | '"' :: cs => readQuoted cs
  | other => .error (wrongKind "a string" other)

/-! ## Lists -/

/-- The text at the next item of a list, if there is one, and the text in front of the closing
bracket otherwise. -/
def nextItem (first : Bool) (input : List Char) : Except Failure (Bool × List Char) :=
  match skipSpace input with
  | [] => .error (.next .endInList [])
  | c :: cs =>
    if c = ']' then .ok (false, c :: cs)
    else if first then .ok (true, c :: cs)
    else if c = ',' then
      match skipSpace cs with
      | [] => .error (.next .endInValue [])
      | d :: ds => if d = ']' then .error (.next .trailingComma (d :: ds)) else .ok (true, d :: ds)
    else .error (.next .expectedCommaOrBracket (c :: cs))

/-- The items of a list up to its closing bracket.  A reader of items reads at least one character,
so the test on lengths never fails. -/
def readItems {α : Type} (item : Reader α) (first : Bool) (input : List Char) : Result (List α) :=
  match nextItem first input with
  | .error e => .error e
  | .ok (false, rest) => .ok ([], rest)
  | .ok (true, rest) =>
    match item rest with
    | .error e => .error e
    | .ok (v, after) =>
      if after.length < input.length then
        match readItems item false after with
        | .error e => .error e
        | .ok (vs, last) => .ok (v :: vs, last)
      else .error (.here .expectedValue after)
termination_by input.length

/-- The text after the closing bracket of a list. -/
def closeList (input : List Char) : Except Failure (List Char) :=
  match skipSpace input with
  | [] => .error (.next .endInList [])
  | ']' :: cs => .ok cs
  | ',' :: cs =>
    match skipSpace cs with
    | ']' :: ds => .error (.next .trailingComma (']' :: ds))
    | other => .error (.next .trailingCharacters other)
  | other => .error (.next .trailingCharacters other)

/-- Where a text stands once the end of a list has been looked for. -/
def atListEnd (input : List Char) : List Char :=
  match skipSpace input with
  | ']' :: cs => cs
  | ',' :: cs => skipSpace cs
  | other => other

/-- Leaves a list whose content was read or refused. -/
def leaveList {α : Type} : Result α → Result α
  | .ok (v, rest) => (closeList rest).map fun after => (v, after)
  | .error (.floating cause rest) => .error (.here cause (atListEnd rest))
  | .error placed => .error placed

def readList {α : Type} (item : ValueReader α) : ValueReader (List α) := fun levels input =>
  match skipSpace input with
  | [] => .error (.next .endInValue [])
  | '[' :: cs =>
    match levels with
    | 0 => .error (.next .tooDeep ('[' :: cs))
    | below + 1 => leaveList (readItems (item below) true cs)
  | other => .error (wrongKind "a sequence" other)

/-! ## Objects -/

/-- The text after the opening quote of the next key of an object, if there is one, and the text in
front of the closing brace otherwise. -/
def nextKey (first : Bool) (input : List Char) : Except Failure (Bool × List Char) :=
  let atKey := fun text : List Char =>
    match text with
    | [] => Except.error (Failure.next .endInValue [])
    | c :: cs =>
      if c = '"' then .ok (true, cs)
      else if c = '\x7d' then .error (.next .trailingComma (c :: cs))
      else .error (.next .keyNotText (c :: cs))
  match skipSpace input with
  | [] => .error (.next .endInObject [])
  | c :: cs =>
    if c = '\x7d' then .ok (false, c :: cs)
    else if first then atKey (c :: cs)
    else if c = ',' then atKey (skipSpace cs)
    else .error (.next .expectedCommaOrBrace (c :: cs))

def skipColon (input : List Char) : Except Failure (List Char) :=
  match skipSpace input with
  | [] => .error (.next .endInObject [])
  | ':' :: cs => .ok cs
  | other => .error (.next .expectedColon other)

/-- Takes the members of an object into a state, up to the closing brace.  The reader of a member
is given its key and stands in front of its colon.  A key takes at least one character, so the test
on lengths never fails. -/
def readMembers {σ : Type} (member : String → σ → Reader σ) (first : Bool) (state : σ)
    (input : List Char) : Result σ :=
  match nextKey first input with
  | .error e => .error e
  | .ok (false, rest) => .ok (state, rest)
  | .ok (true, rest) =>
    match readQuoted rest with
    | .error e => .error e
    | .ok (key, atColon) =>
      match member key state atColon with
      | .error e => .error e
      | .ok (state, after) =>
        if after.length < input.length then readMembers member false state after
        else .error (.here .expectedValue after)
termination_by input.length

/-- The text after the closing brace of an object. -/
def closeObject (input : List Char) : Except Failure (List Char) :=
  match skipSpace input with
  | [] => .error (.next .endInObject [])
  | c :: cs =>
    if c = '\x7d' then .ok cs
    else if c = ',' then .error (.next .trailingComma (c :: cs))
    else .error (.next .trailingCharacters (c :: cs))

/-- Where a text stands once the end of an object has been looked for. -/
def atObjectEnd (input : List Char) : List Char :=
  match skipSpace input with
  | [] => []
  | c :: cs => if c = '\x7d' then cs else c :: cs

/-- Leaves an object whose content was read or refused. -/
def leaveObject {α : Type} : Result α → Result α
  | .ok (v, rest) => (closeObject rest).map fun after => (v, after)
  | .error (.floating cause rest) => .error (.here cause (atObjectEnd rest))
  | .error placed => .error placed

/-! ## Records -/

/-- A field of a record: its name, whether it has to be given, and the reader of its value, which
gives the change that the value makes to a record. -/
structure Field (ρ : Type) where
  name : String
  required : Bool
  read : ValueReader (ρ → ρ)

/-- A type of records: its name, the record of which no field is given, and its fields in order. -/
structure Shape (ρ : Type) where
  name : String
  blank : ρ
  fields : List (Field ρ)

/-- The words for a record of a given length. -/
def Shape.sized {ρ : Type} (shape : Shape ρ) : String :=
  shape.name ++ " with " ++ Decimal.natural shape.fields.length ++
    (if shape.fields.length = 1 then " element" else " elements")

/-- Takes one member into a record and the names that were given so far. -/
def Shape.member {ρ : Type} (shape : Shape ρ) (levels : Nat) (key : String)
    (state : List String × ρ) : Reader (List String × ρ) := fun input =>
  match shape.fields.find? (·.name = key) with
  | some field =>
    if key ∈ state.1 then .error (.floating (.repeatedField key) input)
    else
      match skipColon input with
      | .error e => .error e
      | .ok atValue =>
        match field.read levels atValue with
        | .error e => .error e
        | .ok (change, rest) => .ok ((key :: state.1, change state.2), rest)
  | none =>
    match skipColon input with
    | .error e => .error e
    | .ok atValue => (skipValue atValue).map fun rest => (state, rest)

/-- The members of an object, taken as a record. -/
def Shape.readObject {ρ : Type} (shape : Shape ρ) (levels : Nat) : Reader ρ := fun input =>
  match readMembers (shape.member levels) true ([], shape.blank) input with
  | .error e => .error e
  | .ok ((given, record), rest) =>
    match shape.fields.find? fun field => field.required && field.name ∉ given with
    | some field => .error (.floating (.missingField field.name) rest)
    | none => .ok (record, rest)

/-- The items of a list, taken as the fields of a record in order, from a place among them on. -/
def Shape.readItems {ρ : Type} (shape : Shape ρ) (levels : Nat) :
    List (Field ρ) → (place : Nat) → ρ → Reader ρ
  | [], _, record, input => .ok (record, input)
  | field :: fields, place, record, input =>
    match nextItem (place = 0) input with
    | .error e => .error e
    | .ok (false, rest) =>
      if field.required then .error (.floating (.wrongLength place shape.sized) rest)
      else Shape.readItems shape levels fields (place + 1) record rest
    | .ok (true, rest) =>
      match field.read levels rest with
      | .error e => .error e
      | .ok (change, after) => Shape.readItems shape levels fields (place + 1) (change record) after

/-- A record, written as an object or as a list. -/
def Shape.read {ρ : Type} (shape : Shape ρ) : ValueReader ρ := fun levels input =>
  match skipSpace input with
  | [] => .error (.next .endInValue [])
  | c :: cs =>
    if c = '[' || c = '\x7b' then
      match levels with
      | 0 => .error (.next .tooDeep (c :: cs))
      | below + 1 =>
        if c = '[' then leaveList (shape.readItems below shape.fields 0 shape.blank cs)
        else leaveObject (shape.readObject below cs)
    else .error (wrongKind shape.name (c :: cs))

/-! ## Values of any kind -/

/-- A value as far as it can tell an identifier: a whole number, a text, or something else. -/
inductive Loose where
  | integer (n : Int)
  | text (s : String)
  | other

/-- A value of any kind, read in full. -/
def readLoose : ValueReader Loose := fun levels input =>
  match skipSpace input with
  | [] => .error (.next .endInValue [])
  | c :: cs =>
    if c = 'n' then (skipWord ['u', 'l', 'l'] cs).map (.other, ·)
    else if c = 't' then (skipWord ['r', 'u', 'e'] cs).map (.other, ·)
    else if c = 'f' then (skipWord ['a', 'l', 's', 'e'] cs).map (.other, ·)
    else if c = '-' || c.isDigit then
      match readNumber (c ≠ '-') (if c = '-' then cs else c :: cs) with
      | .ok (.integer n, rest) => .ok (.integer n, rest)
      | .ok (.real _, rest) => .ok (.other, rest)
      | .error e => .error e
    else if c = '"' then (readQuoted cs).map fun (s, rest) => (.text s, rest)
    else if c = '[' then
      match levels with
      | 0 => .error (.next .tooDeep (c :: cs))
      | below + 1 =>
        leaveList ((readItems (readLoose below) true cs).map fun (_, rest) => (.other, rest))
    else if c = '\x7b' then
      match levels with
      | 0 => .error (.next .tooDeep (c :: cs))
      | below + 1 =>
        leaveObject (readMembers
          (fun _ _ atColon =>
            match skipColon atColon with
            | .error e => .error e
            | .ok atValue => (readLoose below atValue).map fun (_, rest) => (.other, rest))
          true .other cs)
    else .error (.next .expectedValue (c :: cs))

/-! ## Whole texts -/

/-- How many levels of lists and objects a text may open. -/
def maxLevels : Nat := 127

/-- The value that a text holds, with nothing but space after it. -/
def decode {α : Type} (read : ValueReader α) (text : String) : Except Error α :=
  match read maxLevels text.toList with
  | .error e => .error (e.inText text.toList)
  | .ok (v, rest) =>
    match skipSpace rest with
    | [] => .ok v
    | other => .error ((Failure.next .trailingCharacters other).inText text.toList)

end BookCatalog.Json
