import BookCatalog.Text.Runs

/-!
# The smallest parts of a TOML text

Space, line ends, comments and quoted texts.  Readers take the text that is left and give back what
they read with the text that is left then, or nothing if the text is no TOML.
-/

namespace BookCatalog.Toml

/-- A reader of one thing at the start of a text. -/
abbrev Reader (α : Type) := List Char → Option (α × List Char)

def isSpace (c : Char) : Bool := c = ' ' || c = '\t'

def skipSpace (cs : List Char) : List Char := cs.dropWhile isSpace

/-- A character that may stand in a comment or a quoted text: a tab, or no control character. -/
def isPlain (c : Char) : Bool := c = '\t' || (0x20 ≤ c.toNat && c.toNat ≠ 0x7F)

def newline? : List Char → Option (List Char)
  | '\n' :: cs => some cs
  | '\r' :: '\n' :: cs => some cs
  | _ => none

/-- The text after a comment, which ends in front of the line end. -/
def skipComment (cs : List Char) : List Char :=
  match cs with
  | '#' :: rest => rest.dropWhile isPlain
  | _ => cs

/-- The text after the rest of a line, which holds nothing but space and a comment. -/
def endLine? (cs : List Char) : Option (List Char) :=
  match skipComment (skipSpace cs) with
  | [] => some []
  | rest => newline? rest

/-- The text after space, comments and line ends. -/
def skipLines (cs : List Char) : Option (List Char) :=
  match skipComment (skipSpace cs) with
  | [] => some []
  | c :: rest =>
    if c = '\n' || c = '\r' || (skipSpace cs).head? = some '#' then
      match newline? (c :: rest) with
      | none => none
      | some after => if after.length < cs.length then skipLines after else none
    else some (c :: rest)
termination_by cs.length

/-! ## Quoted texts -/

/-- The character with a number, from hexadecimal digits. -/
def numbered? (digits : List Char) : Option Char :=
  if digits.all (Text.hexValue? · |>.isSome) && (Text.hexValue digits).isValidChar then
    some (Char.ofNat (Text.hexValue digits))
  else none

/-- The character of an escape, and how many characters that takes after the backslash. -/
def escape? : List Char → Option (Char × Nat)
  | 'b' :: _ => some ('\x08', 1)
  | 't' :: _ => some ('\t', 1)
  | 'n' :: _ => some ('\n', 1)
  | 'f' :: _ => some ('\x0c', 1)
  | 'r' :: _ => some ('\r', 1)
  | '"' :: _ => some ('"', 1)
  | '\\' :: _ => some ('\\', 1)
  | 'u' :: cs => if cs.length < 4 then none else (numbered? (cs.take 4)).map (·, 5)
  | 'U' :: cs => if cs.length < 8 then none else (numbered? (cs.take 8)).map (·, 9)
  | _ => none

/-- A text in double quotes on one line, after its opening quote. -/
def readBasic : Reader (List Char)
  | [] => none
  | c :: cs =>
    if c = '"' then some ([], cs)
    else if c = '\\' then
      match escape? cs with
      | none => none
      | some (d, n) => (readBasic (cs.drop n)).map fun (ds, rest) => (d :: ds, rest)
    else if isPlain c then (readBasic cs).map fun (ds, rest) => (c :: ds, rest)
    else none
termination_by cs => cs.length
decreasing_by all_goals simp; try omega

/-- A text in single quotes on one line, after its opening quote. -/
def readLiteral : Reader (List Char)
  | [] => none
  | c :: cs =>
    if c = '\'' then some ([], cs)
    else if isPlain c then (readLiteral cs).map fun (ds, rest) => (c :: ds, rest)
    else none

/-- The closing of a text over several lines, three quotes, with up to two more of them that belong
to the text. -/
def closing? (quote : Char) (cs : List Char) : Option (List Char × List Char) :=
  let n := min 5 (cs.takeWhile (· = quote)).length
  if 3 ≤ n then some (List.replicate (n - 3) quote, cs.drop n) else none

/-- A text without the space and the line ends in front. -/
def skipFolded : List Char → List Char
  | '\r' :: '\n' :: cs => skipFolded cs
  | c :: cs => if isSpace c || c = '\n' then skipFolded cs else c :: cs
  | [] => []

/-- The text after a line that a backslash folds: space and a line end, then all the space and line
ends that follow. -/
def foldedLine? (cs : List Char) : Option (List Char) :=
  (newline? (skipSpace cs)).map skipFolded

/-- A text in double quotes over several lines, after its opening quotes. -/
def readLongBasic (cs : List Char) : Option (List Char × List Char) :=
  match closing? '"' cs with
  | some closed => some closed
  | none =>
    match cs with
    | [] => none
    | '\r' :: '\n' :: rest => (readLongBasic rest).map fun (ds, after) => ('\n' :: ds, after)
    | c :: rest =>
      if c = '\\' then
        match foldedLine? rest with
        | some next => if next.length < rest.length + 1 then readLongBasic next else none
        | none =>
          match escape? rest with
          | none => none
          | some (d, n) => (readLongBasic (rest.drop n)).map fun (ds, after) => (d :: ds, after)
      else if c = '\n' || isPlain c then
        (readLongBasic rest).map fun (ds, after) => (c :: ds, after)
      else none
termination_by cs.length
decreasing_by all_goals simp_all; try omega

/-- A text in single quotes over several lines, after its opening quotes. -/
def readLongLiteral (cs : List Char) : Option (List Char × List Char) :=
  match closing? '\'' cs with
  | some closed => some closed
  | none =>
    match cs with
    | [] => none
    | '\r' :: '\n' :: rest => (readLongLiteral rest).map fun (ds, after) => ('\n' :: ds, after)
    | c :: rest =>
      if c = '\n' || isPlain c then (readLongLiteral rest).map fun (ds, after) => (c :: ds, after)
      else none
termination_by cs.length
decreasing_by all_goals simp_all; try omega

/-- The text after a line end in front, if there is one. -/
def dropNewline (cs : List Char) : List Char := (newline? cs).getD cs

/-- A quoted text of any kind. -/
def readText : Reader (List Char)
  | '"' :: '"' :: '"' :: cs => readLongBasic (dropNewline cs)
  | '"' :: cs => readBasic cs
  | '\'' :: '\'' :: '\'' :: cs => readLongLiteral (dropNewline cs)
  | '\'' :: cs => readLiteral cs
  | _ => none

end BookCatalog.Toml
