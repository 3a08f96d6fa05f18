import BookCatalog.Toml.Lexeme
import BookCatalog.Text.Decimal

/-!
# Writing TOML

A text is written in the plainest of four ways that can hold it: on one line in double or single
quotes, else in three quotes of either kind; only if none of these can hold it as it is are
characters escaped.

* `Quoting.choose` — the way to write a text;
* `quotedText` — a text in quotes.
-/

namespace BookCatalog.Toml

/-- The ways to write a text. -/
inductive Quoting where
  /-- One line in double quotes. -/
  | basic
  /-- One line in single quotes, nothing escaped. -/
  | literal
  /-- Three double quotes; line ends stand for themselves. -/
  | longBasic
  /-- Three single quotes, nothing escaped. -/
  | longLiteral
deriving DecidableEq, Repr

/-- The length of the longest run of a character, of which a run of length `run` stands in front. -/
def longestRun (c : Char) : Nat → List Char → Nat
  | run, [] => run
  | run, d :: ds => if d = c then longestRun c (run + 1) ds else max run (longestRun c 0 ds)

/-- A character that can only be written with an escape. -/
def needsCode (c : Char) : Bool := c ≠ '\n' && !isPlain c

def Quoting.choose (text : List Char) : Quoting :=
  let codes := text.any needsCode
  let backslash := text.contains '\\'
  let newline := text.contains '\n'
  let double := longestRun '"' 0 text
  let single := longestRun '\'' 0 text
  if !(codes || backslash || 0 < double || newline) then .basic
  else if !(codes || 0 < single || newline) then .literal
  else if !(codes || backslash || 2 < double) then .longBasic
  else if !(codes || 2 < single) then .longLiteral
  else if newline then .longBasic
  else .basic

def Quoting.quotes : Quoting → List Char
  | .basic => ['"']
  | .literal => ['\'']
  | .longBasic => ['"', '"', '"']
  | .longLiteral => ['\'', '\'', '\'']

def Quoting.isLong : Quoting → Bool
  | .longBasic | .longLiteral => true
  | .basic | .literal => false

/-- The digit of a number below sixteen, in capitals. -/
def hexDigit (n : Nat) : Char := if n < 10 then Char.ofNat (48 + n) else Char.ofNat (55 + n)

/-- A character other than a double quote, between double quotes. -/
def escapedChar (long : Bool) (c : Char) : List Char :=
  if c = '\x08' then ['\\', 'b']
  else if c = '\t' then ['\\', 't']
  else if c = '\n' then if long then ['\n'] else ['\\', 'n']
  else if c = '\x0c' then ['\\', 'f']
  else if c = '\r' then ['\\', 'r']
  else if c = '\\' then ['\\', '\\']
  else if isPlain c then [c]
  else ['\\', 'u', '0', '0', hexDigit (c.toNat / 16), hexDigit (c.toNat % 16)]

/-- A text between double quotes, where `run` double quotes stand in front of it.  On one line every
double quote is escaped, over several lines every third. -/
def escapedText (long : Bool) : Nat → List Char → List Char
  | _, [] => []
  | run, c :: cs =>
    if c = '"' then
      if long && run < 2 then '"' :: escapedText long (run + 1) cs
      else '\\' :: '"' :: escapedText long 0 cs
    else escapedChar long c ++ escapedText long 0 cs

/-- A text in quotes.  After three opening quotes comes a line end, which is no part of the text, if
the text has one. -/
def quotedText (s : String) : List Char :=
  let text := s.toList
  let quoting := Quoting.choose text
  let opening := if quoting.isLong && text.contains '\n' then ['\n'] else []
  let inner :=
    match quoting with
    | .basic => escapedText false 0 text
    | .longBasic => escapedText true 0 text
    | .literal | .longLiteral => text
  quoting.quotes ++ opening ++ inner ++ quoting.quotes

def keyLine (key : String) (value : List Char) : List Char :=
  key.toList ++ [' ', '=', ' '] ++ value ++ ['\n']

def headerLine (key : String) : List Char := '[' :: key.toList ++ [']', '\n']

end BookCatalog.Toml
