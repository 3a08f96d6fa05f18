import BookCatalog.Text.Quoted
import BookCatalog.Text.Real
import BookCatalog.Text.Utf8

/-!
# What can be wrong with a JSON text

A fault is a cause and a place.  The place is kept as the number of bytes not yet read, from which
line and column follow once the whole text is at hand.  A fault that a reader of values finds, rather
than the reader of the text itself, floats: its place is where the text stands when the enclosing
list or object is left.
-/

namespace BookCatalog.Json

/-- What was found where a value of another kind was expected. -/
inductive Found where
  | null
  | bool (b : Bool)
  | integer (n : Int)
  | real (x : Float)
  | text (s : String)
  | list
  | object

inductive Cause where
  | endInList
  | endInObject
  | endInText
  | endInValue
  | expectedColon
  | expectedCommaOrBracket
  | expectedCommaOrBrace
  | expectedWord
  | expectedValue
  | badEscape
  | badNumber
  | numberTooLarge
  | controlCharacter
  | keyNotText
  | loneSurrogate
  | endOfEscape
  | trailingComma
  | trailingCharacters
  | tooDeep
  | wrongKind (found : Found) (expected : String)
  | wrongLength (length : Nat) (expected : String)
  | missingField (name : String)
  | repeatedField (name : String)
  | noVariant (type : String)

/-- Reals are positional from 10^-5 up to 10^16. -/
def realLayout : Real.Layout := ⟨-5, 16⟩

def Found.message : Found → String
  | .null => "null"
  | .bool b => "boolean `" ++ (if b then "true" else "false") ++ "`"
  | .integer n => "integer `" ++ Decimal.integer n ++ "`"
  | .real x => "floating point `" ++ Real.write realLayout x ++ "`"
  | .text s => "string " ++ Text.quoted s
  | .list => "sequence"
  | .object => "map"

def Cause.message : Cause → String
  | .endInList => "EOF while parsing a list"
  | .endInObject => "EOF while parsing an object"
  | .endInText => "EOF while parsing a string"
  | .endInValue => "EOF while parsing a value"
  | .expectedColon => "expected `:`"
  | .expectedCommaOrBracket => "expected `,` or `]`"
  | .expectedCommaOrBrace => "expected `,` or `\x7d`"
  | .expectedWord => "expected ident"
  | .expectedValue => "expected value"
  | .badEscape => "invalid escape"
  | .badNumber => "invalid number"
  | .numberTooLarge => "number out of range"
  | .controlCharacter => "control character (\\u0000-\\u001F) found while parsing a string"
  | .keyNotText => "key must be a string"
  | .loneSurrogate => "lone leading surrogate in hex escape"
  | .endOfEscape => "unexpected end of hex escape"
  | .trailingComma => "trailing comma"
  | .trailingCharacters => "trailing characters"
  | .tooDeep => "recursion limit exceeded"
  | .wrongKind found expected => "invalid type: " ++ found.message ++ ", expected " ++ expected
  | .wrongLength n expected => "invalid length " ++ Decimal.natural n ++ ", expected " ++ expected
  | .missingField name => "missing field `" ++ name ++ "`"
  | .repeatedField name => "duplicate field `" ++ name ++ "`"
  | .noVariant type => "data did not match any variant of untagged enum " ++ type

/-- A cause with its place: a number of bytes left, or the text left where a value was refused. -/
inductive Failure where
  | placed (cause : Cause) (left : Nat)
  | floating (cause : Cause) (rest : List Char)

/-- A failure in front of the text that is left. -/
def Failure.here (cause : Cause) (rest : List Char) : Failure := .placed cause (Utf8.size rest)

/-- A failure one byte into the text that is left. -/
def Failure.next (cause : Cause) (rest : List Char) : Failure := .placed cause (Utf8.size rest - 1)

/-- A place in a text: a line, and the number of its bytes that were read. -/
structure Position where
  line : Nat
  column : Nat

/-- The place after a number of bytes of a text, counted from a given place. -/
def Position.after (p : Position) : Nat → List Char → Position
  | _, [] => p
  | n, c :: cs =>
    if n < c.utf8Size then { p with column := p.column + n }
    else Position.after (if c = '\n' then ⟨p.line + 1, 0⟩ else ⟨p.line, p.column + c.utf8Size⟩)
      (n - c.utf8Size) cs

/-- What is wrong with a text as a whole: the place is missing when the text itself is one value of
the wrong kind. -/
structure Error where
  cause : Cause
  position : Option Position

/-- The error that a failure is in a given text. -/
def Failure.inText (text : List Char) : Failure → Error
  | .placed cause left => ⟨cause, some (Position.after ⟨1, 0⟩ (Utf8.size text - left) text)⟩
  | .floating cause _ => ⟨cause, none⟩

def Error.message (e : Error) : String :=
  match e.position with
  | none => e.cause.message
  | some p => e.cause.message ++ " at line " ++ Decimal.natural p.line ++ " column " ++
      Decimal.natural p.column

end BookCatalog.Json
