import BookCatalog.Json.Fault
import BookCatalog.Text.Decimal

/-!
# The smallest parts of a JSON text

Space, words, numbers and quoted texts.  A reader takes the text that is left and gives back what it
read and the text that is left then, or a failure.
-/

namespace BookCatalog.Json

/-- What was read, with the text that is left, or a failure. -/
abbrev Result (α : Type) := Except Failure (α × List Char)

/-- A reader of one thing at the start of a text. -/
abbrev Reader (α : Type) := List Char → Result α

/-- A space, a tab or a line end. -/
def isSpace (c : Char) : Bool := c = ' ' || c = '\n' || c = '\t' || c = '\r'

def skipSpace (input : List Char) : List Char := input.dropWhile isSpace

def skipWord : List Char → List Char → Except Failure (List Char)
  | [], input => .ok input
  | _ :: _, [] => .error (.here .endInValue [])
  | w :: ws, c :: cs => if c = w then skipWord ws cs else .error (.next .expectedWord (c :: cs))

/-! ## Numbers -/

/-- A number: a whole one in the range of a 64-bit word with or without sign, or a double. -/
inductive Numeral where
  | integer (n : Int)
  | real (x : Float)

def digitValue (c : Char) : Nat := c.toNat - '0'.toNat

/-- Whether a number with one more digit still fits a word of 64 bits. -/
def fits (n : Nat) (c : Char) : Bool := n * 10 + digitValue c < 2 * Decimal.wordEnd

/-- The double nearest to a power of ten. -/
def powerOfTen (e : Nat) : Float := Float.ofScientific 1 false e

/-- A double divided by `10 ^ e`, in steps of at most `10 ^ 308`. -/
def divided (x : Float) (e : Nat) : Float :=
  if e ≤ 308 then x / powerOfTen e
  else if x == 0.0 then x
  else divided (x / powerOfTen 308) (e - 308)
termination_by e

/-- `n * 10 ^ e` as a double, unless that is too large. -/
def scaled? (n : Nat) (e : Int) : Option Float :=
  let x := n.toUInt64.toFloat
  if e < 0 then some (divided x e.natAbs)
  else if e.toNat ≤ 308 then
    let y := x * powerOfTen e.toNat
    if y.isInf then none else some y
  else if x == 0.0 then some x
  else none

def signed (positive : Bool) (x : Float) : Float := if positive then x else -x

/-- The digits of an exponent, added to those read before; nothing once they exceed a 32-bit word. -/
def exponentDigits : Nat → List Char → Option Nat × List Char
  | e, [] => (some e, [])
  | e, c :: cs =>
    if c.isDigit then
      let n := e * 10 + digitValue c
      if 2147483648 ≤ n then (none, cs) else exponentDigits n cs
    else (some e, c :: cs)

/-- The number `significand * 10 ^ shift`. -/
def readScaled (positive : Bool) (significand : Nat) (shift : Int) : Reader Numeral := fun rest =>
  match scaled? significand shift with
  | some x => .ok (.real (signed positive x), rest)
  | none => .error (.here .numberTooLarge rest)

/-- The exponent of a number, after its letter. -/
def readExponent (positive : Bool) (significand : Nat) (shift : Int) : Reader Numeral := fun input =>
  let (up, body) := match input with
    | '+' :: cs => (true, cs)
    | '-' :: cs => (false, cs)
    | cs => (true, cs)
  match body with
  | [] => .error (.here .endInValue [])
  | c :: cs =>
    if c.isDigit then
      match exponentDigits (digitValue c) cs with
      | (some e, rest) => readScaled positive significand (if up then shift + e else shift - e) rest
      | (none, rest) =>
        if significand ≠ 0 && up then .error (.here .numberTooLarge rest)
        else .ok (.real (signed positive 0.0), rest.dropWhile Char.isDigit)
    else .error (.next .badNumber (c :: cs))

/-- The digits after the point: the significand with as many of them as fit, how many those are,
and the text after all of them. -/
def fractionDigits : Nat → Nat → List Char → Nat × Nat × List Char
  | n, k, [] => (n, k, [])
  | n, k, c :: cs =>
    if c.isDigit then
      if fits n c then fractionDigits (n * 10 + digitValue c) (k + 1) cs
      else (n, k, cs.dropWhile Char.isDigit)
    else (n, k, c :: cs)

/-- An exponent where its letter stands, else nothing more. -/
def readTail (positive : Bool) (significand : Nat) (shift : Int) : Reader Numeral := fun input =>
  match input with
  | 'e' :: cs => readExponent positive significand shift cs
  | 'E' :: cs => readExponent positive significand shift cs
  | _ => readScaled positive significand shift input

/-- The fraction of a number, after its point. -/
def readFraction (positive : Bool) (significand : Nat) (shift : Int) : Reader Numeral := fun input =>
  match input with
  | [] => .error (.next .endInValue [])
  | c :: cs =>
    if c.isDigit then
      let (n, k, rest) := fractionDigits significand 0 (c :: cs)
      readTail positive n (shift - k) rest
    else .error (.next .badNumber (c :: cs))

/-- The digits before the point: the number that the first of them make below `2 ^ 64`, how many
are left out, and the text after all of them. -/
def wholeDigits : Nat → List Char → Nat × Nat × List Char
  | n, [] => (n, 0, [])
  | n, c :: cs =>
    if c.isDigit then
      if fits n c then wholeDigits (n * 10 + digitValue c) cs
      else (n, ((c :: cs).takeWhile Char.isDigit).length, cs.dropWhile Char.isDigit)
    else (n, 0, c :: cs)

/-- A whole number that was read to its end.  A negative zero and a number below `-2 ^ 63` are
doubles. -/
def Numeral.ofWhole (positive : Bool) (n : Nat) : Numeral :=
  if positive then .integer n
  else if n = 0 || Decimal.wordEnd < n then .real (-n.toUInt64.toFloat)
  else .integer (-(n : Int))

/-- A number after its whole part. -/
def readAfterWhole (positive : Bool) (n dropped : Nat) : Reader Numeral := fun input =>
  match input with
  | '.' :: cs => readFraction positive n dropped cs
  | 'e' :: cs => readExponent positive n dropped cs
  | 'E' :: cs => readExponent positive n dropped cs
  | _ =>
    if dropped = 0 then .ok (Numeral.ofWhole positive n, input)
    else readScaled positive n dropped input

/-- A number after its sign. -/
def readNumber (positive : Bool) : Reader Numeral := fun input =>
  match input with
  | [] => .error (.here .endInValue [])
  | c :: cs =>
    if c = '0' then
      match cs with
      | d :: _ => if d.isDigit then .error (.next .badNumber cs) else readAfterWhole positive 0 0 cs
      | [] => readAfterWhole positive 0 0 []
    else if c.isDigit then
      let (n, dropped, rest) := wholeDigits (digitValue c) cs
      readAfterWhole positive n dropped rest
    else .error (.next .badNumber (c :: cs))

/-! ## Quoted texts -/

/-- The number of the four hexadecimal digits in front. -/
def hexQuad (cs : List Char) : Except Failure Nat :=
  if Utf8.size cs < 4 then .error (.here .endInText [])
  else
    match (cs.take 4).map Text.hexValue? with
    | [some a, some b, some c, some d] => .ok (((a * 16 + b) * 16 + c) * 16 + d)
    | _ => .error (.placed .badEscape (Utf8.size cs - 4))

/-- The character that two surrogates stand for. -/
def paired (high low : Nat) : Char := Char.ofNat ((high - 0xD800) * 1024 + (low - 0xDC00) + 0x10000)

/-- The character of an escape by number, and how many characters that takes after the letter.  A
leading surrogate takes the trailing one with it. -/
def readUnicode (cs : List Char) : Except Failure (Char × Nat) := do
  let n ← hexQuad cs
  let rest := cs.drop 4
  if 0xDC00 ≤ n && n ≤ 0xDFFF then .error (.here .loneSurrogate rest)
  else if n < 0xD800 || 0xDBFF < n then .ok (Char.ofNat n, 4)
  else
    match rest with
    | [] => .error (.here .endInText [])
    | '\\' :: [] => .error (.here .endInText [])
    | '\\' :: 'u' :: after => do
      let m ← hexQuad after
      if m < 0xDC00 || 0xDFFF < m then .error (.here .loneSurrogate (after.drop 4))
      else .ok (paired n m, 10)
    | '\\' :: other => .error (.next .endOfEscape other)
    | other => .error (.next .endOfEscape other)

/-- The character of a short escape. -/
def shortEscape? (c : Char) : Option Char :=
  match c with
  | '"' => some '"'
  | '\\' => some '\\'
  | '/' => some '/'
  | 'b' => some '\x08'
  | 'f' => some '\x0c'
  | 'n' => some '\n'
  | 'r' => some '\r'
  | 't' => some '\t'
  | _ => none

/-- The character of an escape, and how many characters that takes after the backslash. -/
def readEscape : List Char → Except Failure (Char × Nat)
  | [] => .error (.here .endInText [])
  | 'u' :: cs => do
    let (c, n) ← readUnicode cs
    .ok (c, n + 1)
  | c :: cs =>
    match shortEscape? c with
    | some d => .ok (d, 1)
    | none => .error (.next .badEscape (c :: cs))

/-- The characters of a quoted text, after its opening quote. -/
def readChars : Reader (List Char)
  | [] => .error (.here .endInText [])
  | c :: cs =>
    if c = '"' then .ok ([], cs)
    else if c = '\\' then
      match readEscape cs with
      | .error e => .error e
      | .ok (d, n) =>
        match readChars (cs.drop n) with
        | .error e => .error e
        | .ok (ds, rest) => .ok (d :: ds, rest)
    else if c.toNat < 0x20 then .error (.here .controlCharacter cs)
    else
      match readChars cs with
      | .error e => .error e
      | .ok (ds, rest) => .ok (c :: ds, rest)
termination_by input => input.length
decreasing_by all_goals simp; try omega

def readQuoted : Reader String := fun input =>
  (readChars input).map fun (cs, rest) => (String.ofList cs, rest)

end BookCatalog.Json
