import BookCatalog.Json.Token

/-!
# Skipping a value

A value that nobody asks for is read only as far as its grammar goes: lists and objects may be
nested to any depth, numbers may be of any size, and an escape by number may name half a pair of
surrogates.
-/

namespace BookCatalog.Json

/-- The text after the digits of a required exponent, after its letter. -/
def skipExponent (input : List Char) : Except Failure (List Char) :=
  let body := match input with
    | '+' :: cs => cs
    | '-' :: cs => cs
    | cs => cs
  match body with
  | [] => .error (.here .badNumber [])
  | c :: cs =>
    if c.isDigit then .ok (cs.dropWhile Char.isDigit) else .error (.next .badNumber (c :: cs))

/-- The text after an exponent, if there is one. -/
def skipTail (input : List Char) : Except Failure (List Char) :=
  match input with
  | 'e' :: cs => skipExponent cs
  | 'E' :: cs => skipExponent cs
  | _ => .ok input

/-- The text after the fraction and the exponent of a number. -/
def skipAfterWhole (input : List Char) : Except Failure (List Char) :=
  match input with
  | '.' :: cs =>
    if (cs.takeWhile Char.isDigit) = [] then .error (.next .badNumber cs)
    else skipTail (cs.dropWhile Char.isDigit)
  | _ => skipTail input

/-- The text after a number, after its sign. -/
def skipNumber : List Char → Except Failure (List Char)
  | [] => .error (.here .badNumber [])
  | c :: cs =>
    if c = '0' then
      match cs with
      | d :: _ => if d.isDigit then .error (.next .badNumber cs) else skipAfterWhole cs
      | [] => .ok []
    else if c.isDigit then skipAfterWhole (cs.dropWhile Char.isDigit)
    else .error (.next .badNumber (c :: cs))

/-- How many characters an escape takes after the backslash. -/
def skipEscape : List Char → Except Failure Nat
  | [] => .error (.here .endInText [])
  | 'u' :: cs => (hexQuad cs).map fun _ => 5
  | c :: cs =>
    match shortEscape? c with
    | some _ => .ok 1
    | none => .error (.next .badEscape (c :: cs))

/-- The text after a quoted text, after its opening quote. -/
def skipChars : List Char → Except Failure (List Char)
  | [] => .error (.here .endInText [])
  | c :: cs =>
    if c = '"' then .ok cs
    else if c = '\\' then
      match skipEscape cs with
      | .error e => .error e
      | .ok n => skipChars (cs.drop n)
    else if c.toNat < 0x20 then .error (.here .controlCharacter (c :: cs))
    else skipChars cs
termination_by input => input.length
decreasing_by all_goals simp; try omega

inductive Bracket where
  | square
  | curly
  deriving DecidableEq

def Bracket.closer : Bracket → Char
  | .square => ']'
  | .curly => '\x7d'

/-- The cause of an end of text inside a bracket. -/
def Bracket.atEnd : Bracket → Cause
  | .square => .endInList
  | .curly => .endInObject

/-- The cause of anything but a comma or the closer after a value inside a bracket. -/
def Bracket.unclosed : Bracket → Cause
  | .square => .expectedCommaOrBracket
  | .curly => .expectedCommaOrBrace

/-- Closes what is closed here, innermost first, up to a comma or the next value: the brackets still
open, none if the whole value has ended.  A comma or a closer must stand here if a value has just
ended. -/
def leave (valueEnded : Bool) : List Bracket → List Char → Except Failure (List Bracket × List Char)
  | [], input => .ok ([], input)
  | b :: bs, input =>
    match skipSpace input with
    | [] => .error (.next b.atEnd [])
    | c :: cs =>
      if valueEnded && c = ',' then .ok (b :: bs, cs)
      else if c = b.closer then leave true bs cs
      else if valueEnded then .error (.next b.unclosed (c :: cs))
      else .ok (b :: bs, c :: cs)

def skipKey (input : List Char) : Except Failure (List Char) :=
  match skipSpace input with
  | [] => .error (.next .endInObject [])
  | '"' :: cs => do
    let rest ← skipChars cs
    match skipSpace rest with
    | [] => .error (.next .endInObject [])
    | ':' :: after => .ok after
    | other => .error (.next .expectedColon other)
  | other => .error (.next .keyNotText other)

/-- Reads a scalar to its end, or an opening bracket: the brackets then open, and whether a value
has ended. -/
def enter (opened : List Bracket) (input : List Char) :
    Except Failure (List Bracket × Bool × List Char) :=
  match skipSpace input with
  | [] => .error (.next .endInValue [])
  | c :: cs =>
    if c = 'n' then (skipWord ['u', 'l', 'l'] cs).map (opened, true, ·)
    else if c = 't' then (skipWord ['r', 'u', 'e'] cs).map (opened, true, ·)
    else if c = 'f' then (skipWord ['a', 'l', 's', 'e'] cs).map (opened, true, ·)
    else if c = '-' then (skipNumber cs).map (opened, true, ·)
    else if c.isDigit then (skipNumber (c :: cs)).map (opened, true, ·)
    else if c = '"' then (skipChars cs).map (opened, true, ·)
    else if c = '[' then .ok (.square :: opened, false, cs)
    else if c = '\x7b' then .ok (.curly :: opened, false, cs)
    else .error (.next .expectedValue (c :: cs))

/-- The text after a value that stands inside the given open brackets, and after all of these.
Every round reads at least one character, so the test on lengths never fails. -/
def skipOpen (opened : List Bracket) (input : List Char) : Except Failure (List Char) :=
  match enter opened input with
  | .error e => .error e
  | .ok (opened, valueEnded, rest) =>
    match leave valueEnded opened rest with
    | .error e => .error e
    | .ok ([], rest) => .ok rest
    | .ok (b :: bs, rest) =>
      match if b = .curly then skipKey rest else .ok rest with
      | .error e => .error e
      | .ok rest =>
        if rest.length < input.length then skipOpen (b :: bs) rest
        else .error (.here .expectedValue rest)
termination_by input.length

def skipValue (input : List Char) : Except Failure (List Char) := skipOpen [] input

end BookCatalog.Json
