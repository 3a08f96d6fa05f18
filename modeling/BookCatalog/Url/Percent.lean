import BookCatalog.Text.Runs
import BookCatalog.Text.Utf8

/-!
# Percent-encoding

A character that may not stand for itself in some part of an address is written as its bytes, each
as a percent sign and two hexadecimal digits.  The parts differ in the characters they keep; outside
ASCII none keeps any.
-/

namespace BookCatalog.Percent

/-- A digit of an upper-case hexadecimal number. -/
def hexDigit (n : Nat) : Char := (Nat.digitChar n).toUpper

def byte (b : UInt8) : List Char := ['%', hexDigit (b.toNat / 16), hexDigit (b.toNat % 16)]

def escape (c : Char) : List Char := (String.utf8EncodeChar c).flatMap byte

/-- A text in which only the characters to be kept stand for themselves. -/
def encode (keep : Char → Bool) (cs : List Char) : List Char :=
  cs.flatMap fun c => if keep c then [c] else escape c

/-- The bytes that a text stands for; a percent sign without two digits after it is itself. -/
def decode : List Char → List UInt8
  | '%' :: a :: b :: cs =>
    match Text.hexValue? a, Text.hexValue? b with
    | some x, some y => UInt8.ofNat (x * 16 + y) :: decode cs
    | _, _ => String.utf8EncodeChar '%' ++ decode (a :: b :: cs)
  | c :: cs => String.utf8EncodeChar c ++ decode cs
  | [] => []

/-! ## The characters that a part keeps -/

def isVisible (c : Char) : Bool := 0x20 < c.toNat && c.toNat < 0x7F

def keepInFragment (c : Char) : Bool :=
  isVisible c && c ≠ '"' && c ≠ '<' && c ≠ '>' && c.toNat ≠ 0x60

def keepInQuery (c : Char) : Bool :=
  isVisible c && c ≠ '"' && c ≠ '#' && c ≠ '<' && c ≠ '>' && c ≠ '\''

def keepInPath (c : Char) : Bool :=
  keepInFragment c && c ≠ '#' && c ≠ '?' && c ≠ '\x7b' && c ≠ '\x7d'

/-- Kept in a text that is to be one segment of a path. -/
def keepInSegment (c : Char) : Bool := keepInPath c && c ≠ '/' && c ≠ '%' && c ≠ '\\'

def keepInUser (c : Char) : Bool :=
  keepInPath c && c ≠ '/' && c ≠ ':' && c ≠ ';' && c ≠ '=' && c ≠ '@' && c ≠ '[' && c ≠ '\\' &&
    c ≠ ']' && c ≠ '^' && c ≠ '|'

end BookCatalog.Percent
