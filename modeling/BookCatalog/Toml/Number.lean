import BookCatalog.Toml.Lexeme
import BookCatalog.Text.Decimal

/-!
# Numbers in a TOML text

Integers of 64 bits in four bases and real numbers.  Digits may be grouped with single underscores
between them.  The value of a real number is not kept: it is enough to know that it has one.
-/

namespace BookCatalog.Toml

/-- The digits in front, an underscore allowed between two of them, and the text that is left.
Nothing if no digit stands in front or an underscore has no digit after it. -/
def digitRun (isDigit : Char → Bool) : Reader (List Char)
  | [] => none
  | c :: cs =>
    if !isDigit c then none
    else match cs with
      | '_' :: rest => (digitRun isDigit rest).map fun (ds, after) => (c :: ds, after)
      | next :: rest =>
        if isDigit next then
          (digitRun isDigit (next :: rest)).map fun (ds, after) => (c :: ds, after)
        else some ([c], next :: rest)
      | [] => some ([c], [])

/-- A sign in front, if there is one, and the text that is left. -/
def sign : List Char → Option Char × List Char
  | '+' :: cs => (some '+', cs)
  | '-' :: cs => (some '-', cs)
  | cs => (none, cs)

def isDecimal (c : Char) : Bool := c.isDigit

/-- The digits of a whole number in decimal notation: a nought stands alone. -/
def decimalRun : Reader (List Char)
  | '0' :: cs => some (['0'], cs)
  | cs => digitRun isDecimal cs

/-! ## Integers -/

def signed (s : Option Char) (n : Nat) : Int := if s = some '-' then -(n : Int) else n

/-- An integer without a sign in a base of two, eight or sixteen, after its mark. -/
def readBased (base : Nat) : Reader Int := fun cs =>
  (digitRun (fun c => (Text.hexValue? c).any (· < base)) cs).bind fun (ds, rest) =>
    let n : Int := ds.foldl (fun n c => n * base + (Text.hexValue? c).getD 0) 0
    if Decimal.isWord n then some (n, rest) else none

/-- An integer in any notation. -/
def readInteger : Reader Int
  | '0' :: 'x' :: cs => readBased 16 cs
  | '0' :: 'o' :: cs => readBased 8 cs
  | '0' :: 'b' :: cs => readBased 2 cs
  | cs =>
    let (s, unsigned) := sign cs
    (decimalRun unsigned).bind fun (ds, rest) =>
      let n := signed s (Decimal.value ds)
      if Decimal.isWord n then some (n, rest) else none

/-! ## Real numbers -/

/-- A number with more digits than these in front of its point is too large whatever they are. -/
def reach : Nat := 400

/-- The bound halfway between the largest real number of 64 bits and the next power of two. -/
def realEnd : Nat := Nat.pow 2 1024 - Nat.pow 2 970

/-- Is the number written with these digits, times a power of ten, too large for a real number of 64
bits? -/
def tooLarge (ds : List Char) (exponent : Int) : Bool :=
  let n := Decimal.value ds
  let size := exponent + (Decimal.digits n).length
  if n = 0 || size < 300 then false
  else if reach < size then true
  else if 0 ≤ exponent then realEnd ≤ n * Nat.pow 10 exponent.toNat
  else realEnd * Nat.pow 10 exponent.natAbs ≤ n

/-- The part of a real number after its point, if it has one. -/
def readFraction : Reader (List Char)
  | '.' :: cs => digitRun isDecimal cs
  | cs => some ([], cs)

/-- The exponent of a real number, if it has one. -/
def readExponent : Reader Int
  | [] => some (0, [])
  | c :: cs =>
    if c = 'e' || c = 'E' then
      let (s, unsigned) := sign cs
      (digitRun isDecimal unsigned).map fun (ds, rest) => (signed s (Decimal.value ds), rest)
    else some (0, c :: cs)

/-- A real number in digits, which has a point or an exponent: a unit, for its value is not kept.  A
number above all real numbers of 64 bits is refused, one below all of them is not. -/
def readDigits : Reader Unit := fun cs => do
  let (s, unsigned) := sign cs
  let (whole, rest) ← decimalRun unsigned
  let (fraction, rest) ← readFraction rest
  let (exponent, after) ← readExponent rest
  if fraction = [] && after.length = rest.length then none
  else if s ≠ some '-' && tooLarge (whole ++ fraction) (exponent - fraction.length) then none
  else some ((), after)

/-- A real number: digits, the infinite, or what is no number. -/
def readReal : Reader Unit := fun cs =>
  match (sign cs).2 with
  | 'i' :: 'n' :: 'f' :: rest => some ((), rest)
  | 'n' :: 'a' :: 'n' :: rest => some ((), rest)
  | _ => readDigits cs

end BookCatalog.Toml
