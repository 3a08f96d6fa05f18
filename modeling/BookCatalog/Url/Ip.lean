import BookCatalog.Text.Decimal
import BookCatalog.Text.Pieces
import BookCatalog.Text.Runs
import BookCatalog.Url.Error

/-!
# Numeric hosts

Addresses of four bytes, written in up to four numbers, each decimal, octal after `0` or hexadecimal
after `0x`; and addresses of eight pieces of sixteen bits, written in hexadecimal between colons.
-/

namespace BookCatalog.Url

/-! ## Four bytes -/

/-- The value of a run of digits in a base. -/
def radixValue (base : Nat) (cs : List Char) : Nat :=
  cs.foldl (fun n c => n * base + (Text.hexValue? c).getD 0) 0

/-- Whether every character is a digit of a base up to 16. -/
def areDigits (base : Nat) (cs : List Char) : Bool :=
  cs.all fun c => match Text.hexValue? c with
    | some n => n < base
    | none => false

/-- The number that a part of an address of four bytes stands for. -/
def partNumber? (cs : List Char) : Option Nat :=
  let numeral := fun (base : Nat) (ds : List Char) =>
    if areDigits base ds then some (radixValue base ds) else none
  match cs with
  | [] => none
  | '0' :: 'x' :: ds => numeral 16 ds
  | '0' :: 'X' :: ds => numeral 16 ds
  | '0' :: d :: ds => numeral 8 (d :: ds)
  | ds => numeral 10 ds

/-- The parts of a host between its dots, without an empty one at the end. -/
def hostParts (host : List Char) : List (List Char) :=
  let parts := Text.cut '.' host
  if parts.getLast? = some [] then parts.dropLast else parts

/-- Whether the last part of a host is a number, so that the host has to be an address. -/
def endsInNumber (host : List Char) : Bool :=
  match (hostParts host).getLast? with
  | none => false
  | some part => (part ≠ [] && part.all Char.isDigit) || (partNumber? part).isSome

/-- The address that a host whose last part is a number stands for: each number but the last is one
byte, and the last fills the bytes that are left. -/
def ipv4? (host : List Char) : Option Nat := do
  let parts := hostParts host
  if 4 < parts.length then none
  else
    let numbers ← parts.mapM partNumber?
    let last ← numbers.getLast?
    let front := numbers.dropLast
    if front.any (255 < ·) || Nat.pow 256 (4 - front.length) ≤ last then none
    else
      some ((front.zip [3, 2, 1]).foldl (fun sum (n, place) => sum + n * Nat.pow 256 place) last)

/-- An address of four bytes as four decimal numbers. -/
def writeIpv4 (address : Nat) : List Char :=
  Text.joined ['.']
    ([3, 2, 1, 0].map fun place => Decimal.digits (address / Nat.pow 256 place % 256))

/-! ## Eight pieces -/

def hexPiece? (cs : List Char) : Option Nat :=
  if cs ≠ [] && cs.length ≤ 4 && areDigits 16 cs then some (radixValue 16 cs) else none

def plainByte? (cs : List Char) : Option Nat :=
  (Decimal.digits? cs).filter (· ≤ 255)

/-- Four bytes in decimal as two pieces. -/
def bytePieces? (cs : List Char) : Option (List Nat) :=
  match (Text.cut '.' cs).mapM plainByte? with
  | some [a, b, c, d] => some [a * 256 + b, c * 256 + d]
  | _ => none

/-- The pieces between single colons; the last of them may be four bytes where that is allowed. -/
def pieces? (bytesAllowed : Bool) (cs : List Char) : Option (List Nat) :=
  if cs = [] then some []
  else
    let groups := Text.cut ':' cs
    let last := groups.getLast?.getD []
    do
      let front ← groups.dropLast.mapM hexPiece?
      let back ← if bytesAllowed && '.' ∈ last then bytePieces? last else (hexPiece? last).map ([·])
      return front ++ back

/-- The text before the first double colon and the text after it. -/
def cutDoubleColon : List Char → Option (List Char × List Char)
  | ':' :: ':' :: cs => some ([], cs)
  | c :: cs => (cutDoubleColon cs).map fun (before, after) => (c :: before, after)
  | [] => none

/-- The eight pieces that a text stands for; a double colon stands for one zero or more. -/
def ipv6? (cs : List Char) : Option (List Nat) :=
  match cutDoubleColon cs with
  | none => (pieces? true cs).filter (·.length = 8)
  | some (before, after) => do
    let front ← pieces? false before
    let back ← pieces? true after
    if front.length + back.length ≤ 7 then
      some (front ++ List.replicate (8 - front.length - back.length) 0 ++ back)
    else none

/-- The lengths of the runs of zeros that start at each place. -/
def zeroRuns : List Nat → List Nat
  | [] => []
  | p :: ps =>
    let rest := zeroRuns ps
    (if p = 0 then rest.head?.getD 0 + 1 else 0) :: rest

/-- The first of the longest runs of two zeros or more: its start and its length. -/
def longestZeros (pieces : List Nat) : Option (Nat × Nat) :=
  let runs := zeroRuns pieces
  let longest := runs.foldl max 0
  if longest < 2 then none else some (runs.idxOf longest, longest)

def writePieces (pieces : List Nat) : List Char := Text.joined [':'] (pieces.map (Nat.toDigits 16))

/-- An address of eight pieces, a double colon standing for the longest run of zeros. -/
def writeIpv6 (pieces : List Nat) : List Char :=
  match longestZeros pieces with
  | none => writePieces pieces
  | some (start, length) =>
    writePieces (pieces.take start) ++ [':', ':'] ++ writePieces (pieces.drop (start + length))

end BookCatalog.Url
