import BookCatalog.Text.Decimal

/-!
# Doubles in the fewest digits

A double is written with the fewest digits that read back as the same double; of two such numerals
the nearer is taken, and at a tie the one with the even last digit.  All arithmetic is exact, on
natural numbers.
-/

namespace BookCatalog.Real

/-- A positive double: `mantissa * 2 ^ (shift - 1074)`, with `shift = 0` for the subnormal ones. -/
structure Magnitude where
  mantissa : Nat
  shift : Nat

/-- The mantissa from which on a double is not subnormal. -/
def normalFrom : Nat := Nat.pow 2 52

def magnitude (x : Float) : Magnitude :=
  let bits := x.toBits.toNat
  let fraction := bits % normalFrom
  let exponent := bits / normalFrom % 2048
  if exponent = 0 then ⟨fraction, 0⟩ else ⟨fraction + normalFrom, exponent - 1⟩

/-- The reals that round to a double, on a grid four times as fine as the last bit: `low` and
`high` around `value`, all three over `scale`.  The ends belong to it iff the mantissa is even. -/
structure Interval where
  low : Nat
  value : Nat
  high : Nat
  scale : Nat
  closed : Bool

/-- The reals that round to a double of the given magnitude. -/
def Magnitude.interval (m : Magnitude) : Interval :=
  let below := if m.mantissa = normalFrom && 0 < m.shift then 1 else 2
  let up := Nat.pow 2 (m.shift - 1076)
  { low := (4 * m.mantissa - below) * up
    value := 4 * m.mantissa * up
    high := (4 * m.mantissa + 2) * up
    scale := Nat.pow 2 (1076 - m.shift)
    closed := m.mantissa % 2 = 0 }

/-- The reals of an interval multiplied by `a / b`. -/
def Interval.times (i : Interval) (a b : Nat) : Interval :=
  { i with low := i.low * a, value := i.value * a, high := i.high * a, scale := i.scale * b }

/-- The natural number `d` lies in an interval. -/
def Interval.holds (i : Interval) (d : Nat) : Bool :=
  if i.closed then i.low ≤ d * i.scale && d * i.scale ≤ i.high
  else i.low < d * i.scale && d * i.scale < i.high

/-- The natural number in an interval that is nearest to its value, among the two neighbours. -/
def Interval.nearest? (i : Interval) : Option Nat :=
  let d := i.value / i.scale
  let excess := i.value % i.scale
  match i.holds d, i.holds (d + 1) with
  | true, true =>
    if 2 * excess < i.scale || (2 * excess = i.scale && d % 2 = 0) then some d else some (d + 1)
  | true, false => some d
  | false, true => some (d + 1)
  | false, false => none

/-- The power of ten at or below a positive ratio `n / d` less than ten to the 400th. -/
def leading (n d : Nat) : Int :=
  if d ≤ n then ((Decimal.digits (n / d)).length : Int) - 1
  else -((((List.range 400).find? fun j => d ≤ n * Nat.pow 10 (j + 1)).getD 0 : Nat) + 1 : Int)

/-- A numeral of digits and the power of ten of the first of them. -/
structure Numeral where
  digits : List Char
  exponent : Int

/-- The numeral of the fewest digits that rounds to a double of the given magnitude. -/
def Magnitude.numeral (m : Magnitude) : Numeral :=
  let i := m.interval
  let p := leading i.value i.scale
  let attempt := fun k : Nat =>
    let shift := (k : Int) - p
    let power := Nat.pow 10 shift.natAbs
    let scaled := if 0 ≤ shift then i.times power 1 else i.times 1 power
    scaled.nearest?.map fun d =>
      let ds := Decimal.digits d
      { digits := (ds.reverse.dropWhile (· = '0')).reverse
        exponent := p + ((ds.length : Int) - (k + 1)) : Numeral }
  ((List.range 17).findSome? attempt).getD ⟨['0'], 0⟩

/-- How a numeral is laid out: which exponents are written positionally. -/
structure Layout where
  positionalFrom : Int
  positionalBelow : Int

def Numeral.write (layout : Layout) (n : Numeral) : List Char :=
  if layout.positionalFrom ≤ n.exponent && n.exponent < layout.positionalBelow then
    if n.exponent < 0 then
      ['0', '.'] ++ List.replicate (-n.exponent - 1).toNat '0' ++ n.digits
    else
      let whole := n.exponent.toNat + 1
      let front := n.digits.take whole ++ List.replicate (whole - n.digits.length) '0'
      let back := n.digits.drop whole
      front ++ ['.'] ++ if back = [] then ['0'] else back
  else
    let front := n.digits.take 1
    let back := n.digits.drop 1
    let sign := if n.exponent < 0 then '-' else '+'
    front ++ (if back = [] then [] else '.' :: back) ++
      ['e', sign] ++ Decimal.digits n.exponent.natAbs

def write (layout : Layout) (x : Float) : String :=
  let sign := if x.toBits.toNat / Decimal.wordEnd = 1 then ['-'] else []
  let m := magnitude x
  String.ofList (sign ++ if m.mantissa = 0 then ['0', '.', '0'] else m.numeral.write layout)

end BookCatalog.Real
