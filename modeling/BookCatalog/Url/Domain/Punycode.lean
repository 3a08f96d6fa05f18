/-!
# Punycode

The form in which a label of a host name is written when it holds characters outside ASCII: its
ASCII characters, then the others in rising order, each as the distance from the one before, in
numerals of base 36 whose last digit is below a threshold (RFC 3492).
-/

namespace BookCatalog.Url.Domain.Punycode

/-- The character of a digit: letters for 0 to 25, then the decimal digits. -/
def digitChar (d : Nat) : Char :=
  if d < 26 then Char.ofNat ('a'.toNat + d) else Char.ofNat ('0'.toNat + (d - 26))

def digitValue? (c : Char) : Option Nat :=
  if 'a' ≤ c && c ≤ 'z' then some (c.toNat - 'a'.toNat)
  else if 'A' ≤ c && c ≤ 'Z' then some (c.toNat - 'A'.toNat)
  else if c.isDigit then some (c.toNat - '0'.toNat + 26)
  else none

/-- The threshold of a digit: at least 1, at most 26. -/
def threshold (place bias : Nat) : Nat :=
  if place ≤ bias then 1 else if bias + 26 ≤ place then 26 else place - bias

theorem threshold_pos (place bias : Nat) : 1 ≤ threshold place bias := by
  unfold threshold
  split
  · omega
  · split <;> omega

/-- A distance divided until it is small, with the places that this skips. -/
def shrink (distance skipped : Nat) : Nat × Nat :=
  if 455 < distance then shrink (distance / 35) (skipped + 36) else (distance, skipped)
termination_by distance

/-- The bias after a distance was written for the last of `count` characters. -/
def adapt (distance count : Nat) (first : Bool) : Nat :=
  let start := if first then distance / 700 else distance / 2
  let (small, skipped) := shrink (start + start / count) 0
  skipped + 36 * small / (small + 38)

/-! ## Writing -/

/-- A distance as digits, from a place on. -/
def writeDistance (bias place distance : Nat) : List Char :=
  let t := threshold place bias
  if distance < t then [digitChar distance]
  else
    digitChar (t + (distance - t) % (36 - t)) ::
      writeDistance bias (place + 36) ((distance - t) / (36 - t))
termination_by distance
decreasing_by
  have h1 := threshold_pos place bias
  have h2 := Nat.div_le_self (distance - threshold place bias) (36 - threshold place bias)
  omega

structure Progress where
  written : List Char
  distance : Nat
  bias : Nat
  count : Nat

/-- Takes one character of the label while the characters numbered `n` are written. -/
def Progress.take (basic n : Nat) (p : Progress) (c : Char) : Progress :=
  if c.toNat < n then { p with distance := p.distance + 1 }
  else if c.toNat = n then
    { written := p.written ++ writeDistance p.bias 36 p.distance
      distance := 0
      bias := adapt p.distance (p.count + 1) (p.count = basic)
      count := p.count + 1 }
  else p

/-- Writes the characters with the given numbers, which rise; `reached` is below the first. -/
def writeNumbers (label : List Char) (basic : Nat) : List Nat → Nat → Progress → Progress
  | [], _, p => p
  | n :: ns, reached, p =>
    let start := { p with distance := p.distance + (n - reached) * (p.count + 1) }
    let after := label.foldl (Progress.take basic n) start
    writeNumbers label basic ns (n + 1) { after with distance := after.distance + 1 }

/-- Puts a number into a rising list without repetitions. -/
def insertNumber (n : Nat) : List Nat → List Nat
  | [] => [n]
  | m :: ms => if n < m then n :: m :: ms else if n = m then m :: ms else m :: insertNumber n ms

def encode (label : List Char) : List Char :=
  let basic := label.filter (·.toNat < 0x80)
  let numbers := (label.filter (0x80 ≤ ·.toNat)).foldr (fun c ns => insertNumber c.toNat ns) []
  let p := writeNumbers label basic.length numbers 0x80 ⟨[], 0, 72, basic.length⟩
  basic ++ (if basic = [] then [] else ['-']) ++ p.written

/-! ## Reading -/

/-- Reads a distance, added to `sum`; `weight` is that of the next digit. -/
def readDistance (bias : Nat) : List Char → (place weight sum : Nat) → Option (Nat × List Char)
  | [], _, _, _ => none
  | c :: cs, place, weight, sum => do
    let d ← digitValue? c
    let t := threshold place bias
    if d < t then some (sum + d * weight, cs)
    else readDistance bias cs (place + 36) (weight * (36 - t)) (sum + d * weight)

theorem length_readDistance {bias : Nat} {cs : List Char} {place weight sum : Nat}
    {r : Nat × List Char} (h : readDistance bias cs place weight sum = some r) :
    r.2.length < cs.length := by
  induction cs generalizing place weight sum with
  | nil => simp [readDistance] at h
  | cons c cs ih =>
    rw [readDistance] at h
    cases hd : digitValue? c with
    | none => simp [hd] at h
    | some d =>
      simp only [hd, Option.bind_eq_bind, Option.bind_some] at h
      split at h
      · cases h; simp
      · have := ih h
        simp only [List.length_cons]
        omega

/-- Puts in the characters that the rest of a form describes. -/
def readNumbers (bias number place : Nat) (label : List Char) (rest : List Char) :
    Option (List Char) :=
  if rest = [] then some label
  else
    match _h : readDistance bias rest 36 1 place with
    | none => none
    | some (sum, after) =>
      let count := label.length + 1
      let n := number + sum / count
      let spot := sum % count
      if n.isValidChar then
        readNumbers (adapt (sum - place) count (place = 0)) n (spot + 1)
          (label.take spot ++ Char.ofNat n :: label.drop spot) after
      else none
termination_by rest.length
decreasing_by exact length_readDistance _h

/-- The label of a form.  A hyphen ends the characters of ASCII only if there are any. -/
def decode (form : List Char) : Option (List Char) :=
  let tail := (form.reverse.takeWhile (· ≠ '-')).reverse
  let basic := (form.reverse.drop (tail.length + 1)).reverse
  if form.any (0x80 ≤ ·.toNat) then none
  else readNumbers 72 0x80 0 basic (if basic = [] then form else tail)

end BookCatalog.Url.Domain.Punycode
