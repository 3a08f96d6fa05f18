/-!
# Sets of characters as runs

A set of characters is written as the numbers at which membership changes, in rising order and in
hexadecimal: before the first number nothing belongs to the set, from the first on everything does
until the second, and so on.
-/

namespace BookCatalog.Text

def hexValue? (c : Char) : Option Nat :=
  if '0' ≤ c && c ≤ '9' then some (c.toNat - '0'.toNat)
  else if 'A' ≤ c && c ≤ 'F' then some (c.toNat - 'A'.toNat + 10)
  else if 'a' ≤ c && c ≤ 'f' then some (c.toNat - 'a'.toNat + 10)
  else none

/-- The value of a run of hexadecimal digits; other characters count for nothing. -/
def hexValue (cs : List Char) : Nat := cs.foldl (fun n c => n * 16 + (hexValue? c).getD 0) 0

def words (data : List Char) : List (List Char) :=
  let (word, done) := data.foldr
    (fun c (word, done) => if c = ' ' then ([], word :: done) else (c :: word, done)) ([], [])
  (word :: done).filter (· ≠ [])

/-- A set of characters, held as the numbers at which membership changes. -/
structure Runs where
  /-- The numbers, rising. -/
  edges : Array Nat

/-- The set that lines of hexadecimal numbers describe. -/
def Runs.ofHex (lines : List String) : Runs :=
  ⟨(lines.flatMap fun line => (words line.toList).map hexValue).toArray⟩

/-- Membership: an odd count of edges has been passed. -/
def Runs.contains (runs : Runs) (c : Char) : Bool :=
  runs.edges.foldl (fun inside edge => if edge ≤ c.toNat then !inside else inside) false

end BookCatalog.Text
