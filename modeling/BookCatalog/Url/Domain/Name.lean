import BookCatalog.Text.Utf8
import BookCatalog.Url.Domain.Mapping
import BookCatalog.Url.Domain.Punycode
import BookCatalog.Url.Domain.Script

/-!
# Host names

The form in which a host name is sent: its characters are mapped and composed, and a label that then
holds characters outside ASCII is written in Punycode after `xn--`.  A label may also be given in
that form; then what it stands for has to be its own mapped and composed form.
-/

namespace BookCatalog.Url.Domain

/-- The characters of ASCII that no host name may hold. -/
def isForbidden (c : Char) : Bool :=
  c.toNat ≤ 0x20 || c.toNat = 0x7F ||
    c ∈ ['%', '#', '/', ':', '<', '>', '?', '@', '[', '\\', ']', '^', '|']

def isAscii (c : Char) : Bool := c.toNat < 0x80

/-- Whether the characters of a label, mapped and composed, may stand together. -/
def isWellFormed (label : List Char) : Bool :=
  !(match label with
    | [] => false
    | c :: _ => markRuns.contains c) && joinersFit [] label

/-- How many characters a label may have that is to be written in Punycode. -/
def maxLabel : Nat := 1000

/-- How many characters there may be after `xn--`. -/
def maxForm : Nat := 2000

/-- What a label after `xn--` stands for. -/
def decodeLabel? (form : List Char) : Option (List Char) := do
  let label ← if form.length ≤ maxForm then Punycode.decode form else none
  if label.all isAscii || !label.all isKept || Text.Canonical.normalize label ≠ label ||
      !isWellFormed label then none
  else some label

/-- A label as it is sent, and what it stands for. -/
structure Label where
  sent : List Char
  shown : List Char

/-- A label that was mapped and composed. -/
def Label.of? (label : List Char) : Option Label :=
  if label.any isForbidden then none
  else
    match (['x', 'n', '-', '-'] : List Char).isPrefixOf? label with
    | some form => (decodeLabel? form).map fun shown => ⟨label, shown⟩
    | none =>
      if label.all isAscii then some ⟨label, label⟩
      else if label.length ≤ maxLabel && isWellFormed label then
        some ⟨['x', 'n', '-', '-'] ++ Punycode.encode label, label⟩
      else none

/-- The form in which a host name is sent, if it is one. -/
def toAscii? (name : List Char) : Option (List Char) := do
  let mapped ← map? name
  let normal := if mapped.all isAscii then mapped else Text.Canonical.normalize mapped
  let labels ← (Text.cut '.' normal).mapM Label.of?
  let shown := labels.map (·.shown)
  if isRightToLeft shown && !shown.all isDirected then none
  else some (Text.joined ['.'] (labels.map (·.sent)))

end BookCatalog.Url.Domain
