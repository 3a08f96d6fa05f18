import BookCatalog.Text.Decimal

/-!
# JSON values and their written forms

A value has two written forms: the compact one without any space, and the indented one with two
spaces a level, where an empty list or object stays on one line.
-/

namespace BookCatalog.Json

/-- A JSON value; its numbers are whole, and the members of an object keep their order. -/
inductive Value where
  | null
  | bool (b : Bool)
  | number (n : Int)
  | text (s : String)
  | list (items : List Value)
  | object (members : List (String × Value))

def hexDigit (n : Nat) : Char := Nat.digitChar n

/-- A character as it stands in a JSON text. -/
def escaped (c : Char) : List Char :=
  if c = '"' then ['\\', '"']
  else if c = '\\' then ['\\', '\\']
  else if c = '\x08' then ['\\', 'b']
  else if c = '\x0c' then ['\\', 'f']
  else if c = '\n' then ['\\', 'n']
  else if c = '\r' then ['\\', 'r']
  else if c = '\t' then ['\\', 't']
  else if c.toNat < 0x20 then
    ['\\', 'u', '0', '0', hexDigit (c.toNat / 16), hexDigit (c.toNat % 16)]
  else [c]

def writeText (s : String) : List Char := '"' :: s.toList.flatMap escaped ++ ['"']

mutual

/-- The form of a value without any space. -/
def Value.compact : Value → List Char
  | .null => ['n', 'u', 'l', 'l']
  | .bool true => ['t', 'r', 'u', 'e']
  | .bool false => ['f', 'a', 'l', 's', 'e']
  | .number n => Decimal.int n
  | .text s => writeText s
  | .list items => '[' :: Value.compactItems items ++ [']']
  | .object members => '\x7b' :: Value.compactMembers members ++ ['\x7d']

def Value.compactItems : List Value → List Char
  | [] => []
  | [v] => v.compact
  | v :: w :: vs => v.compact ++ ',' :: Value.compactItems (w :: vs)

def Value.compactMembers : List (String × Value) → List Char
  | [] => []
  | [(k, v)] => writeText k ++ ':' :: v.compact
  | (k, v) :: m :: ms => writeText k ++ ':' :: v.compact ++ ',' :: Value.compactMembers (m :: ms)

end

/-- A new line, indented by two spaces a level. -/
def newLine (level : Nat) : List Char := '\n' :: List.replicate (2 * level) ' '

mutual

/-- The indented form of a value that stands at a level. -/
def Value.indented (level : Nat) : Value → List Char
  | .null => ['n', 'u', 'l', 'l']
  | .bool true => ['t', 'r', 'u', 'e']
  | .bool false => ['f', 'a', 'l', 's', 'e']
  | .number n => Decimal.int n
  | .text s => writeText s
  | .list [] => ['[', ']']
  | .list (v :: vs) => '[' :: Value.indentedItems (level + 1) (v :: vs) ++ newLine level ++ [']']
  | .object [] => ['\x7b', '\x7d']
  | .object (m :: ms) =>
    '\x7b' :: Value.indentedMembers (level + 1) (m :: ms) ++ newLine level ++ ['\x7d']

/-- Items, each on lines of its own, with a comma after each but the last. -/
def Value.indentedItems (level : Nat) : List Value → List Char
  | [] => []
  | [v] => newLine level ++ v.indented level
  | v :: w :: vs => newLine level ++ v.indented level ++ ',' :: Value.indentedItems level (w :: vs)

/-- Members, each on lines of its own, with a comma after each but the last. -/
def Value.indentedMembers (level : Nat) : List (String × Value) → List Char
  | [] => []
  | [(k, v)] => newLine level ++ writeText k ++ ':' :: ' ' :: v.indented level
  | (k, v) :: m :: ms =>
    newLine level ++ writeText k ++ ':' :: ' ' :: v.indented level ++
      ',' :: Value.indentedMembers level (m :: ms)

end

def Value.toCompact (v : Value) : String := String.ofList v.compact

def Value.toIndented (v : Value) : String := String.ofList (v.indented 0)

end BookCatalog.Json
