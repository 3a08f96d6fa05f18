import BookCatalog.Text.Printable

/-!
# Quoted texts

A text between double quotes, in which a character that would not be seen as itself is written as
an escape: the six short escapes, else its number in hexadecimal between braces.
-/

namespace BookCatalog.Text

def lowerHex (n : Nat) : List Char := Nat.toDigits 16 n

def quotedChar (c : Char) : List Char :=
  if c = '\x00' then ['\\', '0']
  else if c = '\t' then ['\\', 't']
  else if c = '\r' then ['\\', 'r']
  else if c = '\n' then ['\\', 'n']
  else if c = '\\' then ['\\', '\\']
  else if c = '"' then ['\\', '"']
  else if isPrintable c then [c]
  else ['\\', 'u', '\x7b'] ++ lowerHex c.toNat ++ ['\x7d']

def quoted (s : String) : String :=
  String.ofList ('"' :: s.toList.flatMap quotedChar ++ ['"'])

end BookCatalog.Text
