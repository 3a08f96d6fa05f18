import BookCatalog.Text.Pieces
import BookCatalog.Url.Percent

/-!
# Form encoding

A list of named values as the query of an address: names and values joined by `=`, pairs by `&`, a
space written as `+`, and all but letters, digits and four marks percent-encoded.
-/

namespace BookCatalog.Form

/-- Kept in a name or a value. -/
def keep (c : Char) : Bool :=
  c.isAlphanum || c = '*' || c = '-' || c = '.' || c = '_'

def encodeWord (cs : List Char) : List Char :=
  cs.flatMap fun c => if c = ' ' then ['+'] else if keep c then [c] else Percent.escape c

def encodePair (p : String × String) : List Char :=
  encodeWord p.1.toList ++ '=' :: encodeWord p.2.toList

def encode (pairs : List (String × String)) : List Char := Text.joined ['&'] (pairs.map encodePair)

/-- The text of a name or a value; bytes that are no character give U+FFFD. -/
def decodeWord (cs : List Char) : String :=
  String.ofList (Utf8.decodeLenient (Percent.decode (cs.map fun c => if c = '+' then ' ' else c)))

/-- A name with its value, which is empty where no `=` stands. -/
def decodePair (cs : List Char) : String × String :=
  let (name, value) := Text.cutFirst '=' cs
  (decodeWord name, decodeWord (value.getD []))

/-- Names with their values; an empty piece between two `&` is none. -/
def decode (cs : List Char) : List (String × String) :=
  ((Text.cut '&' cs).filter (· ≠ [])).map decodePair

end BookCatalog.Form
