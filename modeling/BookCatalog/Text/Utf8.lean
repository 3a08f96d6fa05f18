/-!
# UTF-8

Texts as bytes and bytes as texts.  Bytes are read in chunks: a chunk is one character, or a piece
that is the longest start of no character's bytes.  A lenient reader puts U+FFFD for a broken
chunk; a strict reader refuses it.
-/

namespace BookCatalog.Utf8

def encode (cs : List Char) : List UInt8 := cs.flatMap String.utf8EncodeChar

def size (cs : List Char) : Nat := cs.foldr (fun c n => c.utf8Size + n) 0

/-- A byte that continues a character, from `low` up to `high` where the bytes before it narrow
the range. -/
def continues (b : UInt8) (low : Nat := 0x80) (high : Nat := 0xBF) : Bool :=
  low ≤ b.toNat && b.toNat ≤ high

/-- The six bits that a continuing byte carries. -/
def payload (b : UInt8) : Nat := b.toNat - 0x80

/-- The least second byte after the first byte `a` of a character of three or four bytes. -/
def secondLow (a : UInt8) : Nat := if a = 0xE0 then 0xA0 else if a = 0xF0 then 0x90 else 0x80

/-- The greatest second byte after the first byte `a` of a character of three or four bytes. -/
def secondHigh (a : UInt8) : Nat := if a = 0xED then 0x9F else if a = 0xF4 then 0x8F else 0xBF

/-- The chunks of a run of bytes: a character, or nothing for a broken piece. -/
def chunks : List UInt8 → List (Option Char)
  | [] => []
  | a :: r =>
    if a.toNat < 0x80 then some (Char.ofNat a.toNat) :: chunks r
    else if 0xC2 ≤ a.toNat && a.toNat ≤ 0xDF then
      match r with
      | b :: r' =>
        if continues b then some (Char.ofNat ((a.toNat - 0xC0) * 64 + payload b)) :: chunks r'
        else none :: chunks (b :: r')
      | [] => [none]
    else if 0xE0 ≤ a.toNat && a.toNat ≤ 0xEF then
      match r with
      | b :: c :: r' =>
        if continues b (secondLow a) (secondHigh a) then
          if continues c then
            some (Char.ofNat ((a.toNat - 0xE0) * 4096 + payload b * 64 + payload c)) :: chunks r'
          else none :: chunks (c :: r')
        else none :: chunks (b :: c :: r')
      | b :: [] =>
        if continues b (secondLow a) (secondHigh a) then [none] else none :: chunks [b]
      | [] => [none]
    else if 0xF0 ≤ a.toNat && a.toNat ≤ 0xF4 then
      match r with
      | b :: c :: d :: r' =>
        if continues b (secondLow a) (secondHigh a) then
          if continues c then
            if continues d then
              some (Char.ofNat ((a.toNat - 0xF0) * 262144 + payload b * 4096 + payload c * 64 +
                payload d)) :: chunks r'
            else none :: chunks (d :: r')
          else none :: chunks (c :: d :: r')
        else none :: chunks (b :: c :: d :: r')
      | b :: c :: [] =>
        if continues b (secondLow a) (secondHigh a) then
          if continues c then [none] else none :: chunks [c]
        else none :: chunks [b, c]
      | b :: [] =>
        if continues b (secondLow a) (secondHigh a) then [none] else none :: chunks [b]
      | [] => [none]
    else none :: chunks r

/-- The text of a run of bytes, U+FFFD standing for each broken piece. -/
def decodeLenient (bytes : List UInt8) : List Char :=
  (chunks bytes).map (·.getD '\uFFFD')

/-- The text of a run of bytes, if every piece of it is a character. -/
def decode? (bytes : List UInt8) : Option (List Char) := (chunks bytes).mapM id

end BookCatalog.Utf8
