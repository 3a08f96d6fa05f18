import BookCatalog.Toml.Lexeme
import BookCatalog.Text.Decimal

/-!
# Dates and times in a TOML text

A date, a time of day, or a date with a time of day and perhaps an offset from universal time.  They
are checked against the calendar, and their values are not kept.
-/

namespace BookCatalog.Toml

/-- A number of exactly so many digits. -/
def fixedNumber (count : Nat) : Reader Nat := fun cs =>
  let ds := cs.take count
  if ds.length = count && ds.all Char.isDigit then some (Decimal.value ds, cs.drop count) else none

def after? (c : Char) : List Char → Option (List Char)
  | d :: cs => if d = c then some cs else none
  | [] => none

def isLeap (year : Nat) : Bool := year % 4 = 0 && (year % 100 ≠ 0 || year % 400 = 0)

def daysIn (year month : Nat) : Nat :=
  if month = 2 then if isLeap year then 29 else 28
  else if month = 4 || month = 6 || month = 9 || month = 11 then 30
  else 31

/-- The text after a date: year, month and day of the calendar. -/
def date? (cs : List Char) : Option (List Char) := do
  let (year, cs) ← fixedNumber 4 cs
  let (month, cs) ← fixedNumber 2 (← after? '-' cs)
  let (day, cs) ← fixedNumber 2 (← after? '-' cs)
  if 1 ≤ month && month ≤ 12 && 1 ≤ day && day ≤ daysIn year month then some cs else none

def hourMinute? (cs : List Char) : Option (List Char) := do
  let (hour, cs) ← fixedNumber 2 cs
  let (minute, cs) ← fixedNumber 2 (← after? ':' cs)
  if hour ≤ 23 && minute ≤ 59 then some cs else none

/-- The text after a time of day, to the second or finer.  A leap second is allowed. -/
def time? (cs : List Char) : Option (List Char) := do
  let cs ← hourMinute? cs
  let (second, cs) ← fixedNumber 2 (← after? ':' cs)
  if second ≤ 60 then
    match cs with
    | '.' :: rest =>
      if (rest.head?.any Char.isDigit) then some (rest.dropWhile Char.isDigit) else some cs
    | _ => some cs
  else none

/-- The text after an offset from universal time, if there is one. -/
def offset? : List Char → Option (List Char)
  | [] => some []
  | c :: cs =>
    if c = 'Z' || c = 'z' then some cs
    else if c = '+' || c = '-' then hourMinute? cs
    else some (c :: cs)

/-- The text after a date, a time, or both. -/
def moment? (cs : List Char) : Option (List Char) :=
  match date? cs with
  | none => time? cs
  | some [] => some []
  | some (c :: rest) =>
    if c = 'T' || c = 't' || c = ' ' then
      match time? rest with
      | some after => offset? after
      | none => some (c :: rest)
    else some (c :: rest)

end BookCatalog.Toml
