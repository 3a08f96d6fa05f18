/-!
# TOML values and tables

A table maps keys to values.  It remembers how it came to be, for that decides which later lines may
add to it: a table opened by a header cannot be opened again, one written in braces cannot be added
to at all, and one that only stands on the way to another may still get a header of its own.

* `Entries.assign` — a key and its value;
* `Entries.openTable` and `Entries.openElement` — headers.
-/

namespace BookCatalog.Toml

/-- What a table was made by. -/
inductive Origin where
  /-- A header of its own. -/
  | header
  /-- A header of a table inside it. -/
  | parent
  /-- A key with dots. -/
  | dotted
  /-- Braces. -/
  | inline
deriving DecidableEq, Repr

/-- A value.  Of real numbers and of dates and times only the kind is kept. -/
inductive Value where
  | text (s : String)
  | integer (n : Int)
  | real
  | truth (b : Bool)
  | moment
  | list (items : List Value)
  | table (origin : Origin) (entries : List (String × Value))
  /-- Tables under one key that are opened one after the other; lines go to the last one. -/
  | tables (earlier : List (List (String × Value))) (last : List (String × Value))

/-- The keys of a table and their values, in order of appearance. -/
abbrev Entries := List (String × Value)

/-- The entries with a value put in the place of what the key had, or at the end. -/
def Entries.set (key : String) (v : Value) : Entries → Entries
  | [] => [(key, v)]
  | (k, w) :: rest => if k = key then (k, v) :: rest else (k, w) :: Entries.set key v rest

/-- How a path of keys is walked: as the one in a header, or as the dotted front of a key. -/
inductive Walk where
  | header
  | dotted
deriving DecidableEq, Repr

/-- What a table is made by that a walk has to make. -/
def Walk.makes : Walk → Origin
  | .header => .parent
  | .dotted => .dotted

def Walk.enters : Walk → Origin → Bool
  | .header, origin => origin ≠ .inline
  | .dotted, origin => origin = .parent || origin = .dotted

/-- Changes the table at the end of a path.  Tables that are missing on the way are made. -/
def Entries.within (walk : Walk) (act : Origin → Entries → Option Entries) :
    List String → Origin → Entries → Option Entries
  | [], origin, entries => act origin entries
  | key :: path, _, entries =>
    match entries.lookup key with
    | none =>
      (Entries.within walk act path walk.makes []).map fun es =>
        entries.set key (.table walk.makes es)
    | some (.table origin inner) =>
      if walk.enters origin then
        (Entries.within walk act path origin inner).map fun es => entries.set key (.table origin es)
      else none
    | some (.tables earlier last) =>
      (Entries.within walk act path .header last).map fun es => entries.set key (.tables earlier es)
    | some _ => none

/-- A key that is not there yet gets a value.  In front of the key may stand a path that leads to a
table made by keys with dots. -/
def Entries.assign (path : List String) (key : String) (v : Value) (origin : Origin)
    (entries : Entries) : Option Entries :=
  Entries.within .dotted
    (fun origin inner =>
      if (origin == .dotted) == path.isEmpty || (inner.lookup key).isSome then none
      else some (inner ++ [(key, v)]))
    path origin entries

/-- The table of a header: a new one, or one that was only on the way to others. -/
def Entries.openTable (path : List String) (key : String) (entries : Entries) : Option Entries :=
  Entries.within .header
    (fun _ inner =>
      match inner.lookup key with
      | none => some (inner ++ [(key, .table .header [])])
      | some (.table .parent es) => some (inner.set key (.table .header es))
      | some _ => none)
    path .header entries

/-- One more of the tables under one key. -/
def Entries.openElement (path : List String) (key : String) (entries : Entries) : Option Entries :=
  Entries.within .header
    (fun _ inner =>
      match inner.lookup key with
      | none => some (inner ++ [(key, .tables [] [])])
      | some (.tables earlier last) => some (inner.set key (.tables (earlier ++ [last]) []))
      | some _ => none)
    path .header entries

end BookCatalog.Toml
