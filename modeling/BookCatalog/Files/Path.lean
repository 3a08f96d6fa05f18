import BookCatalog.Text.Pieces

/-!
# Paths

A path is a text.  Its steps are the pieces between slashes; an empty step and `.` stay where they
are, and `..` goes up.

* `steps` and `names` — what a path is made of;
* `parent?`, `child` — the path of the folder around, and of something inside.
-/

namespace BookCatalog.Path

def isAbsolute (path : String) : Bool := path.toList.head? = some '/'

def steps (path : String) : List String :=
  (Text.cut '/' path.toList).map String.ofList

/-- A step that leads nowhere else. -/
def isIdle (step : String) : Bool := step = "" || step = "."

/-- The steps of a path that matter to its text: a `.` does only in front of a path that does not
start at the root. -/
def names (path : String) : List String :=
  match steps path with
  | "." :: rest => "." :: rest.filter (!isIdle ·)
  | all => all.filter (!isIdle ·)

/-- The path of the folder around: all but the last name.  There is none around the root or around
nothing. -/
def parent? (path : String) : Option String :=
  match names path with
  | [] => none
  | first :: rest =>
    let inner := Text.join "/" (first :: rest).dropLast
    some (if isAbsolute path then "/" ++ inner else inner)

/-- The path of something inside a folder.  A path from the root stays as it is. -/
def child (folder path : String) : String :=
  if isAbsolute path then path
  else if folder = "" || folder.toList.getLast? = some '/' then folder ++ path
  else folder ++ "/" ++ path

end BookCatalog.Path
