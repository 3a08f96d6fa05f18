import BookCatalog.Files.Path

/-!
# Files and folders

What a file system holds, without links and without rights: folders and files at locations.  A path
leads to a location step by step, and each step but the last must be taken in a folder.

* `Files.walk` — where steps lead;
* `Files.find` — what is at a path;
* `Files.target` — where a path would put something new.
-/

namespace BookCatalog

inductive FileError where
  | notFound
  | alreadyExists
  | notFolder
  | isFolder
  | nameTooLong
  /-- The path holds a zero character, which no file name can. -/
  | zeroInPath
  /-- The bytes of a file are no text. -/
  | notText
  deriving DecidableEq, Repr

def FileError.message : FileError → String
  | .notFound => "No such file or directory (os error 2)"
  | .alreadyExists => "File exists (os error 17)"
  | .notFolder => "Not a directory (os error 20)"
  | .isFolder => "Is a directory (os error 21)"
  | .nameTooLong => "File name too long (os error 36)"
  | .zeroInPath => "file name contained an unexpected NUL byte"
  | .notText => "stream did not contain valid UTF-8"

/-- The names that lead to a file or folder, from the last one back to the root. -/
abbrev Location := List String

inductive Entry where
  | folder
  | file (bytes : List UInt8)
  deriving DecidableEq

/-- A file system, and the folder at which relative paths start. -/
structure Files where
  entries : List (Location × Entry)
  start : Location

namespace Files

/-- What is at a location.  At the root is always a folder. -/
def at? (files : Files) (place : Location) : Option Entry :=
  if place = [] then some .folder else files.entries.lookup place

/-- A file system with something put at a location, in the place of what was there. -/
def put (files : Files) (place : Location) (entry : Entry) : Files :=
  { files with entries := (place, entry) :: files.entries.filter (·.1 ≠ place) }

/-- A location and those around it, but for the root. -/
def upward : Location → List Location
  | [] => []
  | name :: around => (name :: around) :: upward around

/-- A file system without files: the folder at which relative paths start, and those around it. -/
def withFolder (start : Location) : Files := ⟨(upward start).map (·, .folder), start⟩

/-! ## Walking -/

/-- The longest name that a file or folder can have, in bytes. -/
def maxName : Nat := 255

/-- The longest path, in bytes. -/
def maxPath : Nat := 4095

/-- Is there a folder at a location?  If not, why can no step be taken there? -/
def enter (files : Files) (place : Location) : Except FileError Unit :=
  match files.at? place with
  | some .folder => .ok ()
  | some (.file _) => .error .notFolder
  | none => .error .notFound

def step (files : Files) (place : Location) (name : String) : Except FileError Location := do
  files.enter place
  if Path.isIdle name then return place
  else if name = ".." then return place.tail
  else if maxName < name.utf8ByteSize then throw .nameTooLong
  else return name :: place

def walk (files : Files) (place : Location) (steps : List String) : Except FileError Location :=
  steps.foldlM files.step place

/-- Where a path starts, unless it is no path at all. -/
def origin (files : Files) (path : String) : Except FileError Location :=
  if path.toList.contains '\x00' then .error .zeroInPath
  else if maxPath < path.utf8ByteSize then .error .nameTooLong
  else if path = "" then .error .notFound
  else if Path.isAbsolute path then .ok []
  else .ok files.start

def locate (files : Files) (path : String) : Except FileError Location := do
  files.walk (← files.origin path) (Path.steps path)

def find (files : Files) (path : String) : Except FileError Entry := do
  match files.at? (← files.locate path) with
  | some entry => return entry
  | none => throw .notFound

def holds (files : Files) (path : String) : Bool := (files.find path).isOk

def isFolder (files : Files) (path : String) : Bool := (files.find path).toOption = some .folder

def isFile (files : Files) (path : String) : Bool :=
  match files.find path with
  | .ok (.file _) => true
  | _ => false

/-- Where a path would put something new. -/
inductive Target where
  /-- At a location in a folder that is there; the path may end in a slash. -/
  | place (location : Location) (slash : Bool)
  /-- The path ends in a folder that is there: the root, the same folder or the one around. -/
  | standing

/-- Where a path would put something new: all its steps but the last must be there. -/
def target (files : Files) (path : String) : Except FileError Target := do
  let start ← files.origin path
  let steps := Path.steps path
  let named := (steps.reverse.dropWhile (· = "")).reverse
  match named.getLast? with
  | none => return .standing
  | some last =>
    let folder ← files.walk start named.dropLast
    let place ← files.step folder last
    if last = "." || last = ".." then return .standing
    else return .place place (named.length < steps.length)

end Files

end BookCatalog
