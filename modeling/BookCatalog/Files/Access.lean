import BookCatalog.Files.Basic
import BookCatalog.Text.Utf8

/-!
# Reading and writing files

* `Files.readText` — the text of a file;
* `Files.writeText` — a file with a text, new or in the place of one that is there;
* `Files.makeFolders` — a folder and those around it.
-/

namespace BookCatalog.Files

def readBytes (files : Files) (path : String) : Except FileError (List UInt8) := do
  match ← files.find path with
  | .file bytes => return bytes
  | .folder => throw .isFolder

def readText (files : Files) (path : String) : Except FileError String := do
  match Utf8.decode? (← files.readBytes path) with
  | some cs => return String.ofList cs
  | none => throw .notText

def writeBytes (files : Files) (path : String) (bytes : List UInt8) : Except FileError Files := do
  match ← files.target path with
  | .standing | .place _ true => throw .isFolder
  | .place place false =>
    match files.at? place with
    | some .folder => throw .isFolder
    | _ => return files.put place (.file bytes)

def writeText (files : Files) (path text : String) : Except FileError Files :=
  files.writeBytes path (Utf8.encode text.toList)

/-- Makes a folder where nothing is. -/
def makeFolder (files : Files) (path : String) : Except FileError Files := do
  match ← files.target path with
  | .standing => throw .alreadyExists
  | .place place _ =>
    match files.at? place with
    | some _ => throw .alreadyExists
    | none => return files.put place .folder

/-- Makes a folder, unless one is there already. -/
def ensureFolder (files : Files) (path : String) : Except FileError Files :=
  match files.makeFolder path with
  | .ok made => .ok made
  | .error e => if files.isFolder path then .ok files else .error e

/-- Makes a folder and, so many times at most, the one around it if that is missing.  A folder made
on the way stays even if another cannot be made. -/
def makeFoldersWithin (files : Files) : Nat → String → Files × Except FileError Unit
  | 0, _ => (files, .error .notFound)
  | depth + 1, path =>
    if Path.names path = [] && !Path.isAbsolute path then (files, .ok ())
    else match files.ensureFolder path with
      | .ok made => (made, .ok ())
      | .error .notFound =>
        match Path.parent? path with
        | none => (files, .error .notFound)
        | some around =>
          match makeFoldersWithin files depth around with
          | (there, .error e) => (there, .error e)
          | (there, .ok ()) =>
            match there.ensureFolder path with
            | .ok made => (made, .ok ())
            | .error e => (there, .error e)
      | .error e => (files, .error e)

/-- Makes a folder and those around it that are missing. -/
def makeFolders (files : Files) (path : String) : Files × Except FileError Unit :=
  files.makeFoldersWithin ((Path.names path).length + 1) path

end BookCatalog.Files
