import BookCatalog.Files.Basic
import BookCatalog.Search.Error

/-!
# Failures of a command

What can go wrong around a search: with the settings, with files, or with the search itself.
-/

namespace BookCatalog

inductive CommandError where
  /-- The settings cannot be used or found, with the reason. -/
  | settings (reason : String)
  /-- A text holds no settings, or settings cannot be written as a text. -/
  | format
  /-- A file cannot be read or written. -/
  | file (e : FileError)
  /-- The search failed. -/
  | search (e : SearchError)
  deriving DecidableEq

/-- The words for a failure.  Those for a failed search are its own. -/
def CommandError.message : CommandError → String
  | .settings reason => "config error: " ++ reason
  | .format => "config error"
  | .file e => "I/O error: " ++ e.message
  | .search e => e.message

/-- The words for what is behind a failure, where there is something. -/
def CommandError.cause? : CommandError → Option String
  | .file e => some e.message
  | _ => none

end BookCatalog
