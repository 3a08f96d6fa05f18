import BookCatalog.Text.Pieces
import BookCatalog.Json.Reader
import BookCatalog.Json.Value

/-!
# Credits

The people credited on a book, under the name the catalog keeps, usually `Last, First`.
-/

namespace BookCatalog

/-- A person credited on a book. -/
structure Person where
  name : String
  deriving DecidableEq

namespace Person

/-- The name as it is shown: a hyphen for the first comma with a space. -/
def displayName (p : Person) : String := Text.exchange ", " "-" p.name

def value (p : Person) : Json.Value := .object [("name", .text p.name)]

def shape : Json.Shape Person where
  name := "struct Person"
  blank := ⟨""⟩
  fields := [
    ⟨"name", true, fun _ input => (Json.readText input).map fun (s, rest) => (fun _ => ⟨s⟩, rest)⟩]

def read : Json.ValueReader Person := shape.read

end Person

end BookCatalog
