import BookCatalog.Book.Id
import BookCatalog.Book.Person
import BookCatalog.Book.Image

/-!
# Books

A book as every search of the catalog answers it.  Only the identifier has to be given; a text that
is not given is empty, and so is a list.
-/

namespace BookCatalog

/-- A book of the catalog. -/
structure Book where
  id : Id
  title : String
  /-- The address of the cover in some size. -/
  image : String
  authors : List Person
  translators : List Person
  bookshelves : List String
  subjects : List String
  languages : List String
  /-- The address of the readable content. -/
  text : String
  deriving DecidableEq

namespace Book

/-- A book of which nothing is known. -/
def blank : Book := ⟨.ofText "", "", "", [], [], [], [], [], ""⟩

/-- The address of the cover in a given size. -/
def cover (book : Book) (size : ImageSize) : String := size.apply book.image

/-! ## The written form -/

/-- The written form of a book: all fields, in order. -/
def value (b : Book) : Json.Value :=
  .object [
    ("id", b.id.value),
    ("title", .text b.title),
    ("image", .text b.image),
    ("authors", .list (b.authors.map Person.value)),
    ("translators", .list (b.translators.map Person.value)),
    ("bookshelves", .list (b.bookshelves.map .text)),
    ("subjects", .list (b.subjects.map .text)),
    ("languages", .list (b.languages.map .text)),
    ("text", .text b.text)]

def listValue (books : List Book) : Json.Value := .list (books.map value)

/-- A field whose value is kept by a change to the book. -/
def field {α : Type} (name : String) (required : Bool) (read : Json.ValueReader α)
    (set : α → Book → Book) : Json.Field Book where
  name := name
  required := required
  read := fun levels input => (read levels input).map fun (v, rest) => (set v, rest)

def readTexts : Json.ValueReader (List String) := Json.readList fun _ => Json.readText

def readPeople : Json.ValueReader (List Person) := Json.readList Person.read

def shape : Json.Shape Book where
  name := "struct BookRecord"
  blank := blank
  fields := [
    field "id" true Id.read fun v b => { b with id := v },
    field "title" false (fun _ => Json.readText) fun v b => { b with title := v },
    field "image" false (fun _ => Json.readText) fun v b => { b with image := v },
    field "authors" false readPeople fun v b => { b with authors := v },
    field "translators" false readPeople fun v b => { b with translators := v },
    field "bookshelves" false readTexts fun v b => { b with bookshelves := v },
    field "subjects" false readTexts fun v b => { b with subjects := v },
    field "languages" false readTexts fun v b => { b with languages := v },
    field "text" false (fun _ => Json.readText) fun v b => { b with text := v }]

def read : Json.ValueReader Book := shape.read

def readAll : Json.ValueReader (List Book) := Json.readList read

def decode (text : String) : Except Json.Error Book := Json.decode read text

def decodeAll (text : String) : Except Json.Error (List Book) := Json.decode readAll text

end Book

end BookCatalog
