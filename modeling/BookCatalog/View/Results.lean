import BookCatalog.Search.Results

/-!
# Plain-text views

Results and books as lines of text.  The header of a section says how many books its bucket has,
that there are none, or that requests failed.
-/

namespace BookCatalog.View

def line (s : String) : String := s ++ "\n"

/-- A line of labelled pieces with a separator between each two; no line without pieces. -/
def labelled (label sep : String) (pieces : List String) : String :=
  if pieces = [] then "" else line (label ++ ": " ++ Text.join sep pieces)

def people (label : String) (persons : List Person) : String :=
  labelled label ", " (persons.map Person.displayName)

/-- A line of a labelled text; no line for the empty text. -/
def optional (label : String) (shown : String) (given : String) : String :=
  if given = "" then "" else line (label ++ ": " ++ shown)

/-! ## Books -/

def entry (b : Book) : String :=
  line ("  [" ++ b.id.text ++ "] " ++ b.title) ++
    optional "      image" (b.cover .small) b.image ++
    people "      Author" b.authors ++
    people "      Translators" b.translators ++
    labelled "      Bookshelves" "; " b.bookshelves ++
    labelled "      Subject" "; " b.subjects

def entries (books : List Book) : String := String.join (books.map entry)

def detail (b : Book) : String :=
  line ("Information about book \"" ++ b.title ++ "\" [" ++ b.id.text ++ "]") ++
    optional "Cover" (b.cover .medium) b.image ++
    people "Author" b.authors ++
    people "Translators" b.translators ++
    labelled "Bookshelves" "; " b.bookshelves ++
    labelled "Subject" "; " b.subjects ++
    labelled "Language" "; " b.languages ++
    optional "Read this book online" b.text b.text

def suggestions (books : List Book) : String :=
  if books = [] then line "No suggestions found"
  else line (Decimal.natural books.length ++ " suggested books") ++ entries books

/-! ## Results -/

/-- Which of the two content buckets is shown. -/
inductive Order where
  | relevance
  | closeness
  deriving DecidableEq

def Order.label : Order → String
  | .relevance => "relevance of keyword"
  | .closeness => "popularity (closeness centrality)"

def Order.bucket (order : Order) (results : Results) : Bucket :=
  match order with
  | .relevance => results.content
  | .closeness => results.orderedContent

/-- The header of the section of a bucket of books found by what is named. -/
def header (what keyword : String) (bucket : Bucket) : String :=
  let found := fun books : List Book =>
    Decimal.natural books.length ++ " results of books' " ++ what ++ " containing \"" ++ keyword ++
      "\""
  match bucket with
  | .unavailable reason =>
    line ("Search of books' " ++ what ++ " is temporarily unavailable (" ++ reason ++ ")")
  | .available books =>
    if books = [] then
      line ("No results found of books' " ++ what ++ " containing \"" ++ keyword ++ "\"")
    else line (found books)
  | .partially books reason =>
    if books = [] then
      line ("Search of books' " ++ what ++ " is partially unavailable (" ++ reason ++ ")")
    else line (found books ++ " (partial: " ++ reason ++ ")")

/-- The section of a bucket: its header and its books. -/
def plainSection (what keyword : String) (bucket : Bucket) : String :=
  header what keyword bucket ++ entries bucket.books

/-- The section of the content bucket, which says how its books are ordered if it has any. -/
def contentSection (order : Order) (keyword : String) (bucket : Bucket) : String :=
  header "content" keyword bucket ++
    (if bucket.books = [] then "" else line ("Ordered by " ++ order.label)) ++
    entries bucket.books

/-- The results of a search: three sections with an empty line between each two. -/
def results (order : Order) (r : Results) : String :=
  plainSection "titles" r.keyword r.titles ++ "\n" ++
    contentSection order r.keyword (order.bucket r) ++ "\n" ++
    plainSection "authors' names" r.keyword r.authors

end BookCatalog.View
