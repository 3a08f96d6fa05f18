import BookCatalog.Text.Pieces

/-!
# Searches of the catalog

The kinds of request that a catalog answers, and the list searches with what they look for.
-/

namespace BookCatalog

/-- A kind of request.  A ranked search asks for the order by closeness centrality. -/
inductive Kind where
  | title
  | author
  | keyword (ranked : Bool)
  | regex (ranked : Bool)
  | suggestions
  | id
  deriving DecidableEq

def Kind.name : Kind → String
  | .title => "title"
  | .author => "author"
  | .keyword false => "keyword"
  | .keyword true => "ranked keyword"
  | .regex false => "regex"
  | .regex true => "ranked regex"
  | .suggestions => "suggestions"
  | .id => "id"

def Kind.all : List Kind :=
  [.title, .author, .keyword false, .keyword true, .regex false, .regex true, .suggestions, .id]

/-- A search that is answered with a list of books. -/
inductive Query where
  | title (title : String)
  | author (author : String)
  | keyword (keyword : String) (ranked : Bool)
  | regex (pattern : String) (ranked : Bool)
  | suggestions (terms : List String)
  deriving DecidableEq

namespace Query

def kind : Query → Kind
  | .title _ => .title
  | .author _ => .author
  | .keyword _ ranked => .keyword ranked
  | .regex _ ranked => .regex ranked
  | .suggestions _ => .suggestions

/-- The words for whether a search is ranked. -/
def flag (ranked : Bool) : String := if ranked then "true" else "false"

/-- The parameters of the request for a search, in order. -/
def parameters : Query → List (String × String)
  | .title s => [("searchByTitle", s)]
  | .author s => [("searchByAuthor", s)]
  | .keyword s ranked => [("search", s), ("closeness", flag ranked)]
  | .regex s ranked => [("regex", s), ("closeness", flag ranked)]
  | .suggestions terms => [("suggestions", Text.join "," terms)]

end Query

end BookCatalog
