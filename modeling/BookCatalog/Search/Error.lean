/-!
# Failures of a search

Every request ends in an answer or in one of four failures, so that nothing found and nothing
learned stay apart.
-/

namespace BookCatalog

/-- A failure of a request to the catalog. -/
inductive SearchError where
  /-- There was no successful answer. -/
  | transport (detail : String)
  /-- The answer was no JSON, or held no books. -/
  | malformed (detail : String)
  /-- The catalog has no such book. -/
  | notFound (id : String)
  /-- The settings cannot be used. -/
  | config (detail : String)
  deriving DecidableEq

def SearchError.message : SearchError → String
  | .transport detail => "transport error: " ++ detail
  | .malformed detail => "malformed response: " ++ detail
  | .notFound id => "book not found: " ++ id
  | .config detail => "config error: " ++ detail

end BookCatalog
