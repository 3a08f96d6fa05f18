import BookCatalog.Catalog.Network
import BookCatalog.Search.Query

/-!
# Scripted catalogs

A catalog that answers from a script: some pages by their address, all others by the kind of the
request.  What the script leaves out is answered with an empty list, or with "not found" for a
single book.  No encrypted connection can be made to it, and none at all while it is down.
-/

namespace BookCatalog

/-- What a script says about a request. -/
structure Response where
  status : Nat
  location : Option String
  body : List UInt8
  /-- The request is not answered. -/
  drop : Bool
  /-- The body ends too early. -/
  truncate : Bool

/-- The reply that a response is.  An answer without content has no body. -/
def Response.reply (r : Response) : Reply :=
  if r.drop then .dropped
  else .answered
    { status := r.status
      location := r.location
      body := if r.status = 204 || r.status = 304 then [] else r.body
      complete := !r.truncate }

structure Script where
  up : Bool
  pages : List (String × Response)
  responses : List (Kind × Response)

namespace Script

/-- The kind of a request for an address: what the first parameter of a search says. -/
def kindOf (url : Url) : Kind :=
  let pairs := url.pairs
  let ranked := pairs.any (· = ("closeness", "true"))
  let kind? := fun name : String =>
    match name with
    | "searchByTitle" => some Kind.title
    | "searchByAuthor" => some .author
    | "search" => some (.keyword ranked)
    | "regex" => some (.regex ranked)
    | "suggestions" => some .suggestions
    | _ => none
  (pairs.findSome? fun (name, _) => kind? name).getD .id

/-- What is answered to a kind of request that the script leaves out. -/
def default (kind : Kind) : Response :=
  if kind = .id then ⟨404, none, [], false, false⟩
  else ⟨200, none, Utf8.encode ['[', ']'], false, false⟩

def catalog (script : Script) : Catalog := fun url =>
  if !script.up || url.secure then .unreachable
  else
    let kind := kindOf url
    let planned := script.pages.lookup url.toText <|> script.responses.lookup kind
    (planned.getD (default kind)).reply

end Script

end BookCatalog
