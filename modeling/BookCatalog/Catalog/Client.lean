import BookCatalog.Catalog.Config
import BookCatalog.Catalog.Network
import BookCatalog.Search.Results

/-!
# The client of a catalog

A client knows the address of all books.  It searches with one request each and looks up a book by
its identifier.  What the catalog answers is a list of books, or one book, or a failure.
-/

namespace BookCatalog

structure Client where
  endpoint : Url
  userAgent : String

namespace Client

def ofConfig (c : Config) : Except SearchError Client := do
  let _ ← c.validate
  let endpoint ← c.endpoint
  let agent ← c.agent
  return ⟨endpoint, agent⟩

def searchUrl (client : Client) (query : Query) : Url :=
  client.endpoint.withoutUser.addPairs query.parameters

def bookUrl (client : Client) (id : Id) : Url := (client.endpoint.push id.text).withoutUser

/-- What an answer to a request of a kind holds, unless it failed to arrive. -/
def received (kind : Kind) : Except FetchError Answer → Except SearchError Answer
  | .error e => .error (.transport (kind.name ++ " request failed: " ++ e.message))
  | .ok answer =>
    if answer.complete then .ok answer
    else .error (.transport (kind.name ++ " response read failed: error decoding response body"))

def bodyText (answer : Answer) : String := String.ofList (Utf8.decodeLenient answer.body)

/-- What a text holds, for a request of a kind. -/
def parseBody {α : Type} (decode : String → Except Json.Error α) (kind : Kind) (body : String) :
    Except SearchError α :=
  match decode body with
  | .ok v => .ok v
  | .error e => .error (.malformed (kind.name ++ " response: " ++ e.message))

/-- What an answer with a status other than success means. -/
def refused (kind : Kind) (status : Nat) : SearchError :=
  .transport (kind.name ++ " request returned HTTP " ++ Status.text status)

def booksOf (kind : Kind) (reply : Except FetchError Answer) : Outcome := do
  let answer ← received kind reply
  if Status.isSuccess answer.status then parseBody Book.decodeAll kind (bodyText answer)
  else .error (refused kind answer.status)

def bookOf (id : Id) (reply : Except FetchError Answer) : Except SearchError Book := do
  let answer ← received .id reply
  if answer.status = 404 then .error (.notFound id.text)
  else if Status.isSuccess answer.status then parseBody Book.decode .id (bodyText answer)
  else .error (refused .id answer.status)

def search (client : Client) (catalog : Catalog) (query : Query) : Web Outcome := do
  return booksOf query.kind (← catalog.fetch (client.searchUrl query))

def book (client : Client) (catalog : Catalog) (id : Id) : Web (Except SearchError Book) := do
  if id.text = "" then return .error (.notFound "empty book id")
  else return bookOf id (← catalog.fetch (client.bookUrl id))

end Client

namespace Config

/-- Does something with the client that the settings describe. -/
def withClient {α : Type} (c : Config) (act : Client → Web (Except SearchError α)) :
    Web (Except SearchError α) :=
  match Client.ofConfig c with
  | .ok client => act client
  | .error e => return .error e

/-- Searches in every way for a keyword. -/
def search (c : Config) (catalog : Catalog) (query : Option String) :
    Web (Except SearchError Results) :=
  c.withClient fun client => do return .ok (← Results.gather (client.search catalog) query)

def book (c : Config) (catalog : Catalog) (id : Id) : Web (Except SearchError Book) :=
  c.withClient fun client => client.book catalog id

def suggestions (c : Config) (catalog : Catalog) (terms : List String) : Web Outcome :=
  c.withClient fun client => do
    return (← client.search catalog (.suggestions terms)).map Book.distinct

end Config

end BookCatalog
