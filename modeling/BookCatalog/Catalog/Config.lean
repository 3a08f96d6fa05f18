import BookCatalog.Search.Error
import BookCatalog.Text.Quoted
import BookCatalog.Url.Parser

/-!
# Settings of the client

Where the catalog is, how long to wait for it, and how the client names itself.  Settings are
checked before they are used: the address must be one of the web, and the time to wait must not be
zero.
-/

namespace BookCatalog

/-- The settings of the client. -/
structure Config where
  /-- The address of the catalog's interface; requests go to `books` below it. -/
  baseUrl : String
  timeoutSeconds : Nat
  /-- How the client names itself, if not by its own name. -/
  userAgent : Option String
  deriving DecidableEq

namespace Config

/-- The address of a catalog on the same machine. -/
def defaultBaseUrl : String := "http://localhost:8080/api"

def defaultUserAgent : String := "bookshelf/0.1.0"

def default : Config := ⟨defaultBaseUrl, 30, none⟩

/-- The address of the catalog, if the settings can be used. -/
def validate (c : Config) : Except SearchError Url :=
  match Url.parse c.baseUrl with
  | .error e =>
    .error (.config ("invalid base_url " ++ Text.quoted c.baseUrl ++ ": " ++ e.message))
  | .ok (.other scheme) =>
    .error (.config ("base_url must use http or https, got " ++ String.ofList scheme))
  | .ok (.page url) =>
    if c.timeoutSeconds = 0 then .error (.config "timeout_seconds must be greater than 0")
    else .ok url

/-- The text of the address of all books: the base address without slashes at its end, and
`/books`. -/
def endpointText (c : Config) : String :=
  String.ofList (Text.dropEnd (· = '/') c.baseUrl.toList) ++ "/books"

/-- The address of all books. -/
def endpoint (c : Config) : Except SearchError Url :=
  match Url.parse c.endpointText with
  | .error e => .error (.config ("invalid books endpoint: " ++ e.message))
  | .ok (.other scheme) =>
    .error (.config ("base_url must use http or https, got " ++ String.ofList scheme))
  | .ok (.page url) => .ok url

/-- A character that the name of a client may hold: a tab, or no control character. -/
def isHeaderChar (c : Char) : Bool := c = '\t' || (0x20 ≤ c.toNat && c.toNat ≠ 0x7F)

/-- The name that the client gives itself, if a request can carry it. -/
def agent (c : Config) : Except SearchError String :=
  let name := c.userAgent.getD defaultUserAgent
  if name.toList.all isHeaderChar then .ok name
  else .error (.config "failed to build HTTP client: builder error")

end Config

end BookCatalog
