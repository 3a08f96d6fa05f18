import BookCatalog.Catalog.Status
import BookCatalog.Url.Parser

/-!
# Fetching pages

A catalog is what it replies to each address.  Fetching a page follows redirects, ten at most, and
keeps the list of the requests that arrived.  Some addresses that can be written cannot be put into
a request; a redirect to one of them is not followed.
-/

namespace BookCatalog

structure Answer where
  status : Nat
  /-- Where the page is to be found instead. -/
  location : Option String
  body : List UInt8
  /-- Whether the body arrived to its end. -/
  complete : Bool
  deriving DecidableEq

/-- What becomes of a request. -/
inductive Reply where
  /-- The request does not arrive. -/
  | unreachable
  /-- The request arrives and is not answered. -/
  | dropped
  | answered (answer : Answer)
  deriving DecidableEq

/-- A catalog: the reply to a request for each address. -/
abbrev Catalog := Url → Reply

/-- Something that makes requests; it keeps those that arrived, in order. -/
abbrev Web (α : Type) := StateM (List Url) α

/-- A failure to get an answer. -/
inductive FetchError where
  /-- No request can be made for this address. -/
  | building (page : Url)
  /-- No answer to a request.  The address is the one that was first asked for, also where redirects
  led away from it before a later request failed. -/
  | sending (first : Url)
  /-- One redirect too many, from this page. -/
  | following (page : Url)
  deriving DecidableEq

def FetchError.message : FetchError → String
  | .building page => "builder error for url (" ++ page.toText ++ ")"
  | .sending first => "error sending request for url (" ++ first.toText ++ ")"
  | .following page => "error following redirect for url (" ++ page.toText ++ ")"

namespace Catalog

/-- The length that the written form of an address may have in a request. -/
def maxLength : Nat := 65534

/-- A character that a host may have in an address, but not in a request. -/
def isUnsendable (c : Char) : Bool := c = '"' || c = '\x60' || c = '\x7b' || c = '\x7d'

def canRequest (url : Url) : Bool :=
  url.write.length ≤ maxLength && !url.host.write.any isUnsendable

def maxRedirects : Nat := 10

def send (catalog : Catalog) (url : Url) : Web Reply := do
  let reply := catalog url.requested
  if reply ≠ .unreachable then modify (· ++ [url.requested])
  return reply

/-- Where an answer sends on to, if it does. -/
def redirect? (page : Url) (answer : Answer) : Option Url.Target :=
  if Status.isRedirect answer.status then
    answer.location.bind fun location =>
      match Url.resolve page location with
      | .ok (.page next) => if canRequest next then some (.page next) else none
      | .ok (.other scheme) => some (.other scheme)
      | .error _ => none
  else none

/-- Where a reply to a request leaves a fetch: at its end, or on the way to another page. -/
inductive Hop where
  | ending (result : Except FetchError Answer)
  | onward (next : Url)

/-- Where a reply to the request for a page leaves a fetch of the address first asked for.

Two things are assumed here of what makes the requests.  A page that cannot be reached, or whose
answer does not come, fails the fetch in the same words at every hop, and these name the address
first asked for and not the page.  So does a redirect to an address of another scheme: it is
followed, no request can be made there, and the failure again names the first address. -/
def hop (first page : Url) : Reply → Hop
  | .answered answer =>
    match redirect? page answer with
    | none => .ending (.ok answer)
    | some (.other _) => .ending (.error (.sending first))
    | some (.page next) => .onward next
  | _ => .ending (.error (.sending first))

/-- Fetches a page with so many redirects left, on the way from the address first asked for. -/
def follow (catalog : Catalog) (first : Url) : Nat → Url → Web (Except FetchError Answer)
  | 0, page => do
    match hop first page (← catalog.send page) with
    | .ending result => return result
    | .onward _ => return .error (.following page)
  | left + 1, page => do
    match hop first page (← catalog.send page) with
    | .ending result => return result
    | .onward next => follow catalog first left next

def fetch (catalog : Catalog) (url : Url) : Web (Except FetchError Answer) :=
  if canRequest url then catalog.follow url maxRedirects url else return .error (.building url)

end Catalog

end BookCatalog
