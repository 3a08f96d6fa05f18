import BookCatalog.Url.Form
import BookCatalog.Url.Ip

/-!
# Addresses of the web

An address of a page: how it is fetched, from which host, and which page of it.  All parts are held
in their encoded form.  The path is held as its segments, of which there is at least one; the root
is the path of one empty segment.
-/

namespace BookCatalog

namespace Url

/-- A host: a name, or a number of one of two kinds. -/
inductive Host where
  | name (text : List Char)
  | ipv4 (address : Nat)
  | ipv6 (pieces : List Nat)
  deriving DecidableEq

def Host.write : Host → List Char
  | .name text => text
  | .ipv4 address => writeIpv4 address
  | .ipv6 pieces => '[' :: writeIpv6 pieces ++ [']']

end Url

/-- An address of the web. -/
structure Url where
  /-- Whether the page is fetched through an encrypted connection. -/
  secure : Bool
  user : List Char
  password : List Char
  host : Url.Host
  /-- The port, where it is not the usual one. -/
  port : Option Nat
  path : List (List Char)
  query : Option (List Char)
  fragment : Option (List Char)
  deriving DecidableEq

namespace Url

def schemeName (secure : Bool) : List Char :=
  if secure then ['h', 't', 't', 'p', 's'] else ['h', 't', 't', 'p']

def usualPort (secure : Bool) : Nat := if secure then 443 else 80

/-- A part behind its mark; nothing for a part that is not there. -/
def behind (mark : Char) : Option (List Char) → List Char
  | none => []
  | some part => mark :: part

/-- The user name and the password in front of a host. -/
def writeUser (url : Url) : List Char :=
  if url.user = [] && url.password = [] then []
  else url.user ++ (if url.password = [] then [] else ':' :: url.password) ++ ['@']

/-- A path: a slash in front of each segment. -/
def writePath (path : List (List Char)) : List Char := path.flatMap fun segment => '/' :: segment

def write (url : Url) : List Char :=
  schemeName url.secure ++ [':', '/', '/'] ++ url.writeUser ++ url.host.write ++
    behind ':' (url.port.map Decimal.digits) ++ writePath url.path ++ behind '?' url.query ++
    behind '#' url.fragment

def toText (url : Url) : String := String.ofList url.write

def withoutUser (url : Url) : Url := { url with user := [], password := [] }

/-- The address that a request names: without user name, password and fragment. -/
def requested (url : Url) : Url := { url.withoutUser with fragment := none }

/-! ## Queries -/

/-- An address with more pairs at the end of its query. -/
def addPairs (url : Url) (pairs : List (String × String)) : Url :=
  let added := Form.encode pairs
  { url with query := some (match url.query with
      | none => added
      | some [] => added
      | some query => query ++ '&' :: added) }

/-- The named values in the query of an address. -/
def pairs (url : Url) : List (String × String) := Form.decode (url.query.getD [])

/-! ## Paths -/

/-- A segment that stands for the place where it is. -/
def isDot (segment : List Char) : Bool :=
  segment = ['.'] || segment.map Char.toLower = ['%', '2', 'e']

/-- A segment that stands for the place above. -/
def isDoubleDot (segment : List Char) : Bool :=
  segment.map Char.toLower ∈ [
    ['.', '.'], ['.', '%', '2', 'e'], ['%', '2', 'e', '.'], ['%', '2', 'e', '%', '2', 'e']]

/-- A segment that names a drive: a letter before a colon or a bar. -/
def isDrive (segment : List Char) : Bool :=
  match segment with
  | [letter, mark] => letter.isAlpha && (mark = ':' || mark = '|')
  | _ => false

/-- The place above a path.  There is none above a drive, or above the root. -/
def above (path : List (List Char)) : List (List Char) :=
  if path.getLast?.any isDrive then path else path.dropLast

/-- A path followed by further segments, of which those made of dots move in the path; at the end
such a segment leaves an empty one. -/
def follow (path : List (List Char)) : List (List Char) → List (List Char)
  | [] => path
  | [s] =>
    if isDoubleDot s then above path ++ [[]]
    else if isDot s then path ++ [[]]
    else path ++ [s]
  | s :: t :: rest =>
    if isDoubleDot s then follow (above path) (t :: rest)
    else if isDot s then follow path (t :: rest)
    else follow (path ++ [s]) (t :: rest)

/-- A path without an empty segment at its end, unless it is the root. -/
def dropEmptyEnd (path : List (List Char)) : List (List Char) :=
  if 1 < path.length && path.getLast? = some [] then path.dropLast else path

/-- A path with one segment more; the empty segment of the root gives way to it. -/
def append (path : List (List Char)) (segment : List Char) : List (List Char) :=
  follow (if path = [[]] then [] else path) [segment]

def isTabOrNewline (c : Char) : Bool := c = '\t' || c = '\n' || c = '\r'

/-- An address with a text pushed to its path as one segment.  A text of one or two dots is not
pushed, and tabs and line ends are left out of what is. -/
def push (url : Url) (text : String) : Url :=
  let path := dropEmptyEnd url.path
  if text = "." || text = ".." then { url with path := path }
  else
    let segment := Percent.encode Percent.keepInSegment (text.toList.filter (!isTabOrNewline ·))
    { url with path := append path segment }

end Url

end BookCatalog
