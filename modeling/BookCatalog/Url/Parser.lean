import BookCatalog.Text.Blank
import BookCatalog.Url.Basic
import BookCatalog.Url.Domain.Name

/-!
# Reading addresses

Addresses as browsers read them: space and control characters at the ends count for nothing, nor do
tabs and line ends anywhere; slashes may be backward ones; and what may not stand for itself is
percent-encoded.  An address with a scheme other than those of the web is checked, but only its
scheme is kept.
-/

namespace BookCatalog.Url

/-- What a text names: a page of the web, or something under another scheme. -/
inductive Target where
  | page (url : Url)
  | other (scheme : List Char)
  deriving DecidableEq

/-- A text without the characters that count for nothing. -/
def relevant (cs : List Char) : List Char :=
  (Text.strip (·.toNat ≤ 0x20) cs).filter (!isTabOrNewline ·)

def isSlash (c : Char) : Bool := c = '/' || c = '\\'

/-! ## Schemes -/

def isSchemeChar (c : Char) : Bool := c.isAlphanum || c = '+' || c = '-' || c = '.'

/-- The scheme in front of a text in lower case, and the text after its colon. -/
def scheme? (cs : List Char) : Option (List Char × List Char) :=
  match cs with
  | [] => none
  | c :: _ =>
    if c.isAlpha then
      match cs.span isSchemeChar with
      | (name, ':' :: rest) => some (name.map Char.toLower, rest)
      | _ => none
    else none

/-- How addresses of a scheme are built. -/
inductive Style where
  | web (secure : Bool)
  /-- Like the addresses of the web. -/
  | special
  | file
  /-- Any other scheme: only two slashes make what follows a host. -/
  | plain

def style (scheme : List Char) : Style :=
  if scheme = schemeName false then .web false
  else if scheme = schemeName true then .web true
  else if scheme = ['w', 's'] || scheme = ['w', 's', 's'] || scheme = ['f', 't', 'p'] then .special
  else if scheme = ['f', 'i', 'l', 'e'] then .file
  else .plain

/-! ## Hosts -/

def bracketed (cs : List Char) : Except Error Host :=
  if cs.getLast? ≠ some ']' then .error .badIpv6
  else match ipv6? (cs.drop 1).dropLast with
    | some pieces => .ok (.ipv6 pieces)
    | none => .error .badIpv6

def parseHost (cs : List Char) : Except Error Host :=
  if cs.head? = some '[' then bracketed cs
  else
    match (Utf8.decode? (Percent.decode cs)).bind Domain.toAscii? with
    | none => .error .badDomain
    | some [] => .error .emptyHost
    | some name =>
      if endsInNumber name then
        match ipv4? name with
        | some address => .ok (.ipv4 address)
        | none => .error .badIpv4
      else .ok (.name name)

/-- A character that the host of a scheme without rules of its own may not hold. -/
def isForbiddenInHost (c : Char) : Bool :=
  c ∈ ['\x00', '\t', '\n', '\r', ' ', '#', '/', ':', '<', '>', '?', '@', '[', '\\', ']', '^', '|']

/-- A host of a scheme without rules of its own. -/
def checkPlainHost (cs : List Char) : Except Error Unit :=
  if cs.head? = some '[' then (bracketed cs).map fun _ => ()
  else if cs.any isForbiddenInHost then .error .badHostCharacter
  else .ok ()

/-! ## Authorities -/

def endsAuthority (special : Bool) (c : Char) : Bool :=
  c = '/' || c = '?' || c = '#' || (special && c = '\\')

/-- The user and the password in front of the last `@`, if there is one, and the text after it. -/
def cutUser (special : Bool) (cs : List Char) : Option (List Char) × List Char :=
  let zone := cs.takeWhile (!endsAuthority special ·)
  let rest := cs.dropWhile (!endsAuthority special ·)
  match zone.reverse.span (· ≠ '@') with
  | (_, []) => (none, cs)
  | (host, _ :: user) => (some user.reverse, host.reverse ++ rest)

/-- The host in front of a text, up to a colon outside brackets or the end of the authority. -/
def cutHost (special : Bool) (inBrackets : Bool) : List Char → List Char × List Char
  | [] => ([], [])
  | c :: cs =>
    if endsAuthority special c || (c = ':' && !inBrackets) then ([], c :: cs)
    else
      let (host, rest) := cutHost special (c = '[' || (inBrackets && c ≠ ']')) cs
      (c :: host, rest)

/-- The port in front of a text that may start with a colon, and the text after it.  A port of no
digits is none. -/
def cutPort (cs : List Char) : Except Error (Option Nat × List Char) :=
  match cs with
  | ':' :: rest =>
    let digits := rest.takeWhile Char.isDigit
    let after := rest.dropWhile Char.isDigit
    let port := Decimal.value digits
    let ended := match after with
      | [] => true
      | c :: _ => isSlash c || c = '?' || c = '#'
    if 65535 < port || !ended then .error .badPort
    else .ok (if digits = [] then none else some port, after)
  | _ => .ok (none, cs)

/-- User, password, host and port of an address of the web, and the text after them. -/
def parseAuthority (cs : List Char) :
    Except Error (List Char × List Char × Host × Option Nat × List Char) := do
  let (credentials, rest) := cutUser true cs
  let (user, password) := Text.cutFirst ':' (credentials.getD [])
  let (host, rest) := cutHost true false rest
  if host = [] then .error .emptyHost
  else
    let host ← parseHost host
    let (port, rest) ← cutPort rest
    let encoded := Percent.encode Percent.keepInUser
    .ok (encoded user, encoded (password.getD []), host, port, rest)

/-- Checks the part with user and host of a scheme without rules of its own. -/
def checkPlainAuthority (cs : List Char) : Except Error Unit := do
  let (credentials, rest) := cutUser false cs
  let (host, rest) := cutHost false false rest
  let withUser := match credentials with
    | none => false
    | some [] => rest ≠ []
    | some user => user ≠ [':']
  checkPlainHost host
  if host = [] && (rest.head? = some ':' || withUser) then .error .emptyHost
  else
    let _ ← cutPort rest
    .ok ()

/-- Checks what follows the scheme of an address of a file: after two slashes there is a host. -/
def checkFile (cs : List Char) : Except Error Unit :=
  match cs with
  | a :: b :: rest =>
    if isSlash a && isSlash b then
      let host := rest.takeWhile (!endsAuthority true ·)
      match host with
      | [] => .ok ()
      | _ => if isDrive host then .ok () else (parseHost host).map fun _ => ()
    else .ok ()
  | _ => .ok ()

/-! ## Paths, queries and fragments -/

/-- A part of an address up to one of the marks that end it, and the text from there on. -/
def cutPart (isMark : Char → Bool) (cs : List Char) : List Char × List Char :=
  (cs.takeWhile (!isMark ·), cs.dropWhile (!isMark ·))

def segments (cs : List Char) : List (List Char) :=
  (Text.cut '/' (cs.map fun c => if c = '\\' then '/' else c)).map
    (Percent.encode Percent.keepInPath)

/-- The query and the fragment at the end of an address. -/
def parseEnd (cs : List Char) : Option (List Char) × Option (List Char) :=
  let fragment := fun cs : List Char =>
    match cs with
    | '#' :: rest => some (Percent.encode Percent.keepInFragment rest)
    | _ => none
  match cs with
  | '?' :: rest =>
    let (query, rest) := cutPart (· = '#') rest
    (some (Percent.encode Percent.keepInQuery query), fragment rest)
  | _ => (none, fragment cs)

/-- An address with a path that follows a given one, and with the query and fragment after it. -/
def withPath (url : Url) (start : List (List Char)) (cs : List Char) : Url :=
  let (path, rest) := cutPart (fun c => c = '?' || c = '#') cs
  let (query, fragment) := parseEnd rest
  { url with path := follow start (segments path), query := query, fragment := fragment }

def dropSlash (cs : List Char) : List Char :=
  match cs with
  | c :: rest => if isSlash c then rest else cs
  | [] => []

/-- The page that a text names after its scheme and slashes. -/
def parsePage (secure : Bool) (cs : List Char) : Except Error Url := do
  let (user, password, host, port, rest) ← parseAuthority cs
  let url : Url :=
    { secure := secure, user := user, password := password, host := host
      port := port.filter (· ≠ usualPort secure), path := [], query := none, fragment := none }
  .ok (url.withPath [] (dropSlash rest))

/-! ## Whole texts -/

/-- What a text names after a scheme. -/
def parseAfterScheme (scheme rest : List Char) : Except Error Target :=
  match style scheme with
  | .web secure => (parsePage secure (rest.dropWhile isSlash)).map .page
  | .special => (parseAuthority (rest.dropWhile isSlash)).map fun _ => .other scheme
  | .file => (checkFile rest).map fun _ => .other scheme
  | .plain =>
    match rest with
    | '/' :: '/' :: authority => (checkPlainAuthority authority).map fun _ => .other scheme
    | _ => .ok (.other scheme)

def parse (text : String) : Except Error Target :=
  match scheme? (relevant text.toList) with
  | some (scheme, rest) => parseAfterScheme scheme rest
  | none => .error .noBase

/-! ## References -/

/-- What a text without scheme names on a page. -/
def resolveRelative (base : Url) (cs : List Char) : Except Error Url :=
  match cs with
  | [] => .ok { base with fragment := none }
  | '?' :: _ =>
    let (query, fragment) := parseEnd cs
    .ok { base with query := query, fragment := fragment }
  | '#' :: _ => .ok { base with fragment := (parseEnd cs).2 }
  | c :: rest =>
    if isSlash c then
      match rest with
      | d :: _ =>
        if isSlash d then parsePage base.secure (rest.dropWhile isSlash)
        else .ok (base.withPath [] rest)
      | [] => .ok (base.withPath [] [])
    else .ok (base.withPath base.path.dropLast cs)

/-- What a text names on a page: a page by its full address, or one relative to it. -/
def resolve (base : Url) (text : String) : Except Error Target :=
  match scheme? (relevant text.toList) with
  | none => (resolveRelative base (relevant text.toList)).map .page
  | some (scheme, rest) =>
    if scheme = schemeName base.secure && (rest.takeWhile isSlash).length < 2 then
      (resolveRelative base rest).map .page
    else parseAfterScheme scheme rest

end BookCatalog.Url
