import AlertRelay.Http.Authority
import AlertRelay.Http.FilePath

/-!
# Addresses of resources

An absolute address in its canonical form: scheme in lowercase, host in its shown form, no default
service number, no dot segments in the path, and every character of the set of its part written as
bytes. There are three kinds of scheme. A web scheme always has an authority with a host, a file
has a host at most, and any other scheme has an authority if two slashes begin one. Web addresses
and files are special: a backslash is a slash in them.

## Main definitions

* `Url` — an address
* `Url.read` — the address of a text
* `Url.text` — the canonical text
* `Url.anonymous` — the address without its user
* `Url.isTarget` — the address can be written into a request
-/

namespace AlertRelay.Http

/-- An absolute address. -/
structure Url where
  scheme : String
  authority : Option Authority
  path : String
  query : Option String
  fragment : Option String
  deriving DecidableEq, Repr

namespace Url

/-! ### Schemes -/

/-- The web schemes with their default service numbers. -/
def webServices : List (String × Nat) :=
  [("http", 80), ("https", 443), ("ws", 80), ("wss", 443), ("ftp", 21)]

/-- A character of a scheme after the first. -/
def isSchemeChar (c : Char) : Bool := c.isAlphanum || c == '+' || c == '-' || c == '.'

/-- The scheme in lowercase and what follows its colon. -/
def splitScheme (cs : List Char) : Option (String × List Char) :=
  let name := cs.takeWhile isSchemeChar
  match name, cs.dropWhile isSchemeChar with
  | first :: _, ':' :: rest =>
    if first.isAlpha then some (String.ofList (name.map Char.toLower), rest) else none
  | _, _ => none

/-! ### Parts -/

/-- A slash; in a special address also the backslash. -/
def isSlash (isSpecial : Bool) (c : Char) : Bool := c == '/' || (isSpecial && c == '\\')

/-- A character that ends an authority. -/
def endsAuthority (isSpecial : Bool) (c : Char) : Bool :=
  isSlash isSpecial c || c == '?' || c == '#'

/-- The text without blanks and controls at its ends. -/
def trimmed (cs : List Char) : List Char :=
  let isBlank := fun c : Char => c.toNat ≤ 0x20
  ((cs.dropWhile isBlank).reverse.dropWhile isBlank).reverse

/-- The path, query and fragment of what follows an authority. -/
def splitTail (cs : List Char) : List Char × Option (List Char) × Option (List Char) :=
  let beforeHash := cs.takeWhile (· != '#')
  let path := beforeHash.takeWhile (· != '?')
  (path, (beforeHash.drop path.length).tail?, (cs.drop beforeHash.length).tail?)

/-- The text after the slash that it may begin with. -/
def afterSlash (isSpecial : Bool) (cs : List Char) : List Char :=
  if cs.head?.any (isSlash isSpecial) then cs.tail else cs

/-- The segments of a path that may begin with a slash. -/
def segments (isSpecial : Bool) (cs : List Char) : List (List Char) :=
  Path.read (isSlash isSpecial) (afterSlash isSpecial cs)

/-- The address with the given scheme, authority and path, and the query and fragment of a tail. -/
def assemble (isSpecial : Bool) (scheme : String) (authority : Option Authority) (path : String)
    (query fragment : Option (List Char)) : Url :=
  let shown := fun set cs => String.ofList (percentEncode set cs)
  { scheme
    authority
    path
    query := query.map (shown (querySet isSpecial))
    fragment := fragment.map (shown fragmentSet) }

/-! ### Kinds of scheme -/

/-- The address of a web scheme, after the colon. -/
def readWeb (scheme : String) (service : Nat) (cs : List Char) : Option Url := do
  -- however many slashes follow the colon, the authority comes next
  let body := cs.dropWhile (isSlash true)
  let written := body.takeWhile (!endsAuthority true ·)
  let rest := body.drop written.length
  let (authority, _) ← Authority.read (some service) rest.isEmpty written
  let (path, query, fragment) := splitTail rest
  return assemble true scheme (some authority) (Path.text (segments true path)) query fragment

/-- The host of a file; a file at hand has none. -/
def readFileHost (cs : List Char) : Option String :=
  if cs.isEmpty then some ""
  else (Host.read cs).map fun host => if host = "localhost" then "" else host

/-- The text after the slash that it begins with, breaks apart. -/
def afterFirstSlash? (cs : List Char) : Option (List Char) :=
  match cs.dropWhile isBreak with
  | c :: r => if isSlash true c then some r else none
  | [] => none

/-- The host of a file and the text of its path, query and fragment, after two slashes. The slash
before the path does not count after a host; where no host is named, a segment ends at it. -/
def splitFileHost (cs : List Char) : Option (String × List Char) :=
  let written := cs.takeWhile (!endsAuthority true ·)
  let rest := cs.drop written.length
  if Path.isDrive (unbroken written) then some ("", cs)
  else (readFileHost (unbroken written)).map fun host =>
    (host, if host.isEmpty then rest else afterSlash true rest)

/-- The host of a file and the text of its path, query and fragment, after the colon. -/
def splitFile (cs : List Char) : Option (String × List Char) :=
  match afterFirstSlash? cs with
  | none => some ("", cs)
  | some r =>
    match afterFirstSlash? r with
    | none => some ("", r)
    | some body => splitFileHost body

/-- The address of a file, after the colon; a path with a drive letter belongs to no host. -/
def readFile (scheme : String) (cs : List Char) : Option Url := do
  let (host, rest) ← splitFile cs
  let (written, query, fragment) := splitTail rest
  let path := FilePath.read (isSlash true) written
  let authority := Authority.ofHost (if path.hasDrive then "" else host)
  return assemble true scheme (some authority) (Path.text path.segments) (query.map unbroken)
    (fragment.map unbroken)

/-- The path of an address without an authority, after its first slash. Two slashes at its start
would begin an authority, so a segment of one dot comes before them. -/
def rootedPath (cs : List Char) : String :=
  let parts := Path.read (isSlash false) cs
  let isAmbiguous := parts.head?.any List.isEmpty && 1 < parts.length
  (if isAmbiguous then "/." else "") ++ Path.text parts

/-- The address of any other scheme, after the colon. -/
def readOther (scheme : String) (cs : List Char) : Option Url :=
  match cs with
  | '/' :: '/' :: body => do
    let written := body.takeWhile (!endsAuthority false ·)
    let rest := body.drop written.length
    let (authority, extra) ← Authority.read none rest.isEmpty written
    let (path, query, fragment) := splitTail (extra ++ rest)
    let shown := if path.isEmpty then "" else Path.text (segments false path)
    return assemble false scheme (some authority) shown query fragment
  | '/' :: body =>
    let (path, query, fragment) := splitTail body
    some (assemble false scheme none (rootedPath path) query fragment)
  | _ =>
    let (path, query, fragment) := splitTail cs
    some (assemble false scheme none (String.ofList (percentEncode isOutside path)) query fragment)

/-! ### Addresses -/

/-- The address of a text. -/
def read (s : String) : Option Url := do
  let inner := trimmed s.toList
  let (scheme, rest) ← splitScheme (unbroken inner)
  match webServices.lookup scheme with
  | some service => readWeb scheme service rest
  | none =>
    -- in the path of a file the breaks may count
    if scheme = "file" then readFile scheme (inner.dropWhile (· != ':')).tail
    else readOther scheme rest

/-- The address names a host. -/
def hasHost (u : Url) : Bool := u.authority.any (·.host != "")

/-- The address is one that requests are sent to. -/
def isHttp (u : Url) : Bool := u.scheme == "http" || u.scheme == "https"

/-- The address without its user. -/
def anonymous (u : Url) : Url := { u with authority := u.authority.map Authority.anonymous }

/-- The canonical text. -/
def text (u : Url) : String :=
  u.scheme ++ ":" ++ (u.authority.map ("//" ++ ·.text)).getD "" ++ u.path ++
    (u.query.map ("?" ++ ·)).getD "" ++ (u.fragment.map ("#" ++ ·)).getD ""

/-- The most bytes that the target of a request has. -/
def maxTargetBytes : Nat := 65534

/-- The address can be written into a request: its host has no character that a request may not
name, and the whole is not too long. -/
def isTarget (u : Url) : Bool :=
  let isRefused := fun c => "\"`\x7b\x7d".toList.contains c
  u.authority.all (!·.host.toList.any isRefused) && u.text.utf8ByteSize ≤ maxTargetBytes

end Url

end AlertRelay.Http
