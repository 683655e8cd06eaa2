import AlertRelay.Http.Host

/-!
# Authorities

The authority of an address says who is addressed: a host, a service number at the host, and
before them possibly the name and password of a user. A default service number is left out. Only
an address without a user may have an empty host, and a special one may not.

## Main definitions

* `Authority` — host, service number and user
* `Authority.read` — the authority at the start of a text
* `Authority.anonymous` — the authority without its user
* `Authority.place` — host and service number
* `Authority.text` — the canonical text
-/

namespace AlertRelay.Http

/-- Whom an address is at; an empty host is none. -/
structure Authority where
  user : String
  password : Option String
  host : String
  service : Option Nat
  deriving DecidableEq, Repr

namespace Authority

/-- The authority of a host alone. -/
def ofHost (host : String) : Authority := { user := "", password := none, host, service := none }

/-! ### Users -/

/-- Name and password of a user, as they are shown; a password is what follows the first colon. -/
def readUser (cs : List Char) : String × Option String :=
  let shown := fun part => String.ofList (percentEncode userSet part)
  let name := cs.takeWhile (· != ':')
  let password := (cs.drop name.length).tail
  (shown name, if password.isEmpty then none else some (shown password))

/-- What precedes the last at sign, if there is one, and what follows it. -/
def splitUser (cs : List Char) : Option (List Char) × List Char :=
  let place := (cs.reverse.takeWhile (· != '@')).reverse
  if place.length < cs.length then (some (cs.take (cs.length - place.length - 1)), place)
  else (none, cs)

/-- The text before the at sign is one that names a user. -/
def hasUser (a : Authority) : Bool := a.user != "" || a.password.isSome

/-- The authority without its user, if what is written of the user is text. -/
def anonymous (a : Authority) : Authority :=
  let read := fun s : String => ofUtf8? (percentDecode s.toList)
  let isRead := (read a.user).isSome && (a.user != "" || (a.password.bind read).isSome)
  if isRead then { a with user := "", password := none } else a

/-! ### Hosts and services -/

/-- The host and what follows it; a colon between brackets belongs to the host. -/
def splitHost : Bool → List Char → List Char × List Char
  | _, [] => ([], [])
  | inside, c :: r =>
    if c = ':' && !inside then ([], c :: r)
    else
      let nested := c == '[' || (inside && c != ']')
      let (host, rest) := splitHost nested r
      (c :: host, rest)

/-- The service number after a colon, none when it is empty, and what follows it. -/
def readService : List Char → Option (Option Nat × List Char)
  | ':' :: r =>
    let digits := r.takeWhile Char.isDigit
    let rest := r.drop digits.length
    -- a backslash ends the number also where it is no slash
    if !rest.isEmpty && rest.head? != some '\\' then none
    else if digits.isEmpty then some (none, rest)
    else ((Address.readDigits 10 0 digits).filter (· < 65536)).map fun n => (some n, rest)
  | rest => some (none, rest)

/-- The authority that a text writes, and what follows it; a special address has a default service
number. What follows the text of the authority in the address tells whether that text ends there. -/
def read (default : Option Nat) (isLast : Bool) (cs : List Char) :
    Option (Authority × List Char) := do
  let (written, place) := splitUser cs
  let (user, password) := readUser (written.getD [])
  let (host, afterHost) := splitHost false place
  let shown ← if default.isSome then Host.read host else Host.readOpaque host
  let (service, rest) ← readService afterHost
  let authority : Authority :=
    { user, password, host := shown
      service := service.filter fun n => default != some n }
  let isAllowedEmpty :=
    !authority.hasUser && (written != some [] || isLast) && afterHost.head? != some ':'
  if shown.isEmpty && !(default.isNone && isAllowedEmpty) then none
  else return (authority, rest)

/-- The host with its service number: where a connection goes. -/
def place (a : Authority) : String :=
  a.host ++ (a.service.map fun n => ":" ++ toString n).getD ""

/-- The canonical text. -/
def text (a : Authority) : String :=
  let user := a.user ++ (a.password.map (":" ++ ·)).getD ""
  (if a.hasUser then user ++ "@" else "") ++ a.place

end Authority

end AlertRelay.Http
