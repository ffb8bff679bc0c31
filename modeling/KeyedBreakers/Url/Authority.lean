import KeyedBreakers.Text.Split
import KeyedBreakers.Url.Host
import KeyedBreakers.Url.Scheme

/-!
# The authority of an address

The part of an address that names the host, with the credentials of a user before it and a port
after it. The last `@` ends the credentials, so a user name may hold others; a colon starts the port
unless it stands inside brackets. A port that is the default of the scheme is as good as none.

* `Credentials.read` — user name and password, percent-encoded;
* `cutPort` — host and port as written;
* `Authority.parse` — the authority that a text denotes;
* `Authority.chars` — how it is written.
-/

namespace KeyedBreakers.Url

open KeyedBreakers.Text

/-- User name and password, percent-encoded. -/
structure Credentials where
  username : String := ""
  password : String := ""
deriving DecidableEq

namespace Credentials

/-- Whether there is anything to write. -/
def isWritten (c : Credentials) : Bool :=
  c.username ≠ "" || c.password ≠ ""

/-- The credentials with the `@` that ends them; empty ones are not written. -/
def chars (c : Credentials) : List Char :=
  if c.isWritten then
    let password := if c.password = "" then [] else ':' :: c.password.toList
    c.username.toList ++ password ++ ['@']
  else []

/-- The credentials in the text before the `@`; the first colon starts the password. -/
def read (text : List Char) : Credentials :=
  let encoded (cs : List Char) := String.ofList (encode EncodeSet.userinfo cs)
  match cutFirst? ':' text with
  | some (username, password) => ⟨encoded username, encoded password⟩
  | none => ⟨encoded text, ""⟩

end Credentials

/-- The part of an address that names the host. -/
structure Authority where
  credentials : Credentials := {}
  /-- Absent in addresses such as those of local files. -/
  host : Option Host := none
  /-- The port, unless it is the default of the scheme. -/
  port : Option UInt16 := none
deriving DecidableEq

/-- The texts before and after the colon that starts the port; `inside` tells whether the text
starts inside brackets. -/
def cutPort (inside : Bool) : List Char → List Char × Option (List Char)
  | [] => ([], none)
  | c :: cs =>
    if c = ':' ∧ inside = false then ([], some cs)
    else
      let inside := if c = '[' then true else if c = ']' then false else inside
      let (host, port) := cutPort inside cs
      (c :: host, port)

/-- The port at the head of a text and what follows it, which can only start with a backslash. -/
def readPort (text : List Char) : Except UrlError (Option UInt16 × List Char) :=
  let digits := text.takeWhile Char.isDigit
  let rest := text.dropWhile Char.isDigit
  if rest ≠ [] ∧ rest.head? ≠ some '\\' then .error .invalidPort
  else match readDecimal? digits with
    | none => .ok (none, rest)
    | some n => if n < 65536 then .ok (some (UInt16.ofNat n), rest) else .error .invalidPort

namespace Authority

/-- Separates the credentials from the host and port. An `@` with nothing around it inside an
address leaves no host. -/
def splitCredentials (followed : Bool) (text : List Char) :
    Except UrlError (Credentials × List Char) :=
  match cutLast? '@' text with
  | none => .ok ({}, text)
  | some ([], location) =>
    if location = [] ∧ followed then .error .emptyHost else .ok ({}, location)
  | some (before, location) => .ok (Credentials.read before, location)

/-- The authority that a text denotes under a scheme, and what is left of the text for the path.
`followed` tells whether the address goes on after the text. -/
def parse (kind : SchemeKind) (followed : Bool) (text : List Char) :
    Except UrlError (Authority × List Char) := do
  let (credentials, location) ← splitCredentials followed text
  let (hostText, portText?) := cutPort false location
  if hostText = [] then
    if kind.isSpecial || portText?.isSome || credentials.isWritten then .error .emptyHost
    else .ok ({}, [])
  else
    let host ← Host.parse kind.isSpecial hostText
    let (port?, rest) ← readPort (portText?.getD [])
    let port? := if port? = kind.defaultPort? then none else port?
    .ok (⟨credentials, some host, port?⟩, rest)

/-- The authority as it is written after two slashes. -/
def chars (a : Authority) : List Char :=
  let host := match a.host with
    | some h => h.chars
    | none => []
  let port := match a.port with
    | some p => ':' :: decimal p.toNat
    | none => []
  a.credentials.chars ++ host ++ port

end Authority

end KeyedBreakers.Url
