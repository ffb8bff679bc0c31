/-!
# Schemes

An address begins with the name of its scheme and a colon. A few schemes have rules of their own:
their hosts are domain names, they have a default port that is never written, and a backslash counts
as a slash. Addresses of files have no port at all.

* `Scheme.split?` — the scheme at the head of a text;
* `Scheme.kind` — the rules that a scheme follows.
-/

namespace KeyedBreakers.Url

/-- The rules that the addresses of a scheme follow. -/
inductive SchemeKind where
  /-- Domain names, and this default port. -/
  | special (defaultPort : UInt16)
  /-- Paths of files. -/
  | file
  /-- No rules beyond the general ones. -/
  | other
deriving DecidableEq

namespace SchemeKind

/-- Whether hosts are domain names and a backslash is a slash. -/
def isSpecial : SchemeKind → Bool
  | special _ => true
  | file => true
  | other => false

/-- The port that is not written. -/
def defaultPort? : SchemeKind → Option UInt16
  | special port => some port
  | _ => none

/-- Whether a character separates the segments of a path. -/
def isSlash (kind : SchemeKind) (c : Char) : Bool :=
  c == '/' || (kind.isSpecial && c == '\\')

/-- Whether a character ends the part of an address that names the host. -/
def endsAuthority (kind : SchemeKind) (c : Char) : Bool :=
  kind.isSlash c || c == '?' || c == '#'

end SchemeKind

namespace Scheme

/-- The rules of the scheme with the given name in small letters. -/
def kind (name : String) : SchemeKind :=
  match name with
  | "http" | "ws" => .special 80
  | "https" | "wss" => .special 443
  | "ftp" => .special 21
  | "file" => .file
  | _ => .other

/-- Whether a character may stand in the name of a scheme after the first letter. -/
def isNameChar (c : Char) : Bool :=
  c.isAlphanum || c == '+' || c == '-' || c == '.'

/-- The name of the scheme at the head of the text, in small letters, and what follows its colon. -/
def split? : List Char → Option (List Char × List Char)
  | [] => none
  | c :: cs =>
    if c.isAlpha then
      match cs.dropWhile isNameChar with
      | ':' :: rest => some ((c :: cs.takeWhile isNameChar).map Char.toLower, rest)
      | _ => none
    else none

end Scheme

end KeyedBreakers.Url
