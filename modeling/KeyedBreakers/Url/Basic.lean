import KeyedBreakers.Url.Authority
import KeyedBreakers.Url.Path

/-!
# Addresses

An absolute address in its normal form: the scheme in small letters, names of hosts in ASCII, parts
percent-encoded, default ports left out.

* `Url.chars`, `Url.text` — the address as it is written;
* `Url.hostText?` — its host, if it has one that is not empty;
* `Url.port?` — its port, if it is not the default of the scheme.
-/

namespace KeyedBreakers

open KeyedBreakers.Url

/-- An absolute address in normal form. -/
structure Url where
  scheme : String
  authority : Option Authority
  path : Path
  query : Option String := none
  fragment : Option String := none
deriving DecidableEq

namespace Url

/-- What stands between the scheme and the path: the authority after two slashes. Without an
authority a path that begins with two slashes is written after `/.`, lest it read as one. -/
def locationChars (u : Url) : List Char :=
  match u.authority with
  | some a => '/' :: '/' :: a.chars
  | none => match u.path.chars with
    | '/' :: '/' :: _ => ['/', '.']
    | _ => []

/-- A part that starts with a mark, if it is there. -/
def markedChars (mark : Char) : Option String → List Char
  | some text => mark :: text.toList
  | none => []

/-- The address as it is written. -/
def chars (u : Url) : List Char :=
  u.scheme.toList ++ ':' :: u.locationChars ++ u.path.chars ++ markedChars '?' u.query
    ++ markedChars '#' u.fragment

/-- The address as it is written. -/
def text (u : Url) : String :=
  String.ofList u.chars

/-- The host of the address. -/
def host? (u : Url) : Option Host :=
  u.authority.bind Authority.host

/-- The host of the address as it is written. -/
def hostText? (u : Url) : Option String :=
  u.host?.map Host.text

/-- The port of the address, unless it is the default of the scheme. -/
def port? (u : Url) : Option UInt16 :=
  u.authority.bind Authority.port

/-- The port at which the address is reached: its own, or the default of its scheme. -/
def effectivePort? (u : Url) : Option UInt16 :=
  u.port? <|> (Scheme.kind u.scheme).defaultPort?

end Url

end KeyedBreakers
