import KeyedBreakers.Url.Parser

/-!
# Targets of calls

The target of a call is an address together with the port as it was written. The address forgets a
port that is the default of its scheme; a caller who wrote one may mean a breaker of its own, so the
port is looked for in the text again when the address has none.

That search is a plain scan: after the first `://`, up to the first slash, question mark or hash
sign, after the last `@`, and there after the last closing bracket or, without one, after the last
colon. It does not know what the reading of addresses ignores or rearranges.

* `portAsWritten?` — the port that the scan finds;
* `Target.parse` — the target that a text denotes;
* `Target.ofUrl` — the target of an address, in its normal form.
-/

namespace KeyedBreakers

open KeyedBreakers.Text

/-- The remote target of a call. -/
structure Target where
  url : Url
  /-- The port of the address or, failing that, the one written in the text. -/
  port : Option UInt16
  /-- The text that the target was made from. -/
  written : String
deriving DecidableEq

namespace Target

/-- Whether a character ends the part of a text in which a port is looked for. -/
def endsHostAndPort (c : Char) : Bool :=
  c == '/' || c == '?' || c == '#'

/-- The text after the last `@`, or the whole text. -/
def afterCredentials (text : List Char) : List Char :=
  match cutLast? '@' text with
  | some (_, after) => after
  | none => text

/-- The text after the colon that starts the port: directly after the last closing bracket if there
is one, otherwise the last colon. -/
def afterPortColon? (text : List Char) : Option (List Char) :=
  match cutLast? ']' text with
  | some (_, ':' :: port) => some port
  | some _ => none
  | none => (cutLast? ':' text).map (·.2)

/-- The port written in a text. -/
def portAsWritten? (text : List Char) : Option UInt16 := do
  let (_, rest) ← cutAtText? [':', '/', '/'] text
  let port ← afterPortColon? (afterCredentials (rest.takeWhile (!endsHostAndPort ·)))
  (readBounded? 65535 port).map UInt16.ofNat

/-- The target that a text denotes. -/
def parse (text : String) : Except UrlError Target := do
  let url ← Url.parse text
  return ⟨url, url.port? <|> portAsWritten? text.toList, text⟩

/-- The target of an address, with the port that the address has. -/
def ofUrl (url : Url) : Target :=
  ⟨url, url.port?, url.text⟩

/-- The host of the target, if it has one. -/
def host? (t : Target) : Option String :=
  t.url.hostText?

/-- Targets are the same when their addresses are written alike, their ports are equal and they were
made from the same text. -/
def isSame (a b : Target) : Bool :=
  a.url.text = b.url.text && a.port = b.port && a.written = b.written

end Target

end KeyedBreakers
