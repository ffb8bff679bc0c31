import KeyedBreakers.Url.Domain
import KeyedBreakers.Url.Error
import KeyedBreakers.Url.Ipv4
import KeyedBreakers.Url.Ipv6

/-!
# Hosts

The host of an address is an IPv6 address in brackets or a name. What a name means depends on the
scheme: for the schemes with rules of their own it is a domain name, or an IPv4 address if its last
label is a number; for all others it is any text without delimiters, kept as it stands.

* `Host.parseBracketed` — the literal between brackets;
* `Host.parseDomain`, `Host.parseVerbatim` — the two readings of a name;
* `Host.text` — the host as it is written in an address.
-/

namespace KeyedBreakers.Url

/-- The host of an address. -/
inductive Host where
  | domain (name : String)
  | ipv4 (address : Ipv4)
  | ipv6 (address : Ipv6)
  /-- A name that no rule of domain names applies to. -/
  | verbatim (name : String)
deriving DecidableEq

namespace Host

/-- The host as it is written in an address. -/
def chars : Host → List Char
  | domain name => name.toList
  | ipv4 address => address.render
  | ipv6 address => '[' :: address.render ++ [']']
  | verbatim name => name.toList

/-- The host as it is written in an address. -/
def text (h : Host) : String :=
  String.ofList h.chars

/-- The characters that no host has, whatever the scheme. -/
def isForbidden (c : Char) : Bool :=
  c == '\x00' || c == '\t' || c == '\n' || c == '\r' || c == ' ' || c == '#' || c == '/' || c == ':'
    || c == '<' || c == '>' || c == '?' || c == '@' || c == '[' || c == '\\' || c == ']' || c == '^'
    || c == '|'

/-- The address in a text that begins with `[`; the bracket must be closed at the end. -/
def parseBracketed (cs : List Char) : Except UrlError Host :=
  if cs.getLast? = some ']' then
    match Ipv6.parse? cs.tail.dropLast with
    | some address => .ok (.ipv6 address)
    | none => .error .invalidIpv6
  else .error .invalidIpv6

/-- The host that a name denotes under a scheme whose hosts are domain names. -/
def parseDomain (cs : List Char) : Except UrlError Host :=
  match decode? cs >>= toAscii? with
  | none => .error .invalidInternationalName
  | some [] => .error .emptyHost
  | some name =>
    if Ipv4.endsInNumber name then
      match Ipv4.parse? name with
      | some address => .ok (.ipv4 address)
      | none => .error .invalidIpv4
    else .ok (.domain (String.ofList name))

/-- The host that a name denotes under any other scheme: itself, with controls and characters
outside ASCII percent-encoded. -/
def parseVerbatim (cs : List Char) : Except UrlError Host :=
  if cs.any isForbidden then .error .invalidDomainCharacter
  else .ok (.verbatim (String.ofList (encode EncodeSet.controls cs)))

/-- The host that a text denotes; `domains` tells whether names are domain names. -/
def parse (domains : Bool) (cs : List Char) : Except UrlError Host :=
  match cs with
  | '[' :: _ => parseBracketed cs
  | _ => if domains then parseDomain cs else parseVerbatim cs

end Host

end KeyedBreakers.Url
