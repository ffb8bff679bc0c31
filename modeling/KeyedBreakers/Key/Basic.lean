import KeyedBreakers.Text.Quoted

/-!
# Keys and how they are shown

Messages show a key so that it can be told from every other and cannot break the line: a text
between quotation marks, an endpoint as a pair of its host and its port. Answers that list keys have
them in ascending order.

* `RegistryKey` — how the keys of a type are shown and listed;
* `Endpoint` — a destination as a key of two parts;
* `Key` — a key of either form.
-/

namespace KeyedBreakers

open KeyedBreakers.Text

/-- How the values of a type are shown and listed as keys. -/
class RegistryKey (K : Type) where
  /-- The key as messages show it. -/
  shown : K → String
  /-- Whether the first key comes before the second or is the same, where keys are listed. -/
  precedes : K → K → Bool

/-- A destination as a key: its host and, if one was given, its port. -/
structure Endpoint where
  host : String
  port : Option UInt16
deriving DecidableEq

/-- A port as a part of a shown endpoint. -/
def shownPort : Option UInt16 → String
  | some p => "Some(" ++ String.ofList (decimal p.toNat) ++ ")"
  | none => "None"

/-- The endpoint as messages show it. -/
def Endpoint.shown (e : Endpoint) : String :=
  "(" ++ Quoted.encode e.host ++ ", " ++ shownPort e.port ++ ")"

/-- Endpoints are listed by host; of those with one host the one without a port comes first. -/
def Endpoint.precedes (a b : Endpoint) : Bool :=
  if a.host = b.host then
    match a.port, b.port with
    | none, _ => true
    | some _, none => false
    | some p, some q => p ≤ q
  else a.host < b.host

instance : RegistryKey String where
  shown := Quoted.encode
  precedes a b := a ≤ b

instance : RegistryKey Endpoint where
  shown := Endpoint.shown
  precedes := Endpoint.precedes

/-- A key of a registry whose keys are texts, or of one whose keys are endpoints. -/
inductive Key where
  | text (name : String)
  | endpoint (e : Endpoint)
deriving DecidableEq

/-- The key as messages show it. -/
def Key.shown : Key → String
  | text name => Quoted.encode name
  | endpoint e => e.shown

/-- Texts are listed before endpoints; no registry has both. -/
def Key.precedes : Key → Key → Bool
  | text a, text b => a ≤ b
  | text _, endpoint _ => true
  | endpoint _, text _ => false
  | endpoint a, endpoint b => a.precedes b

instance : RegistryKey Key where
  shown := Key.shown
  precedes := Key.precedes

end KeyedBreakers
