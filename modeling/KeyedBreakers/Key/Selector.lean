import KeyedBreakers.Call.Basic
import KeyedBreakers.Json.Printer
import KeyedBreakers.Key.Basic
import KeyedBreakers.Key.Error
import KeyedBreakers.Key.Strategy

/-!
# Selectors

A selector derives the key of a call, or says why the call has none. It sees the call and nothing
else, so equal calls have equal keys. A call that lacks what a selector needs is refused; it never
falls back to another key.

* `byOperation`, `byTarget`, `byTargetAndOperation` — the presets; the last joins the keys of the
  other two with `#`, which occurs in no host and no port;
* `Strategy.select` — the preset that a strategy names;
* `byAttribute`, `byArgument`, `byTimeout`, `byEndpoint`, `refusing` — selectors by other parts of a
  call.
-/

namespace KeyedBreakers

open KeyedBreakers.Text

/-- Derives the key of a call. -/
abbrev Selector (K : Type) := Call → Except KeyError K

namespace Selector

/-! ### Presets -/

/-- The operation. -/
def byOperation : Selector String := fun call =>
  if call.operation = "" then .error .missingOperation else .ok call.operation

/-- A host, and after a colon the port if there is one. -/
def hostAndPort (host : String) : Option UInt16 → String
  | some port => host ++ ":" ++ String.ofList (decimal port.toNat)
  | none => host

/-- The host of the target, with the port if one was given. -/
def byTarget : Selector String := fun call =>
  match call.target.host? with
  | some host => .ok (hostAndPort host call.target.port)
  | none => .error (.missingHost call.target.written)

/-- The key by target and the key by operation with `#` between them. -/
def byTargetAndOperation : Selector String := fun call => do
  let target ← byTarget call
  let operation ← byOperation call
  return target ++ "#" ++ operation

/-! ### Selectors by other parts of a call -/

/-- The value of an attribute of the options. -/
def byAttribute (name : String) : Selector String := fun call =>
  match call.options.attribute? name with
  | some value => .ok value
  | none => .error (.custom ("no " ++ name ++ " attribute"))

/-- An argument: a text as it is, any other value in its compact form. -/
def byArgument (index : Nat) : Selector String := fun call =>
  match call.arguments[index]? with
  | some (.text s) => .ok s
  | some value => .ok value.compact
  | none => .error (.custom ("no argument " ++ String.ofList (decimal index)))

/-- The response timeout in milliseconds. -/
def byTimeout : Selector String := fun call =>
  match call.options.timeout with
  | some milliseconds => .ok (String.ofList (decimal milliseconds) ++ "ms")
  | none => .ok "none"

/-- The host and the port of the target as a key of two parts. -/
def byEndpoint : Selector Endpoint := fun call =>
  match call.target.host? with
  | some host => .ok ⟨host, call.target.port⟩
  | none => .error (.missingHost call.target.written)

/-- Refuses every call. -/
def refusing {K : Type} (cause : String) : Selector K := fun _ =>
  .error (.custom cause)

/-- The selector with its keys in another form. -/
def map {K L : Type} (f : K → L) (selector : Selector K) : Selector L := fun call =>
  (selector call).map f

end Selector

/-- The selector that a strategy names. -/
def Strategy.select : Strategy → Selector String
  | operation => Selector.byOperation
  | target => Selector.byTarget
  | targetAndOperation => Selector.byTargetAndOperation

end KeyedBreakers
