import KeyedBreakers.Text.Digits
import KeyedBreakers.Text.Split

/-!
# IPv4 addresses in host names

A host name whose last label is a number is an IPv4 address or nothing. Each of the up to four parts
may be written in decimal, in octal after a `0`, or in hexadecimal after `0x`; the last part fills
all the bytes that remain, so `127.1` and `2130706433` are the same address.

* `endsInNumber` — whether the last label is a number;
* `Ipv4.parse?` — the address that such a name denotes;
* `Ipv4.render` — four decimal numbers with points between them.
-/

namespace KeyedBreakers.Url

open KeyedBreakers.Text

/-- An IPv4 address as one number of 32 bits. -/
structure Ipv4 where
  address : UInt32
deriving DecidableEq, Repr

namespace Ipv4

/-- The digits of a part and the base they are in. -/
def splitBase : List Char → Nat × List Char
  | '0' :: 'x' :: ds => (16, ds)
  | '0' :: 'X' :: ds => (16, ds)
  | '0' :: d :: ds => (8, d :: ds)
  | ds => (10, ds)

/-- The value of a part of an address. After `0x` no digits mean zero; an empty part has no value. -/
def readPart? (part : List Char) : Option Nat :=
  if part = [] then none
  else
    let (base, digits) := splitBase part
    if digits.all (fun c => match hexDigit? c with
      | some d => d < base
      | none => false)
    then some (valueInBase base hexDigit? digits) else none

/-- The parts between the points, without an empty one at the end. -/
def partsOf (name : List Char) : List (List Char) :=
  let parts := pieces '.' name
  if parts.getLast? = some [] then parts.dropLast else parts

/-- Whether the last nonempty label of the name is a number. -/
def endsInNumber (name : List Char) : Bool :=
  match (partsOf name).getLast? with
  | some last => (last ≠ [] ∧ last.all Char.isDigit) || (readPart? last).isSome
  | none => false

/-- The address whose leading bytes are `leading` and whose remaining bytes hold `last`. -/
def assemble? (leading : List Nat) (last : Nat) : Option Ipv4 :=
  if leading.all (· < 256) ∧ last < Nat.pow 256 (4 - leading.length) then
    let high := leading.foldl (fun n b => n * 256 + b) 0
    some ⟨UInt32.ofNat (high * Nat.pow 256 (4 - leading.length) + last)⟩
  else none

/-- The address that a name ending in a number denotes. -/
def parse? (name : List Char) : Option Ipv4 :=
  let parts := partsOf name
  if 4 < parts.length then none
  else do
    let numbers ← parts.mapM readPart?
    let last ← numbers.getLast?
    assemble? numbers.dropLast last

/-- The four bytes, the most significant first. -/
def bytes (a : Ipv4) : List Nat :=
  let n := a.address.toNat
  [n / Nat.pow 256 3, n / Nat.pow 256 2 % 256, n / 256 % 256, n % 256]

/-- Four decimal numbers with points between them. -/
def render (a : Ipv4) : List Char :=
  joinWith ['.'] (a.bytes.map decimal)

end Ipv4

end KeyedBreakers.Url
