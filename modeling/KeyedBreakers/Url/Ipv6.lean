import KeyedBreakers.Text.Digits
import KeyedBreakers.Text.Split

/-!
# IPv6 addresses in brackets

An address is eight groups of up to four hexadecimal digits. One `::` stands for one or more groups
of zeros, and the last two groups may be written as an IPv4 address with decimal bytes.

* `Ipv6.parse?` — the address that the text between the brackets denotes;
* `Ipv6.render` — small letters, no leading zeros, the first longest run of at least two zero groups
  as `::`.
-/

namespace KeyedBreakers.Url

open KeyedBreakers.Text

/-- An IPv6 address as its eight groups. -/
structure Ipv6 where
  groups : Vector UInt16 8
deriving DecidableEq

namespace Ipv6

/-! ### Reading -/

/-- The value of a group of one to four hexadecimal digits. -/
def readGroup? (group : List Char) : Option Nat :=
  if group.length ≤ 4 then readHexadecimal? group else none

/-- The value of one byte in decimal, without leading zeros. -/
def readByte? (part : List Char) : Option Nat :=
  if part.length ≤ 3 ∧ (part.head? = some '0' → part.length = 1) then
    (readDecimal? part).filter (· < 256)
  else none

/-- The two groups that an IPv4 address at the end of the text stands for. -/
def readEmbedded? (group : List Char) : Option (List Nat) := do
  match ← (pieces '.' group).mapM readByte? with
  | [a, b, c, d] => some [a * 256 + b, c * 256 + d]
  | _ => none

/-- The groups of a text without `::`; an empty text has none. Only at the end of the whole address
may an IPv4 address stand. -/
def readGroups? (atEnd : Bool) (text : List Char) : Option (List Nat) :=
  if text = [] then some []
  else
    let parts := pieces ':' text
    match parts.getLast? with
    | none => none
    | some last =>
      if atEnd && last.contains '.' then do
        let front ← parts.dropLast.mapM readGroup?
        return front ++ (← readEmbedded? last)
      else parts.mapM readGroup?

/-- The address with the given groups, if they are eight. -/
def ofGroups? (gs : List Nat) : Option Ipv6 :=
  if h : gs.length = 8 then some ⟨⟨(gs.map UInt16.ofNat).toArray, by simp [h]⟩⟩ else none

/-- The address that the text between the brackets denotes. -/
def parse? (text : List Char) : Option Ipv6 :=
  match cutAtText? [':', ':'] text with
  | none => readGroups? true text >>= ofGroups?
  | some (before, after) => do
    let front ← readGroups? false before
    let back ← readGroups? true after
    if front.length + back.length < 8 then
      ofGroups? (front ++ List.replicate (8 - front.length - back.length) 0 ++ back)
    else none

/-! ### Writing -/

/-- The length of the run of zeros at the head of the list. -/
def zerosAtHead (gs : List UInt16) : Nat :=
  (gs.takeWhile (· = 0)).length

/-- Start and length of the first longest run of zeros. -/
def longestZeros : (gs : List UInt16) → Nat × Nat
  | [] => (0, 0)
  | g :: gs =>
    let here := zerosAtHead (g :: gs)
    let (start, length) := longestZeros gs
    if length ≤ here then (0, here) else (start + 1, length)

/-- The groups in hexadecimal with colons between them. -/
def renderGroups (gs : List UInt16) : List Char :=
  joinWith [':'] (gs.map fun g => hexadecimal g.toNat)

/-- The shortest usual text of the address. -/
def render (a : Ipv6) : List Char :=
  let gs := a.groups.toList
  let (start, length) := longestZeros gs
  if length < 2 then renderGroups gs
  else renderGroups (gs.take start) ++ [':', ':'] ++ renderGroups (gs.drop (start + length))

end Ipv6

end KeyedBreakers.Url
