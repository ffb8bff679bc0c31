import KeyedBreakers.Text.Digits

/-!
# The shortest decimal of a binary fraction

A double-precision number is written with the fewest significant digits that read back as the same
number; of two such decimals the one nearer to the number is taken.

The number is `m · 2 ^ q`. The reals that round to it form an interval around it, with its ends if
`m` is even. For one, two, … seventeen digits the two neighbours of the number on the decimal grid
with that many digits are tried, in exact arithmetic on naturals, and the first grid with a
neighbour in the interval wins: a grid that meets the interval has one of the two neighbours in it.

* `Binary.ofFloat` — the parts of a double;
* `Binary.shortest` — digits and exponent of the shortest decimal;
* `Decimal.positional` — the decimal written out with all its zeros.
-/

namespace KeyedBreakers

open KeyedBreakers.Text

/-- A decimal fraction `digits · 10 ^ exponent`. -/
structure Decimal where
  digits : Nat
  exponent : Int
deriving DecidableEq, Repr

namespace Decimal

/-- A positive binary fraction `mantissa · 2 ^ exponent`; `lowest` tells that the mantissa is the
least of its binade, so that the gap below is half the gap above. -/
structure Binary where
  mantissa : Nat
  exponent : Int
  lowest : Bool

/-- What a double stands for. -/
inductive Reading where
  | notANumber
  | infinite (negative : Bool)
  | finite (negative : Bool) (size : Binary)

/-- Takes a double apart into sign, exponent and mantissa. -/
def Reading.ofFloat (x : Float) : Reading :=
  let bits := x.toBits.toNat
  let negative := bits / Nat.pow 2 63 = 1
  let exponent : Nat := bits / Nat.pow 2 52 % Nat.pow 2 11
  let fraction := bits % Nat.pow 2 52
  if exponent = 2047 then
    if fraction = 0 then .infinite negative else .notANumber
  else if exponent = 0 then .finite negative ⟨fraction, -1074, false⟩
  else
    let mantissa := fraction + Nat.pow 2 52
    .finite negative ⟨mantissa, (exponent : Int) - 1075, fraction = 0 && 1 < exponent⟩

namespace Binary

/-- Four times the mantissa and its bounds, over the common denominator `den`. -/
structure Scaled where
  low : Nat
  value : Nat
  high : Nat
  den : Nat

/-- The number and the ends of its interval as fractions with one denominator. -/
def scaled (b : Binary) : Scaled :=
  let up := Nat.pow 2 (b.exponent - 2).toNat
  let value := 4 * b.mantissa
  ⟨(value - if b.lowest then 1 else 2) * up, value * up, (value + 2) * up,
    Nat.pow 2 (2 - b.exponent).toNat⟩

/-- The exponent of the power of ten just above the number. -/
def tenExponent (s : Scaled) : Int :=
  (decimal (s.value * Nat.pow 10 340 / s.den)).length - 340

/-- Of the two multiples of `10 ^ k` next to the number, the nearer one that lies in the interval;
the even one if both are as near. -/
def neighbour? (s : Scaled) (closed : Bool) (k : Int) : Option Nat :=
  let times (x : Nat) := x * Nat.pow 10 (-k).toNat
  let grid := Nat.pow 10 k.toNat * s.den
  let below := times s.value / grid
  let inside (t : Nat) : Bool :=
    if closed then times s.low ≤ t * grid && t * grid ≤ times s.high
    else times s.low < t * grid && t * grid < times s.high
  let downBy := times s.value - below * grid
  let upBy := (below + 1) * grid - times s.value
  match inside below, inside (below + 1) with
  | true, true =>
    some (if downBy < upBy || (downBy = upBy && below % 2 = 0) then below else below + 1)
  | true, false => some below
  | false, true => some (below + 1)
  | false, false => none

/-- The first grid with a neighbour in the interval, trying `count` more grids from `used` digits. -/
def firstGrid (s : Scaled) (closed : Bool) (top : Int) : (used count : Nat) → Decimal
  | used, 0 => ⟨s.value / s.den, top - used⟩
  | used, count + 1 =>
    match neighbour? s closed (top - used) with
    | some t => ⟨t, top - used⟩
    | none => firstGrid s closed top (used + 1) count

/-- Moves the zeros at the end of the digits into the exponent. -/
def stripZeros : (fuel : Nat) → Decimal → Decimal
  | 0, d => d
  | fuel + 1, d =>
    if d.digits ≠ 0 ∧ d.digits % 10 = 0 then stripZeros fuel ⟨d.digits / 10, d.exponent + 1⟩ else d

/-- The shortest decimal that reads back as the number. -/
def shortest (b : Binary) : Decimal :=
  if b.mantissa = 0 then ⟨0, 0⟩
  else
    let s := b.scaled
    stripZeros 20 (firstGrid s (b.mantissa % 2 = 0) (tenExponent s) 1 17)

end Binary

/-- The decimal written out, with a point only if there are digits after it. -/
def positional (d : Decimal) : List Char :=
  let ds := decimal d.digits
  if 0 ≤ d.exponent then ds ++ List.replicate d.exponent.toNat '0'
  else
    let places := (-d.exponent).toNat
    if places < ds.length then ds.take (ds.length - places) ++ '.' :: ds.drop (ds.length - places)
    else '0' :: '.' :: (List.replicate (places - ds.length) '0' ++ ds)

/-- The decimal with one digit before the point and a power of ten after the letter `e`. -/
def scientific (d : Decimal) : List Char :=
  match decimal d.digits with
  | [] => []
  | lead :: rest =>
    let fraction := if rest = [] then [] else '.' :: rest
    lead :: fraction ++ 'e' :: signedDecimal (d.exponent + rest.length)

end Decimal

end KeyedBreakers
