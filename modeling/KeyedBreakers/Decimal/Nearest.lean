import KeyedBreakers.Decimal.Shortest

/-!
# The double nearest to a decimal

A decimal is read as the double nearest to it. Decimals far beyond the range of doubles are settled
by their size alone, so that reading never computes a huge power of ten.
-/

namespace KeyedBreakers.Decimal

open KeyedBreakers.Text

/-- Zero, positive. -/
def zero : Float := Float.ofBits 0

/-- The value above all doubles. -/
def infinity : Float := Float.ofBits 0x7FF0000000000000

/-- The value that is no number. -/
def undefined : Float := Float.ofBits 0x7FF8000000000000

/-- The double nearest to a decimal; infinity if it is too large. -/
def nearest (d : Decimal) : Float :=
  let lead := (decimal d.digits).length + d.exponent
  if d.digits = 0 ∨ lead < -330 then zero
  else if 400 < lead then infinity
  else if 0 ≤ d.exponent then
    Float.ofScientific (d.digits * Nat.pow 10 d.exponent.toNat) false 0
  else Float.ofScientific d.digits true (-d.exponent).toNat

end KeyedBreakers.Decimal
