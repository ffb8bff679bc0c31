import KeyedBreakers.Text.Split

/-!
# Punycode

A label with characters outside ASCII is written in ASCII as its ASCII characters, a hyphen, and a
run of letters and digits that tells which other characters to insert where. The insertions are
ordered by code point; each is given as the distance from the one before, in a positional notation
whose digits end with the first one below a threshold. The thresholds adapt to the distances seen.

* `encode` — the ASCII form of a label;
* `decode?` — the label that an ASCII form denotes.
-/

namespace KeyedBreakers.Url.Punycode

open KeyedBreakers.Text

/-! ### Digits and thresholds -/

/-- The number of digits. -/
def base : Nat := 36

/-- The first code point that is not written as itself. -/
def firstCode : Nat := 0x80

/-- The thresholds before the first distance are those for this bias. -/
def firstBias : Nat := 72

/-- No distance or place value is above this bound. -/
def bound : Nat := Nat.pow 2 32 - 1

/-- The threshold of the digit at place `k`, counted in steps of the base. -/
def threshold (k bias : Nat) : Nat :=
  if k ≤ bias + 1 then 1 else if bias + 26 ≤ k then 26 else k - bias

theorem threshold_pos (k bias : Nat) : 1 ≤ threshold k bias := by
  unfold threshold
  split
  · exact Nat.le_refl 1
  · split <;> omega

theorem threshold_le (k bias : Nat) : threshold k bias ≤ 26 := by
  unfold threshold
  split
  · decide
  · split <;> omega

/-- The digit for a number below the base. -/
def digitChar (d : Nat) : Char :=
  if d < 26 then Char.ofNat (97 + d) else Char.ofNat (22 + d)

/-- The number that a digit stands for. -/
def digitValue? (c : Char) : Option Nat :=
  if 'a' ≤ c ∧ c ≤ 'z' then some (c.toNat - 97)
  else if '0' ≤ c ∧ c ≤ '9' then some (c.toNat - 22)
  else none

/-- Divides a distance by the range of one digit until it fits, counting the divisions in steps of
the base. -/
def scaleDown (d k : Nat) : Nat × Nat :=
  if 455 < d then scaleDown (d / 35) (k + base) else (d, k)
termination_by d
decreasing_by exact Nat.div_lt_self (by omega) (by decide)

/-- The bias after a distance, when the label has `length` characters. -/
def adapt (distance length : Nat) (first : Bool) : Nat :=
  let d := if first then distance / 700 else distance / 2
  let (d, k) := scaleDown (d + d / length) 0
  k + base * d / (d + 38)

/-! ### Writing -/

/-- The digits of a distance from place `k` on. -/
def distanceDigits (bias k q : Nat) : List Char :=
  let t := threshold k bias
  if q < t then [digitChar q]
  else digitChar (t + (q - t) % (base - t)) :: distanceDigits bias (k + base) ((q - t) / (base - t))
termination_by q
decreasing_by
  have h₁ := threshold_pos k bias
  have h₂ := threshold_le k bias
  refine Nat.lt_of_le_of_lt (Nat.div_le_self _ _) ?_
  omega

/-- Where the writing of insertions stands. -/
structure Writing where
  distance : Nat
  bias : Nat
  /-- Characters of the label written so far. -/
  handled : Nat
  /-- Whether no insertion has been written yet. -/
  first : Bool
  /-- The digits so far, reversed. -/
  reversed : List Char

/-- Passes one character of the label while inserting the code point `code`. -/
def Writing.pass (code : Nat) (s : Writing) (c : Char) : Writing :=
  if c.toNat < code then { s with distance := s.distance + 1 }
  else if c.toNat = code then
    { distance := 0
      bias := adapt s.distance (s.handled + 1) s.first
      handled := s.handled + 1
      first := false
      reversed := (distanceDigits s.bias base s.distance).reverse ++ s.reversed }
  else s

/-- Inserts the given code points, which ascend from `next`, each wherever it occurs. -/
def writeCodes (label : List Char) : (codes : List Nat) → (next : Nat) → Writing → Writing
  | [], _, s => s
  | code :: codes, next, s =>
    let s := { s with distance := s.distance + (code - next) * (s.handled + 1) }
    let s := label.foldl (Writing.pass code) s
    writeCodes label codes (code + 1) { s with distance := s.distance + 1 }

/-- Inserts a number into an ascending list without repetition. -/
def insertCode (n : Nat) : List Nat → List Nat
  | [] => [n]
  | m :: ms => if n < m then n :: m :: ms else if n = m then m :: ms else m :: insertCode n ms

/-- The ASCII form of a label. -/
def encode (label : List Char) : List Char :=
  let basic := label.filter (·.toNat < firstCode)
  let codes := (label.filter (firstCode ≤ ·.toNat)).foldl (fun ns c => insertCode c.toNat ns) []
  let start : Writing := ⟨0, firstBias, basic.length, true, []⟩
  let digits := (writeCodes label codes firstCode start).reversed.reverse
  if basic = [] then digits else basic ++ '-' :: digits

/-! ### Reading -/

/-- Adds the digits of a distance to `i` from place `k` on, where a digit counts `weight` times. -/
def readDistance? (bias : Nat) : (i k weight : Nat) → List Char → Option (Nat × List Char)
  | _, _, _, [] => none
  | i, k, weight, c :: cs =>
    match digitValue? c with
    | none => none
    | some d =>
      let i := i + d * weight
      let t := threshold k bias
      if bound < i then none
      else if d < t then some (i, cs)
      else if bound < weight * (base - t) then none
      else readDistance? bias i (k + base) (weight * (base - t)) cs

/-- The character with a code point, if there is one. -/
def charOf? (n : Nat) : Option Char :=
  if h : n.isValidChar then some (Char.ofNatAux n h) else none

/-- Makes the insertions that the digits tell, at most `fuel` of them. -/
def insertAll? : (fuel : Nat) → (code i bias : Nat) → (first : Bool) → (label digits : List Char) →
    Option (List Char)
  | 0, _, _, _, _, label, digits => if digits = [] then some label else none
  | fuel + 1, code, i, bias, first, label, digits =>
    if digits = [] then some label
    else do
      let (i', rest) ← readDistance? bias i base 1 digits
      let length := label.length + 1
      let code := code + i' / length
      let c ← charOf? code
      let place := i' % length
      insertAll? fuel code (place + 1) (adapt (i' - i) length first) false
        (label.take place ++ c :: label.drop place) rest

/-- The label that an ASCII form denotes. -/
def decode? (text : List Char) : Option (List Char) :=
  let (basic, digits) := match cutLast? '-' text with
    | some (before, after) => if before = [] then ([], text) else (before, after)
    | none => ([], text)
  insertAll? digits.length firstCode 0 firstBias true basic digits

end KeyedBreakers.Url.Punycode
