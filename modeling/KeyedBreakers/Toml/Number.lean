import KeyedBreakers.Decimal.Nearest
import KeyedBreakers.Text.Split
import KeyedBreakers.Toml.Basic

/-!
# Numbers in documents

An underscore may stand between two digits. A whole number in base ten may have a sign and has no
leading zeros; one in base sixteen, eight or two has neither sign nor capital in its mark. Whole
numbers fit into sixty-four bits with sign. A fraction has a point with digits on both sides or a
power of ten or both, and may not exceed the largest double.
-/

namespace KeyedBreakers.Toml

open KeyedBreakers.Text KeyedBreakers.Decimal

/-- The digits at the front, each but the first with an optional underscore before it. -/
def moreDigits (isDigit : Char → Bool) : List Char → List Char × List Char
  | '_' :: c :: rest =>
    if isDigit c then
      let (ds, rest) := moreDigits isDigit rest
      (c :: ds, rest)
    else ([], '_' :: c :: rest)
  | c :: rest =>
    if isDigit c then
      let (ds, rest) := moreDigits isDigit rest
      (c :: ds, rest)
    else ([], c :: rest)
  | [] => ([], [])

/-- One digit or more at the front. -/
def readDigits? (isDigit : Char → Bool) : List Char → Option (List Char × List Char)
  | c :: rest =>
    if isDigit c then
      let (ds, rest) := moreDigits isDigit rest
      some (c :: ds, rest)
    else none
  | [] => none

/-- A sign at the front; the flag tells a minus. -/
def readSign : List Char → Bool × List Char
  | '-' :: rest => (true, rest)
  | '+' :: rest => (false, rest)
  | rest => (false, rest)

/-- The digits of a whole number in base ten: a zero stands alone. -/
def readWhole? : List Char → Option (List Char × List Char)
  | '0' :: rest => some (['0'], rest)
  | rest => readDigits? Char.isDigit rest

/-! ### Whole numbers -/

/-- Whether the character is a digit in base eight. -/
def isOctalDigit (c : Char) : Bool :=
  '0' ≤ c && c ≤ '7'

/-- Whether the character is a digit in base two. -/
def isBinaryDigit (c : Char) : Bool :=
  c == '0' || c == '1'

/-- A number in base `b` whose mark has been read. -/
def readInBase? (b : Nat) (isDigit : Char → Bool) (cs : List Char) : Option (Toml × List Char) := do
  let (digits, rest) ← readDigits? isDigit cs
  let n := valueInBase b hexDigit? digits
  if n < Nat.pow 2 63 then some (.integer n, rest) else none

/-- A whole number. -/
def readInteger? : List Char → Option (Toml × List Char)
  | '0' :: 'x' :: rest => readInBase? 16 isHexDigit rest
  | '0' :: 'o' :: rest => readInBase? 8 isOctalDigit rest
  | '0' :: 'b' :: rest => readInBase? 2 isBinaryDigit rest
  | cs => do
    let (negative, rest) := readSign cs
    let (digits, rest) ← readWhole? rest
    let size := Nat.ofDigitChars 10 digits 0
    let n : Int := if negative then -size else size
    if -(Nat.pow 2 63 : Int) ≤ n ∧ n < (Nat.pow 2 63 : Int) then some (.integer n, rest) else none

/-! ### Fractions -/

/-- The digits after the point at the front. -/
def readPlaces? : List Char → Option (List Char × List Char)
  | '.' :: rest => readDigits? Char.isDigit rest
  | _ => none

/-- The power of ten after the letter `e` at the front. -/
def readPower? : List Char → Option (Int × List Char)
  | c :: rest =>
    if c = 'e' ∨ c = 'E' then do
      let (negative, rest) := readSign rest
      let (digits, rest) ← readDigits? Char.isDigit rest
      let size := Nat.ofDigitChars 10 digits 0
      some (if negative then -size else size, rest)
    else none
  | [] => none

/-- The parts of a fraction after its whole digits: places, power of ten, and the rest. -/
def readFractionParts? (cs : List Char) : Option (List Char × Int × List Char) :=
  match readPower? cs with
  | some (power, rest) => some ([], power, rest)
  | none => do
    let (places, rest) ← readPlaces? cs
    match rest with
    | c :: _ =>
      if c = 'e' ∨ c = 'E' then
        let (power, rest) ← readPower? rest
        some (places, power, rest)
      else some (places, 0, rest)
    | [] => some (places, 0, [])

/-- The double with the given sign. -/
def signed (negative : Bool) (x : Float) : Float :=
  if negative then -x else x

/-- A fraction written with digits. -/
def readFraction? (cs : List Char) : Option (Toml × List Char) := do
  let (negative, rest) := readSign cs
  let (whole, rest) ← readWhole? rest
  let (places, power, rest) ← readFractionParts? rest
  let size := Nat.ofDigitChars 10 (whole ++ places) 0
  let x := (Decimal.mk size (power - places.length)).nearest
  if ¬ negative ∧ x.toBits = infinity.toBits then none
  some (.real (signed negative x), rest)

/-- Infinity or the value that is no number, by name. -/
def readNamed? (cs : List Char) : Option (Toml × List Char) :=
  let (negative, rest) := readSign cs
  match dropText? ['i', 'n', 'f'] rest with
  | some rest => some (.real (signed negative infinity), rest)
  | none => (dropText? ['n', 'a', 'n'] rest).map (.real (signed negative undefined), ·)

/-- A number of any kind. -/
def readNumber? (cs : List Char) : Option (Toml × List Char) :=
  readFraction? cs <|> readNamed? cs <|> readInteger? cs

end KeyedBreakers.Toml
