import KeyedBreakers.Decimal.Nearest
import KeyedBreakers.Json.Basic
import KeyedBreakers.Text.Split

/-!
# Reading JSON texts

A text is one value with white space around it. A whole number stands for itself if it fits into
sixty-four bits, with or without sign; every other number is a fraction. Names may repeat in an
object; all members are kept in order.

The readers take what is left of a text and give a value with the rest. The bound on the nesting and
the number of items is the length of the text, which no text reaches.
-/

namespace KeyedBreakers.Json

open KeyedBreakers.Text KeyedBreakers.Decimal

/-- What follows the white space at the front. -/
def skipBlanks (cs : List Char) : List Char :=
  cs.dropWhile fun c => c == ' ' || c == '\n' || c == '\r' || c == '\t'

/-! ### Texts -/

/-- The value of four hexadecimal digits at the front. -/
def readUnit? : List Char → Option (Nat × List Char)
  | a :: b :: c :: d :: rest => (readHexadecimal? [a, b, c, d]).map (·, rest)
  | _ => none

/-- The character whose code, one UTF-16 unit or two, follows `\u`. -/
def readCode? (cs : List Char) : Option (Char × List Char) := do
  let (first, rest) ← readUnit? cs
  if first < 0xD800 ∨ 0xE000 ≤ first then some (Char.ofNat first, rest)
  else if 0xDC00 ≤ first then none
  else
    let (second, rest) ← dropText? ['\\', 'u'] rest >>= readUnit?
    if 0xDC00 ≤ second ∧ second < 0xE000 then
      some (Char.ofNat (0x10000 + (first - 0xD800) * 0x400 + (second - 0xDC00)), rest)
    else none

/-- The character that a letter after a backslash stands for. -/
def escaped? : Char → Option Char
  | '"' => some '"'
  | '\\' => some '\\'
  | '/' => some '/'
  | 'b' => some '\x08'
  | 'f' => some '\x0c'
  | 'n' => some '\n'
  | 'r' => some '\r'
  | 't' => some '\t'
  | _ => none

/-- The characters up to the closing quotation mark. -/
def readTextBody? : (fuel : Nat) → List Char → Option (List Char × List Char)
  | 0, _ => none
  | _ + 1, [] => none
  | _ + 1, '"' :: rest => some ([], rest)
  | fuel + 1, '\\' :: 'u' :: rest => do
    let (c, rest) ← readCode? rest
    let (cs, rest) ← readTextBody? fuel rest
    some (c :: cs, rest)
  | fuel + 1, '\\' :: e :: rest => do
    let c ← escaped? e
    let (cs, rest) ← readTextBody? fuel rest
    some (c :: cs, rest)
  | fuel + 1, c :: rest =>
    if c.toNat < 0x20 then none
    else (readTextBody? fuel rest).map fun (cs, rest) => (c :: cs, rest)

/-- The text after an opening quotation mark. -/
def readText? (cs : List Char) : Option (String × List Char) :=
  (readTextBody? (cs.length + 1) cs).map fun (body, rest) => (String.ofList body, rest)

/-! ### Numbers -/

/-- Splits a sign off the front; the flag tells a minus. -/
def splitSign : List Char → Bool × List Char
  | '-' :: rest => (true, rest)
  | '+' :: rest => (false, rest)
  | rest => (false, rest)

/-- The digits after a point at the front, or none without a point. -/
def readPlaces? : List Char → Option (List Char × List Char)
  | '.' :: rest =>
    let digits := rest.takeWhile Char.isDigit
    if digits = [] then none else some (digits, rest.dropWhile Char.isDigit)
  | rest => some ([], rest)

/-- The power of ten after the letter `e` at the front, if there is one. -/
def readPower? : List Char → Option (Option Int × List Char)
  | c :: rest =>
    if c = 'e' ∨ c = 'E' then
      let (negative, rest) := splitSign rest
      (readDecimal? (rest.takeWhile Char.isDigit)).map fun n =>
        (some (if negative then -n else n), rest.dropWhile Char.isDigit)
    else some (none, c :: rest)
  | [] => some (none, [])

/-- The number whose digits, places and power of ten are given. -/
def ofParts (negative : Bool) (whole places : List Char) (power : Option Int) : Json :=
  let size := Nat.ofDigitChars 10 (whole ++ places) 0
  let real :=
    let x := (Decimal.mk size (power.getD 0 - places.length)).nearest
    Json.real (if negative then -x else x)
  if places ≠ [] ∨ power.isSome then real
  else if negative then
    if 0 < size ∧ size ≤ Nat.pow 2 63 then .integer (-size) else real
  else if size < Nat.pow 2 64 then .integer size else real

/-- A number, without leading zeros. -/
def readNumber? (cs : List Char) : Option (Json × List Char) := do
  let (negative, cs) := match cs with
    | '-' :: rest => (true, rest)
    | rest => (false, rest)
  let whole := cs.takeWhile Char.isDigit
  if whole = [] ∨ (whole.head? = some '0' ∧ whole.length ≠ 1) then none
  let (places, rest) ← readPlaces? (cs.dropWhile Char.isDigit)
  let (power, rest) ← readPower? rest
  some (ofParts negative whole places power, rest)

/-! ### Values -/

mutual

/-- A value at the front. -/
def readValue? : (fuel : Nat) → List Char → Option (Json × List Char)
  | 0, _ => none
  | fuel + 1, cs =>
    match skipBlanks cs with
    | '"' :: rest => (readText? rest).map fun (s, rest) => (.text s, rest)
    | '[' :: rest =>
      match skipBlanks rest with
      | ']' :: rest => some (.array [], rest)
      | rest => (readItems? fuel rest).map fun (items, rest) => (.array items, rest)
    | '\x7b' :: rest =>
      match skipBlanks rest with
      | '\x7d' :: rest => some (.object [], rest)
      | rest => (readMembers? fuel rest).map fun (members, rest) => (.object members, rest)
    | 't' :: rest => (dropText? ['r', 'u', 'e'] rest).map (.flag true, ·)
    | 'f' :: rest => (dropText? ['a', 'l', 's', 'e'] rest).map (.flag false, ·)
    | 'n' :: rest => (dropText? ['u', 'l', 'l'] rest).map (.null, ·)
    | rest => readNumber? rest

/-- The items of an array up to its closing bracket, at least one. -/
def readItems? : (fuel : Nat) → List Char → Option (List Json × List Char)
  | 0, _ => none
  | fuel + 1, cs => do
    let (item, rest) ← readValue? fuel cs
    match skipBlanks rest with
    | ']' :: rest => some ([item], rest)
    | ',' :: rest =>
      let (items, rest) ← readItems? fuel rest
      some (item :: items, rest)
    | _ => none

/-- The members of an object up to its closing bracket, at least one. -/
def readMembers? : (fuel : Nat) → List Char → Option (List (String × Json) × List Char)
  | 0, _ => none
  | fuel + 1, cs => do
    let '"' :: rest := skipBlanks cs | none
    let (name, rest) ← readText? rest
    let ':' :: rest := skipBlanks rest | none
    let (value, rest) ← readValue? fuel rest
    match skipBlanks rest with
    | '\x7d' :: rest => some ([(name, value)], rest)
    | ',' :: rest =>
      let (members, rest) ← readMembers? fuel rest
      some ((name, value) :: members, rest)
    | _ => none

end

/-- The value that a whole text denotes. -/
def parse? (text : String) : Option Json := do
  let cs := text.toList
  let (value, rest) ← readValue? (2 * cs.length + 2) cs
  if skipBlanks rest = [] then some value else none

end KeyedBreakers.Json
