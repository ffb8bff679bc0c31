import KeyedBreakers.Decimal.Shortest
import KeyedBreakers.Json.Basic
import KeyedBreakers.Text.Directory
import KeyedBreakers.Text.Split

/-!
# The compact text of a JSON value

No blanks, the members of an object in ascending order of their names, and nothing escaped but
quotation marks, backslashes and the controls below U+0020. A fraction always shows that it is one:
it has a point or an exponent.
-/

namespace KeyedBreakers.Json

open KeyedBreakers.Text KeyedBreakers.Decimal

/-! ### Numbers -/

/-- Where a fraction is written out in full: its leading digit stands at most `lastLead` places
before the point and less than `firstLead` places after it. -/
structure FractionFormat where
  lastLead : Int
  firstLead : Int

/-- Fractions from `0.00001` to below `10 ^ 16` are written out, others with an exponent. -/
def fractionFormat : FractionFormat := ⟨16, -5⟩

/-- The text of a positive decimal in the given format. -/
def renderDecimal (format : FractionFormat) (d : Decimal) : List Char :=
  let lead := (decimal d.digits).length + d.exponent
  if lead ≤ format.firstLead ∨ format.lastLead < lead then d.scientific
  else if 0 ≤ d.exponent then d.positional ++ ['.', '0']
  else d.positional

/-- The text of a fraction; infinities and undefined values have none of their own. -/
def renderFraction (x : Float) : List Char :=
  match Reading.ofFloat x with
  | .finite negative size =>
    let shown := renderDecimal fractionFormat size.shortest
    if negative then '-' :: shown else shown
  | _ => "null".toList

/-! ### Texts -/

/-- How a character stands between the quotation marks of a JSON text. -/
def escape (c : Char) : List Char :=
  if c = '"' then ['\\', '"']
  else if c = '\\' then ['\\', '\\']
  else if c = '\n' then ['\\', 'n']
  else if c = '\r' then ['\\', 'r']
  else if c = '\t' then ['\\', 't']
  else if c.toNat = 8 then ['\\', 'b']
  else if c.toNat = 12 then ['\\', 'f']
  else if c.toNat < 0x20 then
    ['\\', 'u', '0', '0', Nat.digitChar (c.toNat / 16), Nat.digitChar (c.toNat % 16)]
  else [c]

/-- A text between quotation marks. -/
def renderText (text : String) : List Char :=
  '"' :: text.toList.flatMap escape ++ ['"']

/-! ### Values -/

mutual

/-- The compact text of a value. -/
def render : Json → List Char
  | .null => "null".toList
  | .flag true => "true".toList
  | .flag false => "false".toList
  | .integer n => signedDecimal n
  | .real x => renderFraction x
  | .text s => renderText s
  | .array items => '[' :: joinWith [','] (renderItems items) ++ [']']
  | .object members =>
    let shown := (Directory.ofList (renderMembers members)).toList.map fun (name, value) =>
      renderText name ++ ':' :: value
    '\x7b' :: joinWith [','] shown ++ ['\x7d']

/-- The compact texts of the items of an array. -/
def renderItems : List Json → List (List Char)
  | [] => []
  | item :: items => render item :: renderItems items

/-- The names of the members of an object with the compact texts of their values. -/
def renderMembers : List (String × Json) → List (String × List Char)
  | [] => []
  | (name, value) :: members => (name, render value) :: renderMembers members

end

/-- The compact text of a value. -/
def compact (value : Json) : String :=
  String.ofList value.render

end KeyedBreakers.Json
