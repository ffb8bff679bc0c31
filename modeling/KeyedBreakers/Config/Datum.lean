import KeyedBreakers.Json.Printer
import KeyedBreakers.Text.Quoted
import KeyedBreakers.Toml.Basic

/-!
# What configurations are written with

Settings are read from JSON and from TOML alike. Both become a `Datum`: what they have in common,
with the entries of a table in the order in which their faults are reported. That is the order of
the document in TOML and the ascending order of the names in JSON, where the order of the entries
means nothing.

* `Datum.ofJson`, `Datum.ofToml` — the two sources;
* `Datum.described` — a datum as a message names it.
-/

namespace KeyedBreakers

open KeyedBreakers.Text KeyedBreakers.Decimal

/-- The language that a configuration is written in. -/
inductive Dialect where
  | json
  | toml
deriving DecidableEq, Repr

/-- A value as configurations are written with. -/
inductive Datum where
  | null
  | flag (value : Bool)
  | integer (value : Int)
  | real (value : Float)
  | text (value : String)
  /-- A date or a time, which only TOML has. -/
  | moment
  | list (items : List Datum)
  /-- Tables with one name, which only TOML has. -/
  | tables (elements : List Datum)
  | table (entries : List (String × Datum))
deriving Inhabited

namespace Datum

/-! ### Sources -/

mutual

/-- A JSON value as a datum. -/
def ofJson : Json → Datum
  | .null => .null
  | .flag value => .flag value
  | .integer value => .integer value
  | .real value => .real value
  | .text value => .text value
  | .array items => .list (ofJsonItems items)
  | .object entries => .table (Directory.ofList (ofJsonMembers entries)).toList

/-- The items of a JSON array as data. -/
def ofJsonItems : List Json → List Datum
  | [] => []
  | item :: items => ofJson item :: ofJsonItems items

/-- The members of a JSON object as data. -/
def ofJsonMembers : List (String × Json) → List (String × Datum)
  | [] => []
  | (name, value) :: entries => (name, ofJson value) :: ofJsonMembers entries

end

mutual

/-- A TOML value as a datum. -/
def ofToml : Toml → Datum
  | .text value => .text value
  | .integer value => .integer value
  | .real value => .real value
  | .flag value => .flag value
  | .moment => .moment
  | .array items => .list (ofTomlItems items)
  | .table _ entries => .table (ofTomlEntries entries)
  | .tables elements => .tables (ofTomlElements elements)

/-- The items of a TOML array as data. -/
def ofTomlItems : List Toml → List Datum
  | [] => []
  | item :: items => ofToml item :: ofTomlItems items

/-- The entries of a TOML table as data. -/
def ofTomlEntries : List (String × Toml) → List (String × Datum)
  | [] => []
  | (name, value) :: entries => (name, ofToml value) :: ofTomlEntries entries

/-- The TOML tables of one name as data. -/
def ofTomlElements : List (List (String × Toml)) → List Datum
  | [] => []
  | entries :: elements => .table (ofTomlEntries entries) :: ofTomlElements elements

end

/-! ### Names in messages -/

/-- A fraction of TOML as messages show it: written out, with a point. -/
def plainFraction (x : Float) : List Char :=
  match Reading.ofFloat x with
  | .notANumber => "NaN".toList
  | .infinite negative => if negative then "-inf".toList else "inf".toList
  | .finite negative size =>
    let digits := size.shortest.positional
    let digits := if '.' ∈ digits then digits else digits ++ ['.', '0']
    if negative then '-' :: digits else digits

/-- A fraction as messages show it. -/
def shownFraction : Dialect → Float → String
  | .json, x => String.ofList (Json.renderFraction x)
  | .toml, x => String.ofList (plainFraction x)

/-- Code in a message, between the marks that set it off. -/
def asCode (code : String) : String :=
  "`" ++ code ++ "`"

/-- The datum as a message names it. -/
def described (dialect : Dialect) : Datum → String
  | null => "null"
  | flag value => "boolean " ++ asCode (if value then "true" else "false")
  | integer value => "integer " ++ asCode (String.ofList (signedDecimal value))
  | real value => "floating point " ++ asCode (shownFraction dialect value)
  | text value => "string " ++ Quoted.encode value
  | list _ | tables _ => "sequence"
  | moment | table _ => "map"

end Datum

end KeyedBreakers
