import KeyedBreakers.Config.Datum

/-!
# Decoding settings

A decoder takes a datum to a setting or says why it does not fit. The decoder of a record starts
from the defaults and lets the datum change them: a table sets the fields it names, other names are
skipped, and a list sets the first fields by their place. The first datum that does not fit is the
one reported.

The two dialects differ in three places. A list with more items than the record has fields is
refused in JSON and accepted in TOML. A moment, which is a table of its own kind in TOML, sets
nothing. And a choice that is written as a table with its name as the only key holds `null` in JSON
and an empty table or array in TOML.
-/

namespace KeyedBreakers

open KeyedBreakers.Text

/-- What a decoder wants. -/
inductive Wanted where
  | text
  | flag
  | record (name : String)
  /-- The name of a choice, or a table with the name as its only key. -/
  | choice
  /-- Nothing, in JSON. -/
  | nothing
deriving DecidableEq, Repr

/-- What a decoder wants, as a message says it. -/
def Wanted.described : Wanted → String
  | text => "a string"
  | flag => "a boolean"
  | record name => "struct " ++ name
  | choice => "string or map"
  | nothing => "unit"

/-- Why a datum does not fit a setting. -/
inductive DecodeError where
  /-- The datum, described by `found`, is of another kind. -/
  | wrongKind (found : String) (wanted : Wanted)
  /-- A list holds more items than there are fields. -/
  | tooManyItems (count : Nat)
  /-- A choice has none of the names in `known`. -/
  | unknownChoice (name : String) (known : List String)
  /-- A JSON table that should name a choice has no key or several. -/
  | notSingleKey
  /-- A TOML table that should name a choice has no key. -/
  | noElement
  /-- A TOML table that should name a choice has several keys. -/
  | severalElements
  /-- A choice is written neither as a text nor as a table, in TOML. -/
  | neitherTextNorTable
  /-- What a TOML table holds beside the name of a choice is a table or an array, not empty. -/
  | tableNotEmpty
  /-- What a TOML table holds beside the name of a choice are tables of one name. -/
  | arrayNotEmpty
  /-- What a TOML table holds beside the name of a choice is of the kind `found`. -/
  | notTable (found : String)
deriving DecidableEq, Repr

/-- Names in a message, each set off, with commas between. -/
def listed (names : List String) : String :=
  String.ofList (joinWith [',', ' '] (names.map fun n => (Datum.asCode n).toList))

/-- What is said of a datum that does not fit. -/
def DecodeError.message : DecodeError → String
  | wrongKind found wanted => "invalid type: " ++ found ++ ", expected " ++ wanted.described
  | tooManyItems count =>
    "invalid length " ++ String.ofList (decimal count) ++ ", expected fewer elements in array"
  | unknownChoice name known =>
    "unknown variant " ++ Datum.asCode name ++ ", expected one of " ++ listed known
  | notSingleKey => "invalid value: map, expected map with a single key"
  | noElement => "wanted exactly 1 element, found 0 elements"
  | severalElements => "wanted exactly 1 element, more than 1 element"
  | neitherTextNorTable => "wanted string or table"
  | tableNotEmpty => "expected empty table"
  | arrayNotEmpty => "expected empty array"
  | notTable found => "expected table, found " ++ found

/-- Takes a datum of a dialect to a setting. -/
abbrev Decoder (α : Type) := Dialect → Datum → Except DecodeError α

namespace Decoder

variable {α : Type}

/-! ### Texts and flags -/

/-- A text. -/
def text : Decoder String
  | _, .text value => .ok value
  | dialect, datum => .error (.wrongKind (datum.described dialect) .text)

/-- A flag. -/
def flag : Decoder Bool
  | _, .flag value => .ok value
  | dialect, datum => .error (.wrongKind (datum.described dialect) .flag)

/-! ### Choices -/

/-- Whether the content beside the name of a choice is as empty as the dialect wants it. -/
def nothing : Decoder Unit
  | .json, .null => .ok ()
  | .json, datum => .error (.wrongKind (datum.described .json) .nothing)
  | .toml, .table [] => .ok ()
  | .toml, .list [] => .ok ()
  | .toml, .tables [] => .ok ()
  | .toml, .table _ => .error .tableNotEmpty
  | .toml, .list _ => .error .tableNotEmpty
  | .toml, .tables _ => .error .arrayNotEmpty
  | .toml, .text _ => .error (.notTable "string")
  | .toml, .integer _ => .error (.notTable "integer")
  | .toml, .real _ => .error (.notTable "float")
  | .toml, .flag _ => .error (.notTable "boolean")
  | .toml, .moment => .error (.notTable "datetime")
  | .toml, .null => .error (.notTable "null")

/-- A choice by its name. -/
def named (known : List (String × α)) (name : String) : Except DecodeError α :=
  match known.lookup name with
  | some value => .ok value
  | none => .error (.unknownChoice name (known.map (·.1)))

/-- A choice: its name, or a table with the name as its only key. -/
def choice (known : List (String × α)) : Decoder α
  | _, .text name => named known name
  | dialect, .table [(name, content)] => do
    let value ← named known name
    nothing dialect content
    return value
  | .json, .table _ => .error .notSingleKey
  | .toml, .table [] => .error .noElement
  | .toml, .table _ => .error .severalElements
  | .json, datum => .error (.wrongKind (datum.described .json) .choice)
  | .toml, _ => .error .neitherTextNorTable

/-! ### Records -/

/-- A field of a record: its name, and how a datum changes the record in it. -/
structure Field (α : Type) where
  name : String
  set : Dialect → Datum → α → Except DecodeError α

/-- The field that a decoder reads and `put` writes. -/
def Field.ofDecoder {β : Type} (name : String) (decode : Decoder β) (put : β → α → α) : Field α :=
  ⟨name, fun dialect datum record => (decode dialect datum).map (put · record)⟩

/-- Sets the field with the given name; other names change nothing. -/
def setByName (fields : List (Field α)) (dialect : Dialect) (record : α)
    (entry : String × Datum) : Except DecodeError α :=
  match fields.find? (·.name = entry.1) with
  | some field => field.set dialect entry.2 record
  | none => .ok record

/-- Sets the fields by the places of the items. -/
def setByPlace (dialect : Dialect) : List (Field α) → List Datum → α → Except DecodeError α
  | field :: fields, item :: items, record => do
    let record ← field.set dialect item record
    setByPlace dialect fields items record
  | _, _, record => .ok record

/-- A record from a list of its fields. -/
def ofItems (fields : List (Field α)) (default : α) (dialect : Dialect) (items : List Datum) :
    Except DecodeError α := do
  let record ← setByPlace dialect fields items default
  if dialect = .json ∧ fields.length < items.length then .error (.tooManyItems items.length)
  else return record

/-- A record with the given name, fields and defaults. -/
def record (name : String) (fields : List (Field α)) (default : α) : Decoder α
  | dialect, .table entries => entries.foldlM (setByName fields dialect) default
  | dialect, .list items => ofItems fields default dialect items
  | dialect, .tables elements => ofItems fields default dialect elements
  | _, .moment => .ok default
  | dialect, datum => .error (.wrongKind (datum.described dialect) (.record name))

end Decoder

end KeyedBreakers
