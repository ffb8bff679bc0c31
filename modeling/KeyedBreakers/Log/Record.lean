import KeyedBreakers.Log.Level
import KeyedBreakers.Text.Digits

/-!
# Records of the log

A record has a level, a message and named fields. As a line it starts with the level and the
origin, the part of the program that it comes from; the fields follow the message.
-/

namespace KeyedBreakers

open KeyedBreakers.Text

/-- The value of a field. -/
inductive FieldValue where
  | text (value : String)
  | flag (value : Bool)
  | count (value : Nat)
deriving DecidableEq, Repr

/-- A named value of a record. -/
structure Field where
  name : String
  value : FieldValue
deriving DecidableEq, Repr

/-- One record of the log. -/
structure Record where
  level : Level
  message : String
  fields : List Field
deriving DecidableEq, Repr

/-- The value of a field as a line shows it. -/
def FieldValue.shown : FieldValue → String
  | text value => value
  | flag value => if value then "true" else "false"
  | count value => String.ofList (decimal value)

/-- A field as a line shows it. -/
def Field.shown (f : Field) : String :=
  " " ++ f.name ++ "=" ++ f.value.shown

/-- The line of a record from the named part of the program. -/
def Record.line (origin : String) (r : Record) : String :=
  r.level.shown ++ " " ++ origin ++ ": " ++ r.message ++
    r.fields.foldr (fun f rest => f.shown ++ rest) ""

end KeyedBreakers
