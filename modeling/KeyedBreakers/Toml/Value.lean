import KeyedBreakers.Toml.Key
import KeyedBreakers.Toml.Moment
import KeyedBreakers.Toml.Number
import KeyedBreakers.Toml.Table

/-!
# Values in documents

Arrays may run over several lines and end in a comma; tables between curly brackets may do neither.
Both together nest less deep than `nestingLimit`, and the depth that is left bounds the reading.
-/

namespace KeyedBreakers.Toml

open KeyedBreakers.Text

/-- Reads a value at the front of a text. -/
abbrev ValueReader := List Char → Option (Toml × List Char)

/-- The items of an array up to its closing bracket. -/
def readItems? (value? : ValueReader) : (fuel : Nat) → List Char → Option (List Toml × List Char)
  | 0, _ => none
  | fuel + 1, cs =>
    match skipSpacing cs with
    | ']' :: rest => some ([], rest)
    | rest => do
      let (item, rest) ← value? rest
      match skipSpacing rest with
      | ']' :: rest => some ([item], rest)
      | ',' :: rest =>
        let (items, rest) ← readItems? value? fuel rest
        some (item :: items, rest)
      | _ => none

/-- A key, an equals sign and a value, with blanks around all of them. -/
def readAssignment? (value? : ValueReader) (cs : List Char) : Option (Assignment × List Char) := do
  let (path, name, rest) ← readKey? cs
  let '=' :: rest := rest | none
  let (value, rest) ← value? (skipSpaces rest)
  some (⟨path, name, value⟩, skipSpaces rest)

/-- The assignments of a table between curly brackets, at least one, up to the closing bracket. -/
def readAssignments? (value? : ValueReader) :
    (fuel : Nat) → List Char → Option (List Assignment × List Char)
  | 0, _ => none
  | fuel + 1, cs => do
    let (assignment, rest) ← readAssignment? value? cs
    match rest with
    | '\x7d' :: rest => some ([assignment], rest)
    | ',' :: rest =>
      let (assignments, rest) ← readAssignments? value? fuel rest
      some (assignment :: assignments, rest)
    | _ => none

/-- A table whose opening bracket has been read. -/
def readInline? (value? : ValueReader) (cs : List Char) : Option (Toml × List Char) :=
  match skipSpaces cs with
  | '\x7d' :: rest => some (.table .inline [], rest)
  | rest => do
    let (assignments, rest) ← readAssignments? value? (rest.length + 1) rest
    let entries ← addAll? assignments []
    some (.table .inline entries, rest)

/-- A number or a moment. -/
def readNumberOrMoment? (cs : List Char) : Option (Toml × List Char) :=
  match readMoment? cs with
  | some rest => some (.moment, rest)
  | none => readNumber? cs

/-- A value that is neither an array nor a table. -/
def readScalar? : List Char → Option (Toml × List Char)
  | '"' :: rest => (readText? basic ('"' :: rest)).map fun (s, rest) => (.text s, rest)
  | '\x27' :: rest => (readText? literal ('\x27' :: rest)).map fun (s, rest) => (.text s, rest)
  | 't' :: rest => (dropText? ['r', 'u', 'e'] rest).map (.flag true, ·)
  | 'f' :: rest => (dropText? ['a', 'l', 's', 'e'] rest).map (.flag false, ·)
  | cs => readNumberOrMoment? cs

/-- A value that nests at most `depth` deep. -/
def readValue? : (depth : Nat) → ValueReader
  | 0, cs => readScalar? cs
  | depth + 1, cs =>
    match cs with
    | '[' :: rest =>
      (readItems? (readValue? depth) (rest.length + 1) rest).map fun (items, rest) =>
        (.array items, rest)
    | '\x7b' :: rest => readInline? (readValue? depth) rest
    | rest => readScalar? rest

end KeyedBreakers.Toml
