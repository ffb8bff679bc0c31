import KeyedBreakers.Log.Record
import KeyedBreakers.Text.Split

/-!
# Filters of the log

A filter decides which records are written. It is a list of directives with commas between; a
directive has the form `target[span{field}]=level`, where every part may be missing. A record is
ruled by the most specific directive that applies to it: the one with the longest target, then the
one with the most fields; of two directives for the same records the later one counts. It is written
if it is not finer than that directive's level. Records here belong to no span, so a directive that
names a span, or a value of a field, applies to none of them.

* `Directive.parse?`, `Filter.parse?` — directives and filters from their text;
* `Filter.admits` — whether a filter lets a record through.
-/

namespace KeyedBreakers

open KeyedBreakers.Text

/-- A rule for some of the records. -/
structure Directive where
  /-- What the origin of a record starts with. -/
  target : Option String := none
  span : Option String := none
  /-- A field that a record has. -/
  field : Option String := none
  /-- Whether the field must have some value. -/
  hasValue : Bool := false
  /-- The finest level that is written: none, or from one for errors to five. -/
  finest : Nat := 5
deriving DecidableEq, Repr

namespace Directive

/-! ### Reading -/

/-- The level that a text names, by name or by number. -/
def readFinest? (cs : List Char) : Option Nat :=
  match readBounded? 5 cs with
  | some n => some n
  | none =>
    let name := String.ofList (cs.map Char.toLower)
    if name = "off" then some 0 else (Level.ofName? name).map Level.fineness

/-- The level after the equals sign of a directive; without a name it is the finest. -/
def readLevel? (d : Directive) (cs : List Char) : Option Directive :=
  if cs = [] then some d else (readFinest? cs).map fun n => { d with finest := n }

/-- What follows the closing bracket of a span: nothing, or an equals sign and a level. -/
def afterSpan? (d : Directive) : List Char → Option Directive
  | [] => some d
  | '=' :: cs => d.readLevel? cs
  | _ => none

/-- What follows the curly bracket inside a span: one field, perhaps with a value. -/
def readField? (d : Directive) (cs : List Char) : Option Directive :=
  match cutFirst? '\x7d' cs with
  | some (field, ']' :: rest) =>
    if field = [] then none
    else
      let name := String.ofList (field.takeWhile (· ≠ '='))
      { d with field := some name, hasValue := '=' ∈ field }.afterSpan? rest
  | _ => none

/-- What follows the opening bracket of a span. -/
def readSpan? (d : Directive) (cs : List Char) : Option Directive :=
  let name := cs.takeWhile fun c => c ≠ ']' ∧ c ≠ '\x7b'
  match cs.dropWhile fun c => c ≠ ']' ∧ c ≠ '\x7b' with
  | ']' :: rest => { d with span := some (String.ofList name) }.afterSpan? rest
  | '\x7b' :: rest =>
    { d with span := if name = [] then none else some (String.ofList name) }.readField? rest
  | _ => none

/-- Whether a target may start with a character. -/
def startsTarget (c : Char) : Bool :=
  c.isAlphanum || c == '-' || c == ':' || c == '_' || 0x80 ≤ c.toNat

/-- The directive that a text denotes. A lone name is a level if there is one, else a target. -/
def parse? : List Char → Option Directive
  | [] => none
  | '[' :: rest => readSpan? {} rest
  | c :: rest =>
    if startsTarget c then
      let name := (c :: rest).takeWhile fun c => c ≠ '=' ∧ c ≠ '['
      let aimed : Directive := { target := some (String.ofList name) }
      match (c :: rest).dropWhile fun c => c ≠ '=' ∧ c ≠ '[' with
      | '=' :: level => aimed.readLevel? level
      | '[' :: span => aimed.readSpan? span
      | _ =>
        match readFinest? name with
        | some n => some { finest := n }
        | none => some aimed
    else none

/-! ### Applying -/

/-- Whether a directive applies to a record from the named part of the program. -/
def applies (d : Directive) (origin : String) (r : Record) : Bool :=
  d.span.isNone && !d.hasValue
    && (d.target.all fun target => (dropText? target.toList origin.toList).isSome)
    && (d.field.all fun field => field == "message" || r.fields.any fun f => f.name == field)

/-- How specific the target of a directive is. -/
def targetWeight (d : Directive) : Nat :=
  match d.target with
  | some target => target.length + 1
  | none => 0

/-- Whether the first of two directives that apply goes before a later one. -/
def outranks (d later : Directive) : Bool :=
  if d.targetWeight = later.targetWeight then
    match d.field, later.field with
    | some _, none => true
    | some a, some b => b < a
    | none, _ => false
  else later.targetWeight < d.targetWeight

end Directive

/-- Which records are written; without directives it is the errors. -/
structure Filter where
  directives : List Directive
deriving DecidableEq, Repr

namespace Filter

/-- The filter that a text denotes; none if some directive of it is malformed. -/
def parse? (text : String) : Option Filter :=
  let parts := (pieces ',' text.toList).filter (· ≠ [])
  (parts.mapM Directive.parse?).map Filter.mk

/-- The filter of all records whose origin starts with `target`, down to a level. -/
def upTo (target : String) (level : Level) : Filter :=
  ⟨[{ target := some target, finest := level.fineness }]⟩

/-- The directive that rules a record. -/
def ruling? (f : Filter) (origin : String) (r : Record) : Option Directive :=
  (f.directives.filter fun d => d.applies origin r).foldl
    (fun best d => match best with
      | some b => if b.outranks d then some b else some d
      | none => some d)
    none

/-- Whether a filter lets a record through. -/
def admits (f : Filter) (origin : String) (r : Record) : Bool :=
  if f.directives = [] then r.level = .error
  else match f.ruling? origin r with
    | some d => r.level.fineness ≤ d.finest
    | none => false

end Filter

end KeyedBreakers
