/-!
# Strategies

A strategy names one of the preset ways to partition calls. Its name is written with underscores in
configurations and on the command line; there the case of the ASCII letters does not matter, a
hyphen may stand for an underscore, and each strategy has a second name.

* `Strategy.name` — the name under which a strategy is written;
* `Strategy.ofName?` — the strategy with exactly that name, as configurations want it;
* `Strategy.parse` — the strategy that a loosely spelled name denotes.
-/

namespace KeyedBreakers

/-- A preset way to partition calls. -/
inductive Strategy where
  /-- One breaker per operation, whatever the target. -/
  | operation
  /-- One breaker per destination. -/
  | target
  /-- One breaker per destination and operation. -/
  | targetAndOperation
deriving DecidableEq, Repr

/-- A name that no strategy has. -/
structure UnknownStrategy where
  name : String
deriving DecidableEq, Repr

namespace Strategy

instance : Inhabited Strategy := ⟨target⟩

/-- All strategies. -/
def all : List Strategy := [operation, target, targetAndOperation]

/-- The name under which a strategy is written. -/
def name : Strategy → String
  | operation => "operation"
  | target => "target"
  | targetAndOperation => "target_and_operation"

/-- The other name that a strategy answers to. -/
def otherName : Strategy → String
  | operation => "method"
  | target => "host"
  | targetAndOperation => "host_and_method"

/-- The strategy with exactly this name. -/
def ofName? (text : String) : Option Strategy :=
  all.find? fun s => s.name = text

/-- A character of a loosely spelled name: ASCII letters become small, a hyphen an underscore. -/
def normalChar (c : Char) : Char :=
  if c = '-' then '_' else c.toLower

/-- The strategy that a loosely spelled name denotes. -/
def parse (text : String) : Except UnknownStrategy Strategy :=
  let spelled := text.toList.map normalChar
  match all.find? fun s => s.name.toList = spelled ∨ s.otherName.toList = spelled with
  | some s => .ok s
  | none => .error ⟨text⟩

end Strategy

/-- What is said of a name that no strategy has. -/
def UnknownStrategy.message (e : UnknownStrategy) : String :=
  "unknown key strategy '" ++ e.name ++ "' (expected operation, target or target_and_operation)"

end KeyedBreakers
