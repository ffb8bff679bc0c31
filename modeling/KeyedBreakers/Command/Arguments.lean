import KeyedBreakers.Call.Target
import KeyedBreakers.Key.Strategy

/-!
# Arguments of the command line

Options have a long name and most have a short one. A value follows as the next argument, after an
equals sign, or directly after a short name. All other arguments are targets, and after `--` all
arguments are.

A value, or a run of targets, is checked when the next option starts or the arguments end, so the
first fault in this sense is reported; but an option that does not exist is reported before the
values that are still waiting for their check.

* `Arguments` — what the command is asked to do;
* `Arguments.parse` — reads them, or says why it stops.
-/

namespace KeyedBreakers

open KeyedBreakers.Text

/-- An option that takes a value. -/
inductive OptionName where
  | config
  | selector
  | operation
  | concurrency
deriving DecidableEq, Repr

namespace OptionName

/-- All options that take a value. -/
def all : List OptionName := [config, selector, operation, concurrency]

/-- The long name, without the hyphens. -/
def long : OptionName → String
  | config => "config"
  | selector => "selector"
  | operation => "operation"
  | concurrency => "concurrency"

/-- The short name, without the hyphen. -/
def short? : OptionName → Option Char
  | config => some 'c'
  | selector => some 's'
  | operation => some 'o'
  | concurrency => none

/-- The option as messages show it. -/
def shown (o : OptionName) : String :=
  "--" ++ o.long ++ " <" ++ o.long.map Char.toUpper ++ ">"

end OptionName

/-! ### Faults -/

/-- Why a text is not a count. -/
inductive CountError where
  | empty
  | invalidDigit
  | tooLarge
deriving DecidableEq, Repr

/-- What is said of a text that is not a count. -/
def CountError.message : CountError → String
  | empty => "cannot parse integer from empty string"
  | invalidDigit => "invalid digit found in string"
  | tooLarge => "number too large to fit in target type"

/-- What is wrong with the arguments. -/
inductive ArgumentError where
  /-- No option has this name. -/
  | unexpected (argument : String)
  /-- The request for help has a value. -/
  | helpWithValue (value : String)
  | missingValue (option : OptionName)
  | repeated (option : OptionName)
  | invalidSelector (cause : UnknownStrategy)
  | invalidConcurrency (value : String) (cause : CountError)
  | invalidTarget (value : String) (cause : UrlError)
  | missingTargets
deriving DecidableEq, Repr

/-- What is said of a value that does not fit its place. -/
def invalidValue (value place reason : String) : String :=
  "invalid value '" ++ value ++ "' for '" ++ place ++ "': " ++ reason

/-- What is said of faulty arguments. -/
def ArgumentError.message : ArgumentError → String
  | unexpected argument => "unexpected argument '" ++ argument ++ "' found"
  | helpWithValue value =>
    "unexpected value '" ++ value ++ "' for '--help' found; no more were expected"
  | missingValue option =>
    "a value is required for '" ++ option.shown ++ "' but none was supplied"
  | repeated option => "the argument '" ++ option.shown ++ "' cannot be used multiple times"
  | invalidSelector cause => invalidValue cause.name OptionName.selector.shown cause.message
  | invalidConcurrency value cause =>
    invalidValue value OptionName.concurrency.shown cause.message
  | invalidTarget value cause => invalidValue value "<TARGETS>..." cause.message
  | missingTargets => "the following required arguments were not provided:"

/-- Why the arguments are not read to their end. -/
inductive Stop where
  /-- Help is asked for. -/
  | help
  | faulty (cause : ArgumentError)
deriving DecidableEq, Repr

/-! ### Values -/

/-- Adds the digits at the front to a number, up to a limit. -/
def countDigits (limit : Nat) : Nat → List Char → Except CountError Nat
  | n, [] => .ok n
  | n, c :: cs =>
    if c.isDigit then
      let n := n * 10 + (c.toNat - 48)
      if limit < n then .error .tooLarge else countDigits limit n cs
    else .error .invalidDigit

/-- The count that a text denotes, with an optional plus sign, of at most sixty-four bits. -/
def readCount (text : String) : Except CountError Nat :=
  match text.toList with
  | [] => .error .empty
  | ['+'] => .error .invalidDigit
  | '+' :: digits => countDigits (Nat.pow 2 64 - 1) 0 digits
  | digits => countDigits (Nat.pow 2 64 - 1) 0 digits

/-- The values that have been given so far. -/
structure Given where
  config : Option String := none
  selector : Option Strategy := none
  operation : Option String := none
  concurrency : Option Nat := none
  targets : List Target := []

namespace Given

/-- Whether an option has a value already. -/
def has (g : Given) : OptionName → Bool
  | .config => g.config.isSome
  | .selector => g.selector.isSome
  | .operation => g.operation.isSome
  | .concurrency => g.concurrency.isSome

/-- Sets an option to the value that a text denotes. -/
def set (g : Given) (option : OptionName) (value : String) : Except ArgumentError Given :=
  match option with
  | .config =>
    if value = "" then .error (.missingValue .config) else .ok { g with config := some value }
  | .selector =>
    match Strategy.parse value with
    | .ok strategy => .ok { g with selector := some strategy }
    | .error cause => .error (.invalidSelector cause)
  | .operation => .ok { g with operation := some value }
  | .concurrency =>
    match readCount value with
    | .ok n => .ok { g with concurrency := some n }
    | .error cause => .error (.invalidConcurrency value cause)

/-- Gives an option the value that follows it, if one does, for the first time. -/
def accept (g : Given) (option : OptionName) : Option String → Except ArgumentError Given
  | none => .error (.missingValue option)
  | some value => if g.has option then .error (.repeated option) else g.set option value

/-- Adds a target. -/
def addTarget (g : Given) (value : String) : Except ArgumentError Given :=
  match Target.parse value with
  | .ok target => .ok { g with targets := g.targets ++ [target] }
  | .error cause => .error (.invalidTarget value cause)

end Given

/-! ### Reading -/

/-- What waits for its check. -/
inductive Pending where
  /-- An option with the value that follows it, once there is one. -/
  | option (name : OptionName) (value : Option String)
  /-- A run of targets. -/
  | targets (values : List String)

/-- How far the arguments have been read. -/
structure Progress where
  given : Given := {}
  pending : Option Pending := none
  /-- All further arguments are targets. -/
  targetsOnly : Bool := false

namespace Progress

/-- Checks what waits for it. -/
def settle (p : Progress) : Except ArgumentError Progress :=
  match p.pending with
  | none => .ok p
  | some (.option name value) =>
    (p.given.accept name value).map fun g => { p with given := g, pending := none }
  | some (.targets values) =>
    (values.foldlM Given.addTarget p.given).map fun g => { p with given := g, pending := none }

/-- Starts an option whose value may be the next argument. -/
def start (p : Progress) (option : OptionName) : Except ArgumentError Progress := do
  let p ← p.settle
  return { p with pending := some (.option option none) }

/-- Takes an option together with its value. -/
def take (p : Progress) (option : OptionName) (value : String) :
    Except ArgumentError Progress := do
  let p ← p.settle
  let g ← p.given.accept option (some value)
  return { p with given := g }

/-- Takes a target. -/
def takeTarget (p : Progress) (value : String) : Except ArgumentError Progress :=
  match p.pending with
  | some (.targets values) => .ok { p with pending := some (.targets (values ++ [value])) }
  | _ => do
    let p ← p.settle
    return { p with pending := some (.targets [value]) }

/-- Takes an argument that is no option: the value of the option before it, or a target. -/
def takePlain (p : Progress) (value : String) : Except ArgumentError Progress :=
  match p.pending with
  | some (.option name none) => .ok { p with pending := some (.option name (some value)) }
  | _ => p.takeTarget value

/-- Stops for a request for help. -/
def stopForHelp (p : Progress) : Except Stop Progress :=
  match p.settle with
  | .ok _ => .error .help
  | .error cause => .error (.faulty cause)

/-- Takes an option by its long name; `body` is what follows the hyphens. -/
def takeLong (p : Progress) (body : List Char) : Except Stop Progress :=
  let (name, value) := match cutFirst? '=' body with
    | some (name, value) => (String.ofList name, some (String.ofList value))
    | none => (String.ofList body, none)
  if name = "help" then
    match value with
    | none => p.stopForHelp
    | some value => .error (.faulty (.helpWithValue value))
  else
    match OptionName.all.find? (·.long = name), value with
    | none, _ => .error (.faulty (.unexpected ("--" ++ name)))
    | some option, none => (p.start option).mapError .faulty
    | some option, some value => (p.take option value).mapError .faulty

/-- Takes an option by its short name, with what follows the name. -/
def takeShort (p : Progress) (name : Char) (rest : List Char) : Except Stop Progress :=
  if name = 'h' then p.stopForHelp
  else
    match OptionName.all.find? (·.short? = some name), rest with
    | none, _ => .error (.faulty (.unexpected (String.ofList ['-', name])))
    | some option, [] => (p.start option).mapError .faulty
    | some option, '=' :: value => (p.take option (String.ofList value)).mapError .faulty
    | some option, value => (p.take option (String.ofList value)).mapError .faulty

/-- Reads one more argument. -/
def read (p : Progress) (argument : String) : Except Stop Progress :=
  if p.targetsOnly then (p.takeTarget argument).mapError .faulty
  else
    match argument.toList with
    | ['-', '-'] => .ok { p with targetsOnly := true }
    | '-' :: '-' :: body => p.takeLong body
    | '-' :: name :: rest => p.takeShort name rest
    | _ => (p.takePlain argument).mapError .faulty

end Progress

/-- What the command is asked to do. -/
structure Arguments where
  /-- The path of the configuration. -/
  config : Option String := none
  /-- The strategy that replaces the configured one. -/
  selector : Option Strategy := none
  operation : String := "Ping"
  /-- How many times each target is resolved. -/
  concurrency : Nat := 4
  targets : List Target

/-- Reads the arguments of the command. -/
def Arguments.parse (arguments : List String) : Except Stop Arguments := do
  let p ← arguments.foldlM Progress.read {}
  let p ← p.settle.mapError .faulty
  let g := p.given
  if g.targets = [] then .error (.faulty .missingTargets)
  else
    return {
      config := g.config
      selector := g.selector
      operation := g.operation.getD "Ping"
      concurrency := g.concurrency.getD 4
      targets := g.targets }

end KeyedBreakers
