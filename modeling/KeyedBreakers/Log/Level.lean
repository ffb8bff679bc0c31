/-!
# Levels

Records of the log have a level, from errors to the finest detail. The case of the letters of a
level's name does not matter.
-/

namespace KeyedBreakers

/-- How much a record of the log matters. -/
inductive Level where
  | error
  | warn
  | info
  | debug
  | trace
deriving DecidableEq, Repr

namespace Level

/-- All levels, the weightiest first. -/
def all : List Level := [error, warn, info, debug, trace]

/-- The name of a level. -/
def name : Level → String
  | error => "error"
  | warn => "warn"
  | info => "info"
  | debug => "debug"
  | trace => "trace"

/-- The name as records show it. -/
def shown : Level → String
  | error => "ERROR"
  | warn => "WARN"
  | info => "INFO"
  | debug => "DEBUG"
  | trace => "TRACE"

/-- How fine a level is, from one for errors to five. -/
def fineness : Level → Nat
  | error => 1
  | warn => 2
  | info => 3
  | debug => 4
  | trace => 5

/-- The level with the given name, in whatever case it is spelled. -/
def ofName? (text : String) : Option Level :=
  let spelled := text.toList.map Char.toLower
  all.find? fun level => level.name.toList = spelled

end Level

end KeyedBreakers
