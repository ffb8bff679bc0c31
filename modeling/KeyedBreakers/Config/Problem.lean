import KeyedBreakers.Config.Basic
import KeyedBreakers.Log.Level
import KeyedBreakers.Text.Blank

/-!
# Problems of a configuration

A configuration can fit its form and still make no sense. All its problems are found, not only the
first, always in the same order.
-/

namespace KeyedBreakers

open KeyedBreakers.Text

/-- A setting that makes no sense. -/
inductive Problem where
  /-- The name is empty but for white space. -/
  | emptyName
  /-- No level has this name. -/
  | unknownLogLevel (level : String)
deriving DecidableEq, Repr

/-- What is said of a problem. -/
def Problem.message : Problem → String
  | emptyName => "registry name must not be empty"
  | unknownLogLevel level => "unknown log level '" ++ level ++ "'"

/-- The problems of a configuration, in order. -/
def Config.problems (config : Config) : List Problem :=
  (if allBlank config.name then [.emptyName] else []) ++
    (if (Level.ofName? config.telemetry.logLevel).isSome then []
      else [.unknownLogLevel config.telemetry.logLevel])

end KeyedBreakers
