import KeyedBreakers.Command.Arguments
import KeyedBreakers.Command.Report
import KeyedBreakers.Config.Load
import KeyedBreakers.Log.Filter

/-!
# The command

The command resolves the breaker of every target it is given, as often as it is asked to, and prints
where each landed. Records of the log go to the same place as the results; failures go to the
errors.

* `Environment` — what the command can see besides its arguments;
* `Output` — all that it does: what it prints and how it ends;
* `Command.run` — the output for given arguments.
-/

namespace KeyedBreakers

open KeyedBreakers.Text

/-- What the command can see. -/
structure Environment where
  /-- The filter of the log that the caller wants. -/
  logFilter : Option String := none
  /-- What stands at a path. -/
  file : String → FileContent

/-- A text that the command prints. -/
inductive Printed where
  | result (text : String)
  /-- A record of the log. -/
  | logged (text : String)
deriving DecidableEq, Repr

/-- All that the command does. -/
structure Output where
  exitCode : Nat
  printed : List Printed := []
  errors : List String := []
deriving DecidableEq, Repr

namespace Command

/-! ### Texts -/

/-- The origin of the command's own records. -/
def ownOrigin : String := "breaker_registry"

/-- The origin of the records of registries. -/
def registryOrigin : String := "breaker_registry::resilience::registry"

/-- What is printed for a request for help. -/
def help : List String := [
  "Show which circuit breaker guards each call target",
  "",
  "Usage: breaker-registry [OPTIONS] <TARGETS>...",
  "",
  "Arguments:",
  "  <TARGETS>...  Call targets, e.g. http://example.org:8080/",
  "",
  "Options:",
  "  -c, --config <CONFIG>            TOML configuration file",
  "  -s, --selector <SELECTOR>        Override the configured key selector " ++
    "(operation, target, target_and_operation)",
  "  -o, --operation <OPERATION>      Operation invoked on every target [default: Ping]",
  "      --concurrency <CONCURRENCY>  Concurrent resolutions per target [default: 4]",
  "  -h, --help                       Print help"]

/-- A problem as the command ends with it. -/
def describedProblem : Problem → String
  | .emptyName => "EmptyName"
  | .unknownLogLevel level => "UnknownLogLevel(" ++ Quoted.encode level ++ ")"

/-- An unreadable path as the command ends with it. -/
def describedReadError : ReadError → String
  | .notFound =>
    "Os \x7b code: 2, kind: NotFound, message: \"No such file or directory\" \x7d"
  | .isDirectory => "Os \x7b code: 21, kind: IsADirectory, message: \"Is a directory\" \x7d"
  | .notUtf8 =>
    "Error \x7b kind: InvalidData, message: \"stream did not contain valid UTF-8\" \x7d"

/-- A configuration that cannot be loaded as the command ends with it. -/
def describedConfigError : ConfigError → String
  | .unreadable cause => "Io(" ++ describedReadError cause ++ ")"
  | .notToml | .unfit _ => "Parse"
  | .invalid problems =>
    "Validation([" ++
      String.ofList (joinWith [',', ' '] (problems.map fun p => (describedProblem p).toList)) ++
      "])"

/-! ### The log -/

/-- The filter that the caller wants, or else the one for the configured level. -/
def filterOf (wanted : Option String) (config : Config) : Filter :=
  match wanted.bind Filter.parse? with
  | some filter => filter
  | none =>
    match Level.ofName? config.telemetry.logLevel with
    | some level => Filter.upTo ownOrigin level
    | none => ⟨[]⟩

/-- The record of the log at the start. -/
def startRecord : Record := ⟨.info, "breaker-registry v0.1.0 starting", []⟩

/-- The record of the log at the end. -/
def endRecord (r : Registry String) : Record :=
  ⟨.info, "Resolution complete",
    [⟨"registry", .text r.name⟩, ⟨"breakers", .count r.size⟩, ⟨"breakers_created", .count r.made⟩]⟩

/-- The record of the log for a target that landed on two breakers. -/
def conflictRecord (c : Conflict) : Record :=
  ⟨.error, "Target resolved to two breakers",
    [⟨"target_url", .text c.target⟩, ⟨"first", .count (c.first + 1)⟩,
      ⟨"other", .count (c.other + 1)⟩]⟩

/-- The records that a registry's occurrences make. -/
def records (registry : String) (trace : List (Occurrence String)) : List Record :=
  trace.filterMap fun
    | .logged event => some (event.record registry)
    | _ => none

/-- The records that a filter lets through, as they are printed. -/
def logged (filter : Filter) (origin : String) (rs : List Record) : List Printed :=
  (rs.filter (filter.admits origin)).map fun r => .logged (r.line origin)

/-! ### Running -/

/-- The calls that the arguments ask for, in order. -/
def calls (arguments : Arguments) : List Call :=
  arguments.targets.flatMap fun target =>
    List.replicate (max arguments.concurrency 1)
      { target, options := {}, operation := arguments.operation, arguments := [] }

/-- Resolves calls one after another: the outcomes, the registry after them, and what it did. -/
def resolveAll (r : Registry String) :
    List Call → List (String × Outcome String) × Registry String × List (Occurrence String)
  | [] => ([], r, [])
  | call :: rest =>
    let report := Registry.resolve [] r call
    let (outcomes, r, trace) := resolveAll report.registry rest
    ((call.target.written, report.outcome) :: outcomes, r, report.trace ++ trace)

/-- The configuration that the arguments ask for. -/
def configOf (environment : Environment) (arguments : Arguments) :
    Except ConfigError Config := do
  let config ← match arguments.config with
    | some path => Config.load (environment.file path)
    | none => pure {}
  return { config with strategy := arguments.selector.getD config.strategy }

/-- The errors that a report ends with. -/
def finalErrors (report : TargetReport) : List String :=
  if report.failureCount = 0 then []
  else
    let said := String.ofList (decimal report.failureCount) ++ " target(s) failed to resolve"
    report.failureLines ++ ["Error: " ++ Quoted.encode said]

/-- The output once all calls have been resolved: with the given outcomes, in the order in which the
calls were started, on a registry that has come to `r` and has done what `trace` tells. -/
def conclude (filter : Filter) (config : Config) (outcomes : List (String × Outcome String))
    (r : Registry String) (trace : List (Occurrence String)) : Output :=
  let report := TargetReport.ofOutcomes outcomes
  let configured := (Registry.configured String config).record config.name
  { exitCode := if report.failureCount = 0 then 0 else 1
    printed :=
      logged filter ownOrigin [startRecord] ++
      logged filter registryOrigin (configured :: records config.name trace) ++
      logged filter ownOrigin (report.conflicts.map conflictRecord) ++
      report.lines.map .result ++
      logged filter ownOrigin [endRecord r]
    errors := finalErrors report }

/-- The output of resolving all targets on a registry with the given configuration. -/
def resolveTargets (filter : Filter) (config : Config) (arguments : Arguments) : Output :=
  let (outcomes, r, trace) := resolveAll (Registry.ofConfig config) (calls arguments)
  conclude filter config outcomes r trace

/-- The output of the command for given arguments. -/
def run (environment : Environment) (arguments : List String) : Output :=
  match Arguments.parse arguments with
  | .error .help => { exitCode := 0, printed := help.map .result }
  | .error (.faulty cause) => { exitCode := 2, errors := ["error: " ++ cause.message] }
  | .ok arguments =>
    match configOf environment arguments with
    | .error cause => { exitCode := 1, errors := ["Error: " ++ describedConfigError cause] }
    | .ok config => resolveTargets (filterOf environment.logFilter config) config arguments

end Command

end KeyedBreakers
