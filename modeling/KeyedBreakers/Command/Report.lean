import KeyedBreakers.Registry.Resolve
import KeyedBreakers.Registry.Session

/-!
# Reports

The command resolves every target several times and reports, for each distinct text, either the key
and the breaker it landed on with the number of times it did, or why it failed. The report depends
on the outcomes of the resolutions alone. Which serial a breaker got depends on who came first, so
breakers are shown by numbers in the order in which the report mentions them.

* `TargetReport.ofOutcomes` — the report on resolutions in the order in which they were started;
* `TargetReport.lines`, `TargetReport.failureLines` — the report as it is printed.
-/

namespace KeyedBreakers

open KeyedBreakers.Text

/-- Where a target landed, and how often. -/
structure Landing where
  key : String
  serial : Nat
  count : Nat
deriving DecidableEq, Repr

/-- A target that landed on two breakers. -/
structure Conflict where
  target : String
  first : Nat
  other : Nat
deriving DecidableEq, Repr

/-- What became of the targets. -/
structure TargetReport where
  /-- Where the targets that have a key landed, by their text. -/
  landings : Directory Landing := ∅
  /-- What was said of the targets that failed, by their text. -/
  failures : Directory String := ∅
  conflicts : List Conflict := []

namespace TargetReport

/-- The report with one more landing of a target. -/
def addLanding (report : TargetReport) (target : String) (b : Breaker String) : TargetReport :=
  match report.landings.find? target with
  | none => { report with landings := report.landings.insert target ⟨b.key, b.serial, 1⟩ }
  | some landing =>
    { report with
      landings := report.landings.insert target { landing with count := landing.count + 1 }
      conflicts := report.conflicts ++
        if landing.serial = b.serial then [] else [⟨target, landing.serial, b.serial⟩] }

/-- The report with the outcome of one more resolution of a target. -/
def add (report : TargetReport) (target : String) : Outcome String → TargetReport
  | .ok b => report.addLanding target b
  | .error e => { report with failures := report.failures.insert target e.message }

/-- The report on the given outcomes. -/
def ofOutcomes (outcomes : List (String × Outcome String)) : TargetReport :=
  outcomes.foldl (fun report o => report.add o.1 o.2) {}

/-- The numbers of the breakers that the report mentions. -/
def numbering (report : TargetReport) : Numbering :=
  report.landings.toList.foldl (fun n l => n.see l.2.serial) []

/-- The line for a target that landed. -/
def landingLine (numbering : Numbering) (target : String) (l : Landing) : String :=
  target ++ " -> " ++ l.key ++ " -> breaker #" ++
    String.ofList (decimal (numbering.number l.serial)) ++ " (" ++
    String.ofList (decimal l.count) ++ " resolutions)"

/-- The lines for the targets that landed. -/
def lines (report : TargetReport) : List String :=
  report.landings.toList.map fun (target, l) => landingLine report.numbering target l

/-- The lines for the targets that failed. -/
def failureLines (report : TargetReport) : List String :=
  report.failures.toList.map fun (target, cause) => target ++ " -> error: " ++ cause

/-- The number of distinct texts of targets that failed. -/
def failureCount (report : TargetReport) : Nat :=
  report.failures.toList.length

end TargetReport

end KeyedBreakers
