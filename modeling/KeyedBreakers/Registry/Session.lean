import KeyedBreakers.Registry.Race
import KeyedBreakers.Registry.Resolve

/-!
# Sessions

A session is a list of registries and a list of steps, each on one of them. A step asks a registry
to resolve a call or a key, or only looks at it. Registries share nothing, so a step changes the one
it is on and no other.

* `Registry.perform` — one step on one registry;
* `Session.perform`, `Session.run` — steps on a list of registries;
* `Numbering` — numbers for instances in the order in which they are first seen.
-/

namespace KeyedBreakers

/-- One step on a registry. -/
inductive Step (K : Type) where
  | resolve (call : Call) (plans : List (Plan K))
  | resolveKey (key : K) (plans : List (Plan K))
  /-- As many threads as `count` make the same call at once; all factory calls end alike. -/
  | race (count : Nat) (call : Call) (failure : Option String)
  | get (key : K)
  | contains (key : K)
  | keys
  | size
  | isEmpty
  | name
  | described

/-- What a step answers. -/
inductive Answer (K : Type) where
  | outcome (outcome : Outcome K)
  | outcomes (outcomes : List (Outcome K))
  | found (breaker : Option (Breaker K))
  | keys (keys : List K)
  | count (n : Nat)
  | flag (b : Bool)
  | text (s : String)

/-- A step's answer, with the registry after it and all that the registry did. -/
structure Performance (K : Type) where
  answer : Answer K
  registry : Registry K
  trace : List (Occurrence K)

/-- The performance of a step that resolves one call. -/
def Report.performance {K : Type} (report : Report K) : Performance K :=
  ⟨.outcome report.outcome, report.registry, report.trace⟩

namespace Registry

variable {K : Type} [DecidableEq K]

/-- The performance of a step that leaves the registry as it is. -/
def look (r : Registry K) (answer : Answer K) : Performance K := ⟨answer, r, []⟩

/-- One step on a registry. -/
def perform [RegistryKey K] (r : Registry K) : Step K → Performance K
  | .resolve call plans => (resolve plans r call).performance
  | .resolveKey key plans => (resolveKey plans r key).performance
  | .race count call failure =>
    let s := r.race count call failure
    ⟨.outcomes ((List.range count).flatMap s.outcomesOf), s.registry, s.occurrences⟩
  | .get key => r.look (.found (r.get? key))
  | .contains key => r.look (.flag (r.contains key))
  | .keys => r.look (.keys r.sortedKeys)
  | .size => r.look (.count r.size)
  | .isEmpty => r.look (.flag r.isEmpty)
  | .name => r.look (.text r.name)
  | .described => r.look (.text r.described)

end Registry

/-! ### Several registries -/

/-- The registries of a session. -/
abbrev Session (K : Type) := List (Registry K)

namespace Session

variable {K : Type} [DecidableEq K] [RegistryKey K]

/-- One step on the registry with the given place, if there is one. -/
def perform (s : Session K) (place : Nat) (step : Step K) : Option (Performance K × Session K) :=
  s[place]?.map fun r =>
    let p := r.perform step
    (p, s.set place p.registry)

/-- The performances of steps one after another; steps on places without a registry are skipped. -/
def run (s : Session K) : List (Nat × Step K) → List (Nat × Performance K) × Session K
  | [] => ([], s)
  | (place, step) :: steps =>
    match s.perform place step with
    | none => run s steps
    | some (p, s) =>
      let (rest, s) := run s steps
      ((place, p) :: rest, s)

end Session

/-! ### Numbers for instances -/

/-- The serials of the instances that have been seen, in the order of their first sight. -/
abbrev Numbering := List Nat

namespace Numbering

/-- The numbering after one more sight. -/
def see (n : Numbering) (serial : Nat) : Numbering :=
  if serial ∈ n then n else n ++ [serial]

/-- The number of an instance that has been seen. -/
def number (n : Numbering) (serial : Nat) : Nat :=
  n.idxOf serial + 1

end Numbering

end KeyedBreakers
