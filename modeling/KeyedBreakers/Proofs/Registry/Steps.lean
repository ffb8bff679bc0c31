import KeyedBreakers.Registry.Session
import Mathlib.Data.List.Basic

/-!
# The steps of a session, registry by registry

Registries share nothing, so what a step does depends on the steps before it on the same registry and
on no other. A session is therefore many runs side by side, one for each registry.

* `Registry.performAll`, `Registry.afterAll` — steps on one registry;
* `Session.run_cons_of_some`, `Session.run_cons_of_none` — the first step of a run;
* `Session.run_at` — what a registry goes through in a session is what it would go through alone.
-/

namespace KeyedBreakers

variable {K : Type} [DecidableEq K] [RegistryKey K]

namespace Registry

/-- The performances of steps on one registry, one after another. -/
def performAll (r : Registry K) : List (Step K) → List (Performance K)
  | [] => []
  | step :: steps => r.perform step :: performAll (r.perform step).registry steps

/-- The registry after steps on it. -/
def afterAll (r : Registry K) (steps : List (Step K)) : Registry K :=
  steps.foldl (fun r step => (r.perform step).registry) r

theorem length_performAll (r : Registry K) (steps : List (Step K)) :
    (r.performAll steps).length = steps.length := by
  induction steps generalizing r with
  | nil => rfl
  | cons step steps ih => rw [performAll, List.length_cons, List.length_cons, ih]

end Registry

namespace Session

variable {s : Session K} {place : Nat} {r : Registry K}

/-! ### The first step of a run -/

theorem run_cons_of_some (h : s[place]? = some r) (step : Step K) (steps : List (Nat × Step K)) :
    s.run ((place, step) :: steps) =
      ((place, r.perform step) :: (Session.run (s.set place (r.perform step).registry) steps).1,
        (Session.run (s.set place (r.perform step).registry) steps).2) := by
  have h_perform : s.perform place step
      = some (r.perform step, s.set place (r.perform step).registry) := by
    rw [perform, h]
    rfl
  rw [run, h_perform]

theorem run_cons_of_none (h : s[place]? = none) (step : Step K) (steps : List (Nat × Step K)) :
    s.run ((place, step) :: steps) = s.run steps := by
  have h_perform : s.perform place step = none := by
    rw [perform, h]
    rfl
  rw [run, h_perform]

/-! ### Each registry for itself -/

section Place

variable {α : Type}

/-- What has the given place, in order: of the steps of a session, or of their performances. -/
def atPlace (place : Nat) (xs : List (Nat × α)) : List α :=
  (xs.filter (·.1 = place)).map (·.2)

theorem atPlace_cons_self (place : Nat) (x : α) (xs : List (Nat × α)) :
    atPlace place ((place, x) :: xs) = x :: atPlace place xs := by
  simp [atPlace]

theorem atPlace_cons_of_ne {other : Nat} (h : other ≠ place) (x : α) (xs : List (Nat × α)) :
    atPlace place ((other, x) :: xs) = atPlace place xs := by
  simp [atPlace, h]

end Place

/-- **A registry goes through a session as it would go alone**, by induction on the run: a step on
another place leaves the registry as it is. -/
theorem run_at (h : s[place]? = some r) (steps : List (Nat × Step K)) :
    atPlace place (s.run steps).1 = r.performAll (atPlace place steps) ∧
      (s.run steps).2[place]? = some (r.afterAll (atPlace place steps)) := by
  induction steps generalizing s r with
  | nil => exact ⟨rfl, h⟩
  | cons head steps ih =>
    obtain ⟨other, step⟩ := head
    by_cases h_other : other = place
    · -- the step is the registry's own: it performs it, and so does the registry when alone
      subst h_other
      have h_set : (s.set other (r.perform step).registry)[other]? = some (r.perform step).registry :=
        List.getElem?_set_self (List.getElem?_eq_some_iff.1 h).1
      rw [run_cons_of_some h, atPlace_cons_self, atPlace_cons_self, (ih h_set).1, (ih h_set).2]
      exact ⟨rfl, rfl⟩
    · -- the step is on another place, if there is a registry at all
      rw [atPlace_cons_of_ne h_other]
      cases h_r : s[other]? with
      | none =>
        rw [run_cons_of_none h_r]
        exact ih h
      | some r' =>
        have h_set : (s.set other (r'.perform step).registry)[place]? = some r := by
          rw [List.getElem?_set_ne h_other, h]
        rw [run_cons_of_some h_r, atPlace_cons_of_ne h_other]
        exact ih h_set

/-- A session with one registry. -/
theorem run_singleton (r : Registry K) (steps : List (Step K)) :
    Session.run [r] (steps.map fun step => (0, step)) =
      ((r.performAll steps).map fun p => (0, p), [r.afterAll steps]) := by
  induction steps generalizing r with
  | nil => rfl
  | cons step steps ih =>
    have h_first : ([r] : Session K)[0]? = some r := rfl
    have h_set : ([r] : Session K).set 0 (r.perform step).registry = [(r.perform step).registry] :=
      rfl
    rw [List.map_cons, run_cons_of_some h_first, h_set, ih]
    rfl

end Session

end KeyedBreakers
