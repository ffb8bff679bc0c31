import KeyedBreakers.Registry.Basic

/-!
# Resolving calls one after another

A call is resolved by looking its key up and, if the key has no breaker, calling the factory and
binding what it made. The factory may itself resolve a key on the registry before it makes the
breaker or fails; if that key is the same, the inner call binds first and the outer one loses.

What the factory does is a list of plans, one for each time it is called; without a plan it makes a
breaker and nothing else. A call uses up the plans of the factory calls inside it, so the list gets
shorter with every level of nesting.

* `Registry.resolveKey` — the breaker of a key;
* `Registry.resolve` — the breaker of a call;
* `BreakerSource` — whatever finds the breaker that guards a call.
-/

namespace KeyedBreakers

/-- What the factory does when it is called. -/
structure Plan (K : Type) where
  /-- The key that it resolves first. -/
  reenter : Option K := none
  /-- Why it fails, if it does. -/
  failure : Option String := none
deriving DecidableEq, Repr

/-- What comes of a call. -/
structure Report (K : Type) where
  outcome : Outcome K
  registry : Registry K
  /-- The plans that are left. -/
  plans : List (Plan K)
  /-- All that the registry did, in order. -/
  trace : List (Occurrence K)

namespace Registry

variable {K : Type} [DecidableEq K]

/-- The end of a factory call: it fails, or makes an instance that is settled then. -/
def leave (r : Registry K) (key : K) (failure : Option String) (plans : List (Plan K)) :
    Report K :=
  match failure with
  | some cause => ⟨.error (.creation key cause), r, plans, r.toldFailure key cause⟩
  | none =>
    let (breaker, r) := r.make key
    let s := r.settle breaker
    ⟨.ok s.winner, s.registry, plans, s.trace ++ s.registry.gauged s.registry.size⟩

/-- The breaker of a key, made if the key has none. -/
def resolveKey : (plans : List (Plan K)) → Registry K → K → Report K
  | [], r, key =>
    match r.get? key with
    | some breaker => ⟨.ok breaker, r, [], []⟩
    | none =>
      let last := r.leave key none []
      { last with trace := .entered key :: last.trace }
  | plan :: plans, r, key =>
    match r.get? key with
    | some breaker => ⟨.ok breaker, r, plan :: plans, []⟩
    | none =>
      match plan.reenter with
      | none =>
        let last := r.leave key plan.failure plans
        { last with trace := .entered key :: last.trace }
      | some inner =>
        let first := resolveKey plans r inner
        let last := first.registry.leave key plan.failure first.plans
        { last with
          trace := .entered key :: first.trace ++ .returned first.outcome :: last.trace }

/-- The breaker of a call, made if its key has none. -/
def resolve (plans : List (Plan K)) (r : Registry K) (call : Call) : Report K :=
  match r.selector call with
  | .error cause => ⟨.error (.keyDerivation cause), r, plans, toldUnderivable call cause⟩
  | .ok key => resolveKey plans r key

end Registry

/-- Whatever finds the breaker that guards a call. -/
class BreakerSource (M : Type) (K : outParam Type) where
  /-- What comes of asking for the breaker of a call. -/
  breakerFor : List (Plan K) → M → Call → Report K

instance {K : Type} [DecidableEq K] : BreakerSource (Registry K) K where
  breakerFor := Registry.resolve

end KeyedBreakers
