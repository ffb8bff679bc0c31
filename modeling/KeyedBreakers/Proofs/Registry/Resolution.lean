import KeyedBreakers.Registry.Resolve
import Mathlib.Data.List.Basic

/-!
# One call at a time

What `Registry.resolveKey` comes to is said here case by case, so that no later proof has to open it. A
call hits the breaker of its key, or it calls the factory; then it leaves the factory in one of three
ways. Of a call whose factory calls the registry back, everything is said by what comes of the call
inside it, so facts on all calls are proved by induction on how deep they go
(`Registry.resolveKey_induction`).

* `Occurrence.entered?`, `.event?`, `.update?`, `.returned?` — the four kinds of what a trace tells;
* `Registry.leave_of_failure`, `.leave_of_bound`, `.leave_of_unbound` — the ends of a factory call;
* `Registry.resolveKey_of_bound`, `.resolveKey_of_plain`, `.resolveKey_of_reenter` — the ways of a call;
* `Registry.resolveKey_induction` — what holds of the call inside carries over to the call outside.
-/

namespace KeyedBreakers

variable {K : Type}

/-! ### What a trace tells -/

namespace Occurrence

/-- The key that the factory is called for. -/
@[simp] def entered? : Occurrence K → Option K
  | .entered key => some key
  | _ => none

/-- The event that is logged. -/
@[simp] def event? : Occurrence K → Option (Event K)
  | .logged event => some event
  | _ => none

/-- The update of a metric. -/
@[simp] def update? : Occurrence K → Option Update
  | .updated update => some update
  | _ => none

/-- What a call that the factory made has ended with. -/
@[simp] def returned? : Occurrence K → Option (Outcome K)
  | .returned outcome => some outcome
  | _ => none

end Occurrence

namespace Registry

/-! ### Metrics are updates and nothing else -/

/-- Whatever is told of a metric is an update. -/
theorem exists_counted_eq (r : Registry K) (metric : Metric) :
    ∃ updates : List Update, r.counted metric = updates.map .updated := by
  unfold counted
  split
  · exact ⟨[_], rfl⟩
  · exact ⟨[], rfl⟩

theorem exists_gauged_eq (r : Registry K) (size : Nat) :
    ∃ updates : List Update, r.gauged size = updates.map .updated := by
  unfold gauged
  split
  · exact ⟨[_], rfl⟩
  · exact ⟨[], rfl⟩

variable [DecidableEq K]

/-! ### Leaving the factory -/

variable {r : Registry K} {key : K} {plans : List (Plan K)}

theorem leave_of_failure (r : Registry K) (key : K) (cause : String) (plans : List (Plan K)) :
    r.leave key (some cause) plans
      = ⟨.error (.creation key cause), r, plans,
          .logged (.creationFailed key cause) :: r.counted .failures⟩ := rfl

/-- The instance is dropped for the breaker that the key has by now. -/
theorem leave_of_bound {winner : Breaker K} (h : r.get? key = some winner) (plans : List (Plan K)) :
    r.leave key none plans
      = ⟨.ok winner, { r with made := r.made + 1 }, plans,
          .logged (.lostRace key) :: r.counted .raceLosses ++ r.gauged r.size⟩ := by
  have h_get : (r.make key).2.get? (r.make key).1.key = some winner := h
  unfold leave
  simp only [settle_of_bound h_get]
  rfl

/-- The instance becomes the breaker of its key. -/
theorem leave_of_unbound (h : r.get? key = none) (plans : List (Plan K)) :
    r.leave key none plans
      = ⟨.ok ⟨r.made, key⟩,
          { r with made := r.made + 1, bindings := r.bindings ++ [(key, ⟨r.made, key⟩)] }, plans,
          .logged (.created key) :: r.counted .created ++ r.gauged (r.size + 1)⟩ := by
  have h_get : (r.make key).2.get? (r.make key).1.key = none := h
  have h_settle := settle_of_unbound h_get
  have h_size : ((r.make key).2.settle (r.make key).1).registry.size = r.size + 1 := by
    rw [h_settle]
    exact List.length_append
  unfold leave
  simp only [h_size]
  rw [h_settle]
  rfl

@[simp] theorem plans_leave (r : Registry K) (key : K) (failure : Option String)
    (plans : List (Plan K)) : (r.leave key failure plans).plans = plans := by
  cases failure <;> rfl

/-- A factory call changes no settings. -/
theorem settings_leave (r : Registry K) (key : K) (failure : Option String)
    (plans : List (Plan K)) : (r.leave key failure plans).registry.settings = r.settings := by
  cases failure with
  | some cause => rfl
  | none =>
    cases h : r.get? key with
    | some winner =>
      rw [leave_of_bound h]
      rfl
    | none =>
      rw [leave_of_unbound h]
      rfl

/-! ### The ways of a call -/

theorem resolveKey_of_bound {b : Breaker K} (h : r.get? key = some b) (plans : List (Plan K)) :
    resolveKey plans r key = ⟨.ok b, r, plans, []⟩ := by
  cases plans with
  | nil => simp only [resolveKey, h]
  | cons plan plans => simp only [resolveKey, h]

/-- The factory is called and makes no call of its own: it has no plan, or one that has none. -/
theorem resolveKey_of_plain (h : r.get? key = none) (h_plain : plans.head?.bind (·.reenter) = none) :
    resolveKey plans r key =
      { r.leave key (plans.head?.bind (·.failure)) plans.tail with
        trace := .entered key ::
          (r.leave key (plans.head?.bind (·.failure)) plans.tail).trace } := by
  cases plans with
  | nil => simp only [resolveKey, h, List.head?_nil, Option.bind_none, List.tail_nil]
  | cons plan plans =>
    have h_none : plan.reenter = none := h_plain
    simp only [resolveKey, h, h_none, List.head?_cons, Option.bind_some, List.tail_cons]

/-- The factory is called and resolves a key before it does anything else. -/
theorem resolveKey_of_reenter {plan : Plan K} {inner : K} {first : Report K}
    (h : r.get? key = none) (h_inner : plan.reenter = some inner)
    (h_first : resolveKey plans r inner = first) :
    resolveKey (plan :: plans) r key =
      { first.registry.leave key plan.failure first.plans with
        trace := .entered key :: first.trace ++
          .returned first.outcome :: (first.registry.leave key plan.failure first.plans).trace } := by
  simp only [resolveKey, h, h_inner, h_first]

/-- **Calls inside calls, by induction.** What holds of a call that hits, and of one whose factory makes
no call, holds of every call if the call inside a factory hands it on to the one outside. All look-ups
see the same registry: nothing is bound on the way in. -/
theorem resolveKey_induction (r : Registry K) {motive : List (Plan K) → K → Prop}
    (h_hit : ∀ plans key b, r.get? key = some b → motive plans key)
    (h_plain : ∀ plans key, r.get? key = none → plans.head?.bind (·.reenter) = none →
      motive plans key)
    (h_reenter : ∀ plan plans key inner, r.get? key = none → plan.reenter = some inner →
      motive plans inner → motive (plan :: plans) key)
    (plans : List (Plan K)) (key : K) : motive plans key := by
  induction plans generalizing key with
  | nil =>
    cases h_get : r.get? key with
    | some b => exact h_hit [] key b h_get
    | none => exact h_plain [] key h_get rfl
  | cons plan plans ih =>
    cases h_get : r.get? key with
    | some b => exact h_hit (plan :: plans) key b h_get
    | none =>
      cases h_inner : plan.reenter with
      | none => exact h_plain (plan :: plans) key h_get h_inner
      | some inner => exact h_reenter plan plans key inner h_get h_inner (ih inner)

/-- A call changes no settings. -/
theorem settings_resolveKey (plans : List (Plan K)) (r : Registry K) (key : K) :
    (resolveKey plans r key).registry.settings = r.settings := by
  induction plans, key using resolveKey_induction r with
  | h_hit plans key b h_get => rw [resolveKey_of_bound h_get]
  | h_plain plans key h_get h_plain =>
    rw [resolveKey_of_plain h_get h_plain]
    exact settings_leave ..
  | h_reenter plan plans key inner h_get h_inner ih =>
    rw [resolveKey_of_reenter h_get h_inner rfl]
    exact (settings_leave ..).trans ih

theorem settings_resolve (plans : List (Plan K)) (r : Registry K) (call : Call) :
    (resolve plans r call).registry.settings = r.settings := by
  cases h_key : r.selector call with
  | error cause => rw [resolve, h_key]
  | ok key =>
    rw [resolve, h_key]
    exact settings_resolveKey plans r key

end Registry

end KeyedBreakers
