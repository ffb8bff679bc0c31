import KeyedBreakers.Proofs.Registry.Resolution
import KeyedBreakers.Proofs.Registry.Steps

/-!
# Failures and repeats leave no trace

Some steps on a registry could as well not have been made: those whose call has no key, those whose
factory fails before it has resolved anything itself, those that hit a breaker, and those that only
inspect. Each of them leaves the registry as it was, bindings, instances made and all, so that a run
without any of them goes on as the full run does.

A failure is therefore not remembered: until the factory is called for the key again, the key has no
breaker, and the next call for it calls the factory. A breaker, once bound, is always found: the
factory is never called for its key again.

* `Registry.Spare` — the steps that may be left out;
* `Registry.Spare.registry_eq` — such a step changes nothing;
* `Registry.get?_of_not_entered`, `Registry.not_entered_of_bound` — what a step does to a key
  without a breaker, and to one with a breaker;
* `Registry.spare_steps_leave_no_trace` — the main theorem.
-/

namespace KeyedBreakers

variable {K : Type}

/-- The breaker that a call has resolved which the factory made. -/
def Occurrence.resolved? : Occurrence K → Option (Breaker K)
  | .returned (.ok b) => some b
  | _ => none

namespace Step

/-- Whether a step only inspects the registry. -/
def inspects : Step K → Bool
  | .get _ | .contains _ | .keys | .size | .isEmpty | .name | .described => true
  | .resolve .. | .resolveKey .. | .race .. => false

/-- Whether threads race in a step; in all other steps there is one call at most. -/
def isRace : Step K → Bool
  | .race .. => true
  | _ => false

/-- The key that a single call resolves on a registry. -/
def key? (r : Registry K) : Step K → Option K
  | .resolve call _ => (r.selector call).toOption
  | .resolveKey key _ => some key
  | _ => none

end Step

namespace Registry

variable [DecidableEq K] {r : Registry K} {key k : K} {b : Breaker K} {plans : List (Plan K)}

/-! ### What a call does to a key -/

/-- Leaving the factory is no call of it. -/
theorem entered_notMem_leave (r : Registry K) (key k : K) (failure : Option String)
    (plans : List (Plan K)) : .entered k ∉ (r.leave key failure plans).trace := by
  have h_counted : ∀ metric, .entered k ∉ r.counted metric := by
    intro metric
    obtain ⟨updates, h_updates⟩ := r.exists_counted_eq metric
    simp [h_updates]
  have h_gauged : ∀ size, .entered k ∉ r.gauged size := by
    intro size
    obtain ⟨updates, h_updates⟩ := r.exists_gauged_eq size
    simp [h_updates]
  cases failure with
  | some cause => simp [leave_of_failure, h_counted]
  | none =>
    cases h : r.get? key with
    | some winner => simp [leave_of_bound h, h_counted, h_gauged]
    | none => simp [leave_of_unbound h, h_counted, h_gauged]

/-- A factory call for another key does not touch the key. -/
theorem get?_leave_of_ne (h : k ≠ key) (r : Registry K) (failure : Option String)
    (plans : List (Plan K)) : (r.leave key failure plans).registry.get? k = r.get? k := by
  cases failure with
  | some cause => rw [leave_of_failure]
  | none => exact get?_settle_of_ne (b := ⟨r.made, key⟩) h

/-- A factory call leaves a breaker where it is. -/
theorem get?_leave_of_bound (h : r.get? k = some b) (key : K) (failure : Option String)
    (plans : List (Plan K)) : (r.leave key failure plans).registry.get? k = some b := by
  cases failure with
  | some cause => exact h
  | none => exact (get?_settle_eq_some_iff (b := ⟨r.made, key⟩)).2 (.inl h)

/-- **A key that the factory is not called for gets no breaker**, neither from the call nor from one
inside it. -/
theorem get?_resolveKey_of_not_entered (h : r.get? k = none) (plans : List (Plan K)) (key : K)
    (h_trace : .entered k ∉ (resolveKey plans r key).trace) :
    (resolveKey plans r key).registry.get? k = none := by
  induction plans, key using resolveKey_induction r with
  | h_hit plans key b h_get => rwa [resolveKey_of_bound h_get]
  | h_plain plans key h_get h_plain =>
    rw [resolveKey_of_plain h_get h_plain] at h_trace ⊢
    have h_ne : k ≠ key := by
      rintro rfl
      exact h_trace List.mem_cons_self
    exact (get?_leave_of_ne h_ne ..).trans h
  | h_reenter plan plans key inner h_get h_inner ih =>
    rw [resolveKey_of_reenter h_get h_inner rfl] at h_trace ⊢
    have h_ne : k ≠ key := by
      rintro rfl
      exact h_trace List.mem_cons_self
    -- the call inside does not call the factory for the key either
    have h_first : .entered k ∉ (resolveKey plans r inner).trace := fun h_mem =>
      h_trace (List.mem_append_left _ (List.mem_cons_of_mem _ h_mem))
    exact (get?_leave_of_ne h_ne ..).trans (ih h_first)

/-- **A key with a breaker keeps it, and the factory is not called for it.** -/
theorem resolveKey_keeps_bound (h : r.get? k = some b) (plans : List (Plan K)) (key : K) :
    (resolveKey plans r key).registry.get? k = some b ∧
      .entered k ∉ (resolveKey plans r key).trace := by
  have h_ne : ∀ {key : K}, r.get? key = none → k ≠ key := by
    rintro key h_get rfl
    rw [h] at h_get
    cases h_get
  induction plans, key using resolveKey_induction r with
  | h_hit plans key b' h_get =>
    rw [resolveKey_of_bound h_get]
    exact ⟨h, List.not_mem_nil⟩
  | h_plain plans key h_get h_plain =>
    rw [resolveKey_of_plain h_get h_plain]
    refine ⟨get?_leave_of_bound h .., fun h_mem => ?_⟩
    rcases List.mem_cons.1 h_mem with h_entered | h_mem
    · exact h_ne h_get (Occurrence.entered.inj h_entered)
    · exact entered_notMem_leave r key k _ _ h_mem
  | h_reenter plan plans key inner h_get h_inner ih =>
    rw [resolveKey_of_reenter h_get h_inner rfl]
    refine ⟨get?_leave_of_bound ih.1 .., fun h_mem => ?_⟩
    rcases List.mem_append.1 h_mem with h_mem | h_mem
    · rcases List.mem_cons.1 h_mem with h_entered | h_mem
      · exact h_ne h_get (Occurrence.entered.inj h_entered)
      · exact ih.2 h_mem
    · rcases List.mem_cons.1 h_mem with h_returned | h_mem
      · cases h_returned
      · exact entered_notMem_leave _ key k _ _ h_mem

/-- A call for a key without a breaker calls the factory for it before anything else. -/
theorem head?_trace_resolveKey (h : r.get? key = none) (plans : List (Plan K)) :
    (resolveKey plans r key).trace.head? = some (.entered key) := by
  cases h_plain : plans.head?.bind (·.reenter) with
  | none => rw [resolveKey_of_plain h h_plain]; rfl
  | some inner =>
    obtain ⟨plan, h_plan, h_inner⟩ := Option.bind_eq_some_iff.1 h_plain
    obtain ⟨rest, rfl⟩ := List.head?_eq_some_iff.1 h_plan
    rw [resolveKey_of_reenter h h_inner rfl]
    rfl

/-- The factory is left without a breaker only if it fails. -/
theorem leave_eq_error {failure : Option String} {cause : ResolveError K}
    (h : (r.leave key failure plans).outcome = .error cause) :
    (r.leave key failure plans).registry = r ∧ ∃ reason, cause = .creation key reason := by
  cases failure with
  | some reason =>
    cases h
    exact ⟨rfl, reason, rfl⟩
  | none =>
    cases h_get : r.get? key with
    | some winner =>
      rw [leave_of_bound h_get] at h
      cases h
    | none =>
      rw [leave_of_unbound h_get] at h
      cases h

/-- **A call that fails in the factory, when that has resolved nothing, leaves the registry as it
was**, and its key without a breaker: by induction on the calls inside calls, which fail too. -/
theorem resolveKey_of_failed {cause : ResolveError K} (plans : List (Plan K)) (key : K)
    (h_outcome : (resolveKey plans r key).outcome = .error cause)
    (h_none : (resolveKey plans r key).trace.filterMap Occurrence.resolved? = []) :
    (resolveKey plans r key).registry = r ∧ r.get? key = none ∧
      ∃ reason, cause = .creation key reason := by
  induction plans, key using resolveKey_induction r generalizing cause with
  | h_hit plans key b h_get =>
    rw [resolveKey_of_bound h_get] at h_outcome
    cases h_outcome
  | h_plain plans key h_get h_plain =>
    rw [resolveKey_of_plain h_get h_plain] at h_outcome ⊢
    obtain ⟨h_same, h_cause⟩ := leave_eq_error h_outcome
    exact ⟨h_same, h_get, h_cause⟩
  | h_reenter plan plans key inner h_get h_inner ih =>
    rw [resolveKey_of_reenter h_get h_inner rfl] at h_outcome h_none ⊢
    rw [List.filterMap_append, List.append_eq_nil_iff] at h_none
    obtain ⟨h_first, h_last⟩ := h_none
    -- the call inside ends before the factory does, and has resolved nothing
    cases h_returned : (resolveKey plans r inner).outcome with
    | ok b =>
      rw [h_returned] at h_last
      cases h_last
    | error cause' =>
      obtain ⟨h_inside, -⟩ := ih h_returned h_first
      obtain ⟨h_same, h_cause⟩ := leave_eq_error h_outcome
      exact ⟨h_same.trans h_inside, h_get, h_cause⟩

/-! ### What a step does to a key -/

variable [RegistryKey K] {step : Step K}

theorem get?_of_not_entered (h : r.get? k = none) (h_race : step.isRace = false)
    (h_trace : .entered k ∉ (r.perform step).trace) : (r.perform step).registry.get? k = none := by
  cases step with
  | resolveKey key plans => exact get?_resolveKey_of_not_entered h plans key h_trace
  | resolve call plans =>
    simp only [perform, resolve, Report.performance] at h_trace ⊢
    cases h_key : r.selector call with
    | error cause => exact h
    | ok key =>
      rw [h_key] at h_trace
      exact get?_resolveKey_of_not_entered h plans key h_trace
  | race => cases h_race
  | _ => exact h

theorem not_entered_of_bound (h : r.get? k = some b) (h_race : step.isRace = false) :
    (r.perform step).registry.get? k = some b ∧ .entered k ∉ (r.perform step).trace := by
  cases step with
  | resolveKey key plans => exact resolveKey_keeps_bound h plans key
  | resolve call plans =>
    simp only [perform, resolve, Report.performance]
    cases h_key : r.selector call with
    | error cause => exact ⟨h, by simp [toldUnderivable]⟩
    | ok key => exact resolveKey_keeps_bound h plans key
  | race => cases h_race
  | _ => exact ⟨h, List.not_mem_nil⟩

/-- The factory is called for a key without a breaker. -/
theorem head?_trace_perform (h : r.get? key = none) (h_key : step.key? r = some key) :
    (r.perform step).trace.head? = some (.entered key) := by
  cases step with
  | resolveKey k plans =>
    obtain rfl : k = key := Option.some.inj h_key
    exact head?_trace_resolveKey h plans
  | resolve call plans =>
    simp only [Step.key?] at h_key
    simp only [perform, resolve, Report.performance]
    cases h_select : r.selector call with
    | error cause =>
      rw [h_select] at h_key
      cases h_key
    | ok k =>
      rw [h_select] at h_key
      obtain rfl : k = key := Option.some.inj h_key
      exact head?_trace_resolveKey h plans
  | _ => cases h_key

/-! ### Steps that may be left out -/

/-- In the step the factory has failed for a key, and has resolved nothing before: what calls it
made have failed as well. -/
structure Failed (r : Registry K) (step : Step K) (key : K) (cause : String) : Prop where
  answer : (r.perform step).answer = .outcome (.error (.creation key cause))
  resolved : (r.perform step).trace.filterMap Occurrence.resolved? = []

/-- **The steps that may be left out** where the registry is as given. -/
inductive Spare (r : Registry K) : Step K → Prop
  /-- The call has no key. -/
  | refused {call : Call} {plans : List (Plan K)} {cause : KeyError}
      (h_select : r.selector call = .error cause) : Spare r (.resolve call plans)
  /-- The factory fails and has resolved nothing. -/
  | failed {step : Step K} {key : K} {cause : String} (h : r.Failed step key cause) : Spare r step
  /-- The key has a breaker. -/
  | hit {step : Step K} {key : K} {b : Breaker K} (h_key : step.key? r = some key)
      (h_get : r.get? key = some b) : Spare r step
  /-- Nothing is resolved. -/
  | inspected {step : Step K} (h : step.inspects = true) : Spare r step

theorem Failed.registry_eq {cause : String} (h : r.Failed step key cause) :
    (r.perform step).registry = r ∧ r.get? key = none := by
  obtain ⟨h_answer, h_none⟩ := h
  have h_call : ∀ k plans, (resolveKey plans r k).outcome = .error (.creation key cause) →
      (resolveKey plans r k).trace.filterMap Occurrence.resolved? = [] →
      (resolveKey plans r k).registry = r ∧ r.get? key = none := by
    intro k plans h_outcome h_none
    obtain ⟨h_same, h_get, reason, h_cause⟩ := resolveKey_of_failed plans k h_outcome h_none
    cases h_cause
    exact ⟨h_same, h_get⟩
  cases step with
  | resolveKey k plans => exact h_call k plans (Answer.outcome.inj h_answer) h_none
  | resolve call plans =>
    simp only [perform, resolve, Report.performance] at h_answer h_none ⊢
    cases h_select : r.selector call with
    | error cause =>
      rw [h_select] at h_answer
      cases h_answer
    | ok k =>
      rw [h_select] at h_answer h_none
      exact h_call k plans (Answer.outcome.inj h_answer) h_none
  | _ => cases h_answer

/-- **A step that may be left out changes nothing.** -/
theorem Spare.registry_eq (h : r.Spare step) : (r.perform step).registry = r := by
  cases h with
  | refused h_select => simp [perform, resolve, Report.performance, h_select]
  | failed h => exact h.registry_eq.1
  | inspected h => cases step <;> first | rfl | cases h
  | @hit _ key b h_key h_get =>
    cases step with
    | resolveKey k plans =>
      obtain rfl : k = key := Option.some.inj h_key
      simp [perform, Report.performance, resolveKey_of_bound h_get]
    | resolve call plans =>
      simp only [Step.key?] at h_key
      simp only [perform, resolve, Report.performance]
      cases h_select : r.selector call with
      | error cause => rfl
      | ok k =>
        rw [h_select] at h_key
        obtain rfl : k = key := Option.some.inj h_key
        exact congrArg Report.registry (resolveKey_of_bound h_get plans)
    | _ => cases h_key

/-! ### Runs without them -/

section Marked

variable {α : Type}

/-- What is marked to be kept, in order. -/
def keptOf (marked : List (α × Bool)) : List α :=
  (marked.filter (·.2)).map (·.1)

omit [DecidableEq K] [RegistryKey K] in
@[simp] theorem keptOf_cons_true (x : α) (marked : List (α × Bool)) :
    keptOf ((x, true) :: marked) = x :: keptOf marked := rfl

omit [DecidableEq K] [RegistryKey K] in
@[simp] theorem keptOf_cons_false (x : α) (marked : List (α × Bool)) :
    keptOf ((x, false) :: marked) = keptOf marked := rfl

end Marked

/-- Every step that is not kept may be left out where the run of all steps makes it. -/
def LeavesOutSpare (r : Registry K) : List (Step K × Bool) → Prop
  | [] => True
  | (step, kept) :: marked =>
    (kept = false → r.Spare step) ∧ (r.perform step).registry.LeavesOutSpare marked

/-- **The steps that are kept are performed as in the full run**, by induction on the run: at each
step both runs have the same registry. -/
theorem performAll_keptOf {marked : List (Step K × Bool)} (h : r.LeavesOutSpare marked) :
    r.performAll (keptOf marked)
        = keptOf ((r.performAll (marked.map (·.1))).zip (marked.map (·.2))) ∧
      r.afterAll (keptOf marked) = r.afterAll (marked.map (·.1)) := by
  induction marked generalizing r with
  | nil => exact ⟨rfl, rfl⟩
  | cons head marked ih =>
    obtain ⟨step, kept⟩ := head
    obtain ⟨h_spare, h_rest⟩ := h
    obtain ⟨h_all, h_after⟩ := ih h_rest
    cases kept with
    | true =>
      refine ⟨?_, h_after⟩
      rw [keptOf_cons_true, performAll, h_all]
      rfl
    | false =>
      -- the full run is where the other one is still waiting
      have h_same : (r.perform step).registry = r := (h_spare rfl).registry_eq
      have h_step : r.afterAll (step :: marked.map (·.1)) = r.afterAll (marked.map (·.1)) := by
        rw [afterAll, List.foldl_cons, h_same]
        rfl
      rw [h_same] at h_all h_after
      refine ⟨?_, ?_⟩
      · rw [keptOf_cons_false, h_all, List.map_cons, List.map_cons, performAll, List.zip_cons_cons,
          keptOf_cons_false, h_same]
      · rw [keptOf_cons_false, h_after, List.map_cons, h_step]

/-- A key for which the factory is not called in a run of steps gets no breaker in it. -/
theorem get?_afterAll_of_not_entered {steps : List (Step K)} (h : r.get? k = none)
    (h_race : ∀ step ∈ steps, step.isRace = false)
    (h_trace : ∀ p ∈ r.performAll steps, .entered k ∉ p.trace) :
    (r.afterAll steps).get? k = none := by
  induction steps generalizing r with
  | nil => exact h
  | cons step steps ih =>
    rw [performAll] at h_trace
    have h_first : (r.perform step).registry.get? k = none :=
      get?_of_not_entered h (h_race step List.mem_cons_self) (h_trace _ List.mem_cons_self)
    exact ih h_first (fun next h_next => h_race next (List.mem_cons_of_mem _ h_next))
      fun p h_p => h_trace p (List.mem_cons_of_mem _ h_p)

/-- In no run of steps the factory is called for a key that has a breaker. -/
theorem not_entered_of_mem_performAll {steps : List (Step K)} (h : r.get? k = some b)
    (h_race : ∀ step ∈ steps, step.isRace = false) :
    ∀ p ∈ r.performAll steps, .entered k ∉ p.trace := by
  induction steps generalizing r with
  | nil => exact fun p h_p => nomatch h_p
  | cons step steps ih =>
    obtain ⟨h_bound, h_trace⟩ := not_entered_of_bound h (h_race step List.mem_cons_self)
    intro p h_p
    rcases List.mem_cons.1 h_p with rfl | h_p
    · exact h_trace
    · exact ih h_bound (fun next h_next => h_race next (List.mem_cons_of_mem _ h_next)) p h_p

/-- **Failures and repeats leave no trace.** From any run of steps leave out any that have failed
for want of a key, or in the factory when it had resolved nothing, that have hit a breaker or only
inspected: all others answer the same, with the same occurrences and the same registry after them,
and in the end the registry is the same. After a failure the next call for the key calls the factory
again, and once a key has a breaker the factory is never called for it. Asking through the mapping
is a step of the first kind. -/
theorem spare_steps_leave_no_trace (r : Registry K) (marked : List (Step K × Bool))
    (h : r.LeavesOutSpare marked) :
    r.performAll (keptOf marked)
        = keptOf ((r.performAll (marked.map (·.1))).zip (marked.map (·.2))) ∧
      r.afterAll (keptOf marked) = r.afterAll (marked.map (·.1)) ∧
      (∀ (s : Registry K) step key cause, s.Failed step key cause →
        ∀ (steps : List (Step K)) next, (∀ step ∈ steps, step.isRace = false) →
          (∀ p ∈ (s.perform step).registry.performAll steps, .entered key ∉ p.trace) →
          next.key? ((s.perform step).registry.afterAll steps) = some key →
          (((s.perform step).registry.afterAll steps).perform next).trace.head?
            = some (.entered key)) ∧
      (∀ (s : Registry K) key b, s.get? key = some b →
        ∀ steps : List (Step K), (∀ step ∈ steps, step.isRace = false) →
          ∀ p ∈ s.performAll steps, .entered key ∉ p.trace) ∧
      ∀ (s : Registry K) plans call,
        (BreakerSource.breakerFor plans s call).performance = s.perform (.resolve call plans) := by
  obtain ⟨h_all, h_after⟩ := performAll_keptOf h
  refine ⟨h_all, h_after, ?_, ?_, fun _ _ _ => rfl⟩
  · intro s step key cause h_failed steps next h_race h_trace h_key
    obtain ⟨h_same, h_get⟩ := h_failed.registry_eq
    rw [h_same] at h_trace h_key ⊢
    exact head?_trace_perform (get?_afterAll_of_not_entered h_get h_race h_trace) h_key
  · intro s key b h_get steps h_race
    exact not_entered_of_mem_performAll h_get h_race

/-- A registry with one breaker for each operation. -/
def edge : Registry String := { name := "edge", selector := Selector.byOperation }

/-- A call of the given operation. -/
def callOf (operation : String) : Call where
  target := .ofUrl ⟨"rpc", none, .plain "q", none, none⟩
  operation := operation

/-- A failure, a breaker for the same key, a call inside a call that loses, a call inside a call
that fails like it, a call without a key, a repeat and a look at the keys. Only the second and the
third step are kept. -/
def patchyRun : List (Step String × Bool) :=
  [(.resolve (callOf "put") [{ failure := some "full" }], false),
    (.resolve (callOf "put") [], true), (.resolveKey "get" [{ reenter := some "get" }], true),
    (.resolveKey "pop" [{ reenter := some "top", failure := some "full" },
      { failure := some "down" }], false),
    (.resolve (callOf "") [], false), (.resolveKey "get" [{ failure := some "full" }], false),
    (.keys, false)]

theorem spare_steps_leave_no_trace_patchyRun :
    edge.LeavesOutSpare patchyRun ∧ (edge.performAll (patchyRun.map (·.1))).length = 7 ∧
      edge.performAll
          [.resolve (callOf "put") [], .resolveKey "get" [{ reenter := some "get" }]]
        = keptOf ((edge.performAll (patchyRun.map (·.1))).zip (patchyRun.map (·.2))) := by
  have h_spare : edge.LeavesOutSpare patchyRun :=
    ⟨fun _ => .failed ⟨rfl, rfl⟩, nofun, nofun, fun _ => .failed ⟨rfl, rfl⟩, fun _ => .refused rfl,
      fun _ => .hit rfl (b := ⟨1, "get"⟩) rfl, fun _ => .inspected rfl, trivial⟩
  exact ⟨h_spare, rfl, (spare_steps_leave_no_trace edge patchyRun h_spare).1⟩

end Registry

end KeyedBreakers
