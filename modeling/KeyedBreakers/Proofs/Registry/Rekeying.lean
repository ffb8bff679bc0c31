import KeyedBreakers.Proofs.Registry.Resolution
import KeyedBreakers.Proofs.Registry.Steps

/-!
# Keys in another form

A registry uses its keys for one thing: it looks them up. If the keys of all calls are written in
another form, and no two of them become the same, the registry does what it did before, with the keys
in the other form. Nothing is asked of keys that no call has.

* `Breaker.rekey`, …, `Registry.rekey`, `Report.rekey`, `Performance.rekey` — everything that carries
  keys, with its keys in another form;
* `Registry.Within` — all bindings of a registry are for keys of which something holds;
* `Registry.resolveKey_rekey` — a call for a key, by induction on how deep calls go;
* `Registry.performAll_resolve_rekey` — calls one after another.
-/

namespace KeyedBreakers

variable {K L : Type}

/-! ### Everything that carries keys -/

section Rekey

variable (f : K → L)

/-- The breaker with its key in another form. It is the same instance of its registry. -/
def Breaker.rekey (b : Breaker K) : Breaker L := ⟨b.serial, f b.key⟩

/-- The event with its keys in another form. -/
def Event.rekey : Event K → Event L
  | .configured strategy metered => .configured strategy metered
  | .underivable target operation cause => .underivable target operation cause
  | .created key => .created (f key)
  | .lostRace key => .lostRace (f key)
  | .creationFailed key cause => .creationFailed (f key) cause

/-- The error with its keys in another form. -/
def ResolveError.rekey : ResolveError K → ResolveError L
  | .keyDerivation cause => .keyDerivation cause
  | .creation key cause => .creation (f key) cause

/-- The outcome with its keys in another form. -/
def Outcome.rekey : Outcome K → Outcome L
  | .ok b => .ok (b.rekey f)
  | .error e => .error (e.rekey f)

/-- The occurrence with its keys in another form. -/
def Occurrence.rekey : Occurrence K → Occurrence L
  | .entered key => .entered (f key)
  | .logged event => .logged (event.rekey f)
  | .updated update => .updated update
  | .returned outcome => .returned (Outcome.rekey f outcome)

/-- The plan with its keys in another form. -/
def Plan.rekey (plan : Plan K) : Plan L := ⟨plan.reenter.map f, plan.failure⟩

/-- The registry with its keys in another form, those that it derives among them. -/
def Registry.rekey (r : Registry K) : Registry L where
  name := r.name
  metered := r.metered
  selector := r.selector.map f
  bindings := r.bindings.map fun x => (f x.1, x.2.rekey f)
  made := r.made

/-- The report with its keys in another form. -/
def Report.rekey (report : Report K) : Report L where
  outcome := Outcome.rekey f report.outcome
  registry := report.registry.rekey f
  plans := report.plans.map (Plan.rekey f)
  trace := report.trace.map (Occurrence.rekey f)

end Rekey

namespace Registry

variable {f : K → L} {P : K → Prop} {r : Registry K} {key : K}

/-! ### What does not depend on keys -/

theorem size_rekey (f : K → L) (r : Registry K) : (r.rekey f).size = r.size := List.length_map _

theorem counted_rekey (f : K → L) (r : Registry K) (metric : Metric) :
    (r.rekey f).counted metric = (r.counted metric).map (Occurrence.rekey f) := by
  unfold counted
  show (if r.metered then _ else _) = _
  split <;> rfl

theorem gauged_rekey (f : K → L) (r : Registry K) (size : Nat) :
    (r.rekey f).gauged size = (r.gauged size).map (Occurrence.rekey f) := by
  unfold gauged
  show (if r.metered then _ else _) = _
  split <;> rfl

/-! ### Looking up and binding -/

/-- All bindings are for keys of which `P` holds. -/
def Within (P : K → Prop) (r : Registry K) : Prop :=
  ∀ x ∈ r.bindings, P x.1 ∧ P x.2.key

/-- All keys that the plans have the factory resolve are keys of which `P` holds. -/
def PlansWithin (P : K → Prop) (plans : List (Plan K)) : Prop :=
  ∀ plan ∈ plans, ∀ k, plan.reenter = some k → P k

/-- The form `f` keeps keys apart of which `P` holds. -/
def Separates (f : K → L) (P : K → Prop) : Prop :=
  ∀ a b, P a → P b → f a = f b → a = b

/-- Instances are the same if they are in the other form, where it keeps their keys apart. -/
theorem Separates.rekey_inj (h_apart : Separates f P) {b c : Breaker K} (h_b : P b.key)
    (h_c : P c.key) (h : b.rekey f = c.rekey f) : b = c := by
  obtain ⟨h_serial, h_form⟩ := Breaker.mk.inj h
  have h_key : b.key = c.key := h_apart b.key c.key h_b h_c h_form
  calc b = ⟨b.serial, b.key⟩ := rfl
    _ = ⟨c.serial, c.key⟩ := by rw [h_serial, h_key]
    _ = c := rfl

variable [DecidableEq K] [DecidableEq L]

/-- A key is found in its other form if it is found. -/
theorem get?_rekey (h_apart : Separates f P) (h_within : r.Within P) (h_key : P key) :
    (r.rekey f).get? (f key) = (r.get? key).map (Breaker.rekey f) := by
  -- the induction is on the bindings, which the registry has all its keys from
  have h_lookup : ∀ bindings : List (K × Breaker K), (∀ x ∈ bindings, P x.1 ∧ P x.2.key) →
      (bindings.map fun x => (f x.1, x.2.rekey f)).lookup (f key)
        = (bindings.lookup key).map (Breaker.rekey f) := by
    intro bindings h_bindings
    induction bindings with
    | nil => rfl
    | cons x bindings ih =>
      have h_x := h_bindings x List.mem_cons_self
      rw [List.map_cons, List.lookup_cons, List.lookup_cons,
        ih fun y h_y => h_bindings y (List.mem_cons_of_mem x h_y)]
      by_cases h_eq : key = x.1
      · rw [beq_iff_eq.2 h_eq, beq_iff_eq.2 (congrArg f h_eq)]
        rfl
      · -- here alone it matters that no two keys become the same
        have h_ne : f key ≠ f x.1 := fun h => h_eq (h_apart key x.1 h_key h_x.1 h)
        rw [beq_false_of_ne h_eq, beq_false_of_ne h_ne]
  exact h_lookup r.bindings h_within

/-- A factory call ends for the key in its other form as it ends for the key. -/
theorem leave_rekey (h_apart : Separates f P) (h_within : r.Within P) (h_key : P key)
    (failure : Option String) (plans : List (Plan K)) :
    (r.rekey f).leave (f key) failure (plans.map (Plan.rekey f))
      = (r.leave key failure plans).rekey f := by
  have h_get := get?_rekey h_apart h_within h_key
  cases failure with
  | some cause =>
    rw [leave_of_failure, leave_of_failure, counted_rekey]
    rfl
  | none =>
    cases h : r.get? key with
    | some winner =>
      rw [h] at h_get
      rw [leave_of_bound h, leave_of_bound h_get, counted_rekey, gauged_rekey, size_rekey]
      simp [Report.rekey, rekey, Outcome.rekey, Occurrence.rekey, Event.rekey]
    | none =>
      rw [h] at h_get
      rw [leave_of_unbound h, leave_of_unbound h_get, counted_rekey, gauged_rekey, size_rekey]
      simp [Report.rekey, rekey, Outcome.rekey, Occurrence.rekey, Event.rekey, Breaker.rekey]

theorem Within.of_get? (h : r.Within P) {b : Breaker K} (h_get : r.get? key = some b) : P b.key := by
  obtain ⟨before, after, h_bindings, -⟩ := List.lookup_eq_some_iff.1 h_get
  have h_mem : (key, b) ∈ r.bindings := by
    rw [h_bindings]
    exact List.mem_append_right before List.mem_cons_self
  exact (h _ h_mem).2

end Registry

/-- The registry has bindings only for keys of which `P` holds, and so has the breaker that the call
has got. -/
structure Report.Within (P : K → Prop) (report : Report K) : Prop where
  registry : report.registry.Within P
  outcome : ∀ b, report.outcome = .ok b → P b.key

namespace Registry

variable {f : K → L} {P : K → Prop} {r : Registry K} {key : K} [DecidableEq K] [DecidableEq L]

/-- A factory call for a key of which `P` holds binds no other. -/
theorem Within.leave (h : r.Within P) (h_key : P key) (failure : Option String)
    (plans : List (Plan K)) : (r.leave key failure plans).Within P := by
  cases failure with
  | some cause => exact ⟨h, fun b h_b => nomatch h_b⟩
  | none =>
    cases h_get : r.get? key with
    | some winner =>
      rw [leave_of_bound h_get]
      refine ⟨h, fun b h_b => ?_⟩
      rw [← Except.ok.inj h_b]
      exact h.of_get? h_get
    | none =>
      rw [leave_of_unbound h_get]
      refine ⟨fun x h_x => ?_, fun b h_b => ?_⟩
      · rcases List.mem_append.1 h_x with h_x | h_x
        · exact h x h_x
        · rw [List.mem_singleton.1 h_x]
          exact ⟨h_key, h_key⟩
      · rw [← Except.ok.inj h_b]
        exact h_key

/-! ### Calls -/

/-- Calls for keys of which `P` holds bind no others. -/
theorem Within.resolveKey (h : r.Within P) (plans : List (Plan K)) (key : K) (h_key : P key)
    (h_plans : PlansWithin P plans) :
    (Registry.resolveKey plans r key).Within P := by
  induction plans, key using resolveKey_induction r with
  | h_hit plans key b h_get =>
    rw [resolveKey_of_bound h_get]
    refine ⟨h, fun b h_b => ?_⟩
    rw [← Except.ok.inj h_b]
    exact h.of_get? h_get
  | h_plain plans key h_get h_plain =>
    have h_last := h.leave h_key (plans.head?.bind (·.failure)) plans.tail
    rw [resolveKey_of_plain h_get h_plain]
    exact ⟨h_last.registry, h_last.outcome⟩
  | h_reenter plan plans key inner h_get h_inner ih =>
    have h_first := ih (h_plans plan List.mem_cons_self inner h_inner)
      fun p h_p => h_plans p (List.mem_cons_of_mem plan h_p)
    have h_last := h_first.registry.leave h_key plan.failure (Registry.resolveKey plans r inner).plans
    rw [resolveKey_of_reenter h_get h_inner rfl]
    exact ⟨h_last.registry, h_last.outcome⟩

/-- **A call for a key in its other form comes to what the call for the key comes to**, whatever the
factory resolves in it. -/
theorem resolveKey_rekey (h_apart : Separates f P) (h_within : r.Within P) (plans : List (Plan K))
    (key : K) (h_key : P key) (h_plans : PlansWithin P plans) :
    resolveKey (plans.map (Plan.rekey f)) (r.rekey f) (f key)
      = (resolveKey plans r key).rekey f := by
  induction plans, key using resolveKey_induction r with
  | h_hit plans key b h_get =>
    have h_found : (r.rekey f).get? (f key) = some (b.rekey f) := by
      rw [get?_rekey h_apart h_within h_key, h_get]
      rfl
    rw [resolveKey_of_bound h_get, resolveKey_of_bound h_found]
    rfl
  | h_plain plans key h_get h_plain =>
    have h_none : (r.rekey f).get? (f key) = none := by
      rw [get?_rekey h_apart h_within h_key, h_get]
      rfl
    have h_head : (plans.map (Plan.rekey f)).head?.bind (·.reenter) = none := by
      cases plans with
      | nil => rfl
      | cons plan plans => exact congrArg (Option.map f) h_plain
    -- plans in the other form fail for the reasons for which the plans fail
    have h_failure : (plans.map (Plan.rekey f)).head?.bind (·.failure)
        = plans.head?.bind (·.failure) := by
      cases plans <;> rfl
    rw [resolveKey_of_plain h_get h_plain, resolveKey_of_plain h_none h_head, h_failure,
      ← List.map_tail, leave_rekey h_apart h_within h_key]
    rfl
  | h_reenter plan plans key inner h_get h_inner ih =>
    have h_none : (r.rekey f).get? (f key) = none := by
      rw [get?_rekey h_apart h_within h_key, h_get]
      rfl
    have h_k := h_plans plan List.mem_cons_self inner h_inner
    have h_rest : PlansWithin P plans := fun p h_p => h_plans p (List.mem_cons_of_mem plan h_p)
    have h_reenter : (plan.rekey f).reenter = some (f inner) := congrArg (Option.map f) h_inner
    have h_first := (h_within.resolveKey plans inner h_k h_rest).registry
    -- the call outside goes on from what the call inside has left, in its other form
    rw [resolveKey_of_reenter h_get h_inner rfl, List.map_cons,
      resolveKey_of_reenter h_none h_reenter (ih h_k h_rest)]
    have h_leave : ((resolveKey plans r inner).rekey f).registry.leave (f key)
          (plan.rekey f).failure ((resolveKey plans r inner).rekey f).plans
        = ((resolveKey plans r inner).registry.leave key plan.failure
            (resolveKey plans r inner).plans).rekey f :=
      leave_rekey h_apart h_first h_key plan.failure (resolveKey plans r inner).plans
    rw [h_leave]
    simp [Report.rekey, Occurrence.rekey]

/-- **A call in the other form.** The key is derived in its other form, and the registry does what it
would have done. -/
theorem resolve_rekey (h_apart : Separates f P) (h_within : r.Within P) (plans : List (Plan K))
    (call : Call) (h_call : ∀ k, r.selector call = .ok k → P k)
    (h_plans : PlansWithin P plans) :
    resolve (plans.map (Plan.rekey f)) (r.rekey f) call = (resolve plans r call).rekey f := by
  cases h_key : r.selector call with
  | error cause =>
    have h_other : (r.rekey f).selector call = .error cause := congrArg (Except.map f) h_key
    rw [resolve, resolve, h_key, h_other]
    rfl
  | ok key =>
    have h_other : (r.rekey f).selector call = .ok (f key) := congrArg (Except.map f) h_key
    rw [resolve, resolve, h_key, h_other]
    exact resolveKey_rekey h_apart h_within plans key (h_call key h_key) h_plans

omit [DecidableEq L] in
theorem Within.resolve (h : r.Within P) (plans : List (Plan K)) (call : Call)
    (h_call : ∀ k, r.selector call = .ok k → P k)
    (h_plans : PlansWithin P plans) :
    (Registry.resolve plans r call).Within P := by
  cases h_key : r.selector call with
  | error cause =>
    rw [Registry.resolve, h_key]
    refine ⟨h, fun b h_b => ?_⟩
    cases h_b
  | ok key =>
    rw [Registry.resolve, h_key]
    exact h.resolveKey plans key (h_call key h_key) h_plans

end Registry

/-! ### Calls one after another -/

/-- The answer with its keys in another form. -/
def Answer.rekey (f : K → L) : Answer K → Answer L
  | .outcome o => .outcome (Outcome.rekey f o)
  | .outcomes os => .outcomes (os.map (Outcome.rekey f))
  | .found breaker => .found (breaker.map (Breaker.rekey f))
  | .keys ks => .keys (ks.map f)
  | .count n => .count n
  | .flag b => .flag b
  | .text s => .text s

/-- The performance with its keys in another form. -/
def Performance.rekey (f : K → L) (p : Performance K) : Performance L where
  answer := p.answer.rekey f
  registry := p.registry.rekey f
  trace := p.trace.map (Occurrence.rekey f)

namespace Registry

variable {f : K → L} {P : K → Prop} [DecidableEq K] [DecidableEq L] [RegistryKey K] [RegistryKey L]

/-- The steps that make calls, with what the factory is to do in each. -/
def resolveSteps (calls : List (Call × List (Plan K))) : List (Step K) :=
  calls.map fun c => .resolve c.1 c.2

/-- All keys that the calls have, and all that the factory resolves in them, are keys of which `P`
holds. -/
structure CallsWithin (P : K → Prop) (selector : Selector K) (calls : List (Call × List (Plan K))) :
    Prop where
  keys : ∀ c ∈ calls, ∀ k, selector c.1 = .ok k → P k
  plans : ∀ c ∈ calls, PlansWithin P c.2

omit [DecidableEq K] [RegistryKey K] in
theorem CallsWithin.tail {selector : Selector K} {c : Call × List (Plan K)}
    {calls : List (Call × List (Plan K))} (h : CallsWithin P selector (c :: calls)) :
    CallsWithin P selector calls where
  keys := fun c' h_c' => h.keys c' (List.mem_cons_of_mem c h_c')
  plans := fun c' h_c' => h.plans c' (List.mem_cons_of_mem c h_c')

/-- **Calls one after another in the other form.** Every call gets what it would have got. -/
theorem performAll_rekey (h_apart : Separates f P) (calls : List (Call × List (Plan K)))
    (r : Registry K) (h_within : r.Within P) (h_calls : CallsWithin P r.selector calls) :
    (r.rekey f).performAll (resolveSteps (calls.map fun c => (c.1, c.2.map (Plan.rekey f))))
      = (r.performAll (resolveSteps calls)).map (Performance.rekey f) := by
  induction calls generalizing r with
  | nil => rfl
  | cons c calls ih =>
    have h_keys := h_calls.keys c List.mem_cons_self
    have h_plans := h_calls.plans c List.mem_cons_self
    have h_first := h_within.resolve c.2 c.1 h_keys h_plans
    have h_step : (r.rekey f).perform (.resolve c.1 (c.2.map (Plan.rekey f)))
        = (r.perform (.resolve c.1 c.2)).rekey f := by
      show (resolve _ _ _).performance = (resolve c.2 r c.1).performance.rekey f
      rw [resolve_rekey h_apart h_within c.2 c.1 h_keys h_plans]
      rfl
    -- the registry after the call derives keys as before
    have h_tail : CallsWithin P (r.perform (.resolve c.1 c.2)).registry.selector calls := by
      have h_selector : (resolve c.2 r c.1).registry.selector = r.selector :=
        congrArg (·.2.2) (settings_resolve c.2 r c.1)
      show CallsWithin P (resolve c.2 r c.1).registry.selector calls
      rw [h_selector]
      exact h_calls.tail
    have h_rest := ih (r.perform (.resolve c.1 c.2)).registry h_first.registry h_tail
    show (r.rekey f).perform _ :: Registry.performAll ((r.rekey f).perform _).registry _ = _ :: _
    rw [h_step]
    exact congrArg (_ :: ·) h_rest

omit [DecidableEq L] [RegistryKey L] in
/-- Each call answers with what it has come to. -/
theorem exists_outcome_of_mem_performAll (calls : List (Call × List (Plan K))) (r : Registry K) :
    ∀ p ∈ r.performAll (resolveSteps calls), ∃ o, p.answer = .outcome o := by
  induction calls generalizing r with
  | nil => exact fun p h_p => nomatch h_p
  | cons c calls ih =>
    intro p h_p
    rcases List.mem_cons.1 h_p with rfl | h_p
    · exact ⟨_, rfl⟩
    · exact ih _ p h_p

omit [DecidableEq L] [RegistryKey L] in
/-- All breakers that calls get are breakers of keys of which `P` holds. -/
theorem Within.of_mem_performAll (calls : List (Call × List (Plan K))) (r : Registry K)
    (h_within : r.Within P) (h_calls : CallsWithin P r.selector calls) :
    ∀ p ∈ r.performAll (resolveSteps calls), ∀ b, p.answer = .outcome (.ok b) → P b.key := by
  induction calls generalizing r with
  | nil => exact fun p h_p => nomatch h_p
  | cons c calls ih =>
    have h_first := h_within.resolve c.2 c.1 (h_calls.keys c List.mem_cons_self)
      (h_calls.plans c List.mem_cons_self)
    have h_tail : CallsWithin P (Registry.resolve c.2 r c.1).registry.selector calls := by
      have h_selector : (Registry.resolve c.2 r c.1).registry.selector = r.selector :=
        congrArg (·.2.2) (settings_resolve c.2 r c.1)
      rw [h_selector]
      exact h_calls.tail
    intro p h_p b h_b
    rcases List.mem_cons.1 h_p with rfl | h_p
    · exact h_first.outcome b (Answer.outcome.inj h_b)
    · exact ih _ h_first.registry h_tail p h_p b h_b

end Registry

end KeyedBreakers
