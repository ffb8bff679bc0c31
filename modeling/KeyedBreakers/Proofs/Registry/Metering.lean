import KeyedBreakers.Proofs.Registry.Resolution

/-!
# Metrics are observation only

Whether a registry keeps metrics changes what it publishes of them and nothing else: not the outcome of
a call, not what is bound, no event, no call of the factory. Two registries that differ in the switch
only still differ in the switch only after the same call, and what they have told is the same but for
updates.

* `Registry.withMeter` — the registry with its switch set;
* `quiet` — a trace without updates; `Registry.Labels` — whose updates a trace has;
* `Report.Agree` — two reports that differ in metrics only;
* `Registry.resolveKey_withMeter` — calls agree whatever the switch, by induction on how deep they go.
-/

namespace KeyedBreakers

variable {K : Type}

/-! ### Traces without updates -/

/-- What a trace tells apart from metrics. -/
def quiet (trace : List (Occurrence K)) : List (Occurrence K) :=
  trace.filter (·.update?.isNone)

theorem quiet_append (trace more : List (Occurrence K)) :
    quiet (trace ++ more) = quiet trace ++ quiet more := List.filter_append ..

/-- Nothing is left of updates. -/
theorem quiet_updates (updates : List Update) :
    quiet (updates.map (Occurrence.updated (K := K))) = [] := by
  rw [quiet, List.filter_eq_nil_iff]
  intro o h_o
  obtain ⟨u, -, rfl⟩ := List.mem_map.1 h_o
  exact Bool.false_ne_true

theorem quiet_cons_of_isNone {o : Occurrence K} (h : o.update?.isNone = true)
    (trace : List (Occurrence K)) : quiet (o :: trace) = o :: quiet trace :=
  List.filter_cons_of_pos h

/-- Kinds of occurrences that are no updates are the same if the traces are but for updates. -/
theorem filterMap_eq_of_quiet_eq {α : Type} {f : Occurrence K → Option α}
    (h : ∀ u, f (.updated u) = none) {trace trace' : List (Occurrence K)}
    (h_quiet : quiet trace = quiet trace') : trace.filterMap f = trace'.filterMap f := by
  -- what `f` picks out it picks out of the trace without updates as well
  have h_filter : ∀ trace : List (Occurrence K), (quiet trace).filterMap f = trace.filterMap f := by
    intro trace
    rw [quiet, List.filterMap_filter]
    refine List.filterMap_congr fun o _ => ?_
    cases o with
    | updated u => exact (h u).symm
    | _ => rfl
  rw [← h_filter trace, h_quiet, h_filter]

namespace Registry

/-! ### The switch -/

/-- The registry with its switch of the metrics set. -/
def withMeter (r : Registry K) (on : Bool) : Registry K := { r with metered := on }

theorem withMeter_metered (r : Registry K) : r.withMeter r.metered = r := rfl

theorem quiet_counted (r : Registry K) (metric : Metric) : quiet (r.counted metric) = [] := by
  obtain ⟨updates, h_updates⟩ := r.exists_counted_eq metric
  rw [h_updates, quiet_updates]

theorem quiet_gauged (r : Registry K) (size : Nat) : quiet (r.gauged size) = [] := by
  obtain ⟨updates, h_updates⟩ := r.exists_gauged_eq size
  rw [h_updates, quiet_updates]

/-- Of an event that is told with its metrics the event is left. -/
theorem quiet_told (r : Registry K) (event : Event K) (metric : Metric) (size : Nat) :
    quiet (.logged event :: r.counted metric ++ r.gauged size) = [.logged event] := by
  rw [quiet_append, quiet_cons_of_isNone rfl, quiet_counted, quiet_gauged]
  rfl

/-! ### Whose updates a trace has -/

/-- An update is labelled with the name of the registry, which keeps metrics. Nothing is said of other
occurrences. -/
def Labels (r : Registry K) : Occurrence K → Prop
  | .updated update => r.metered = true ∧ update.label = r.name
  | _ => True

theorem labels_congr {r r' : Registry K} (h : r'.settings = r.settings) : r'.Labels = r.Labels := by
  have h_name : r'.name = r.name := congrArg (·.1) h
  have h_metered : r'.metered = r.metered := congrArg (·.2.1) h
  funext o
  cases o with
  | updated update => rw [Labels, Labels, h_name, h_metered]
  | _ => rfl

theorem labels_of_mem_counted {r : Registry K} {metric : Metric} :
    ∀ o ∈ r.counted metric, r.Labels o := by
  unfold counted
  split
  · next h_metered =>
    intro o h_o
    rw [List.mem_singleton.1 h_o]
    exact ⟨h_metered, rfl⟩
  · exact fun o h_o => nomatch h_o

theorem labels_of_mem_gauged {r : Registry K} {size : Nat} : ∀ o ∈ r.gauged size, r.Labels o := by
  unfold gauged
  split
  · next h_metered =>
    intro o h_o
    rw [List.mem_singleton.1 h_o]
    exact ⟨h_metered, rfl⟩
  · exact fun o h_o => nomatch h_o

theorem labels_of_mem_told {r : Registry K} {event : Event K} {metric : Metric} :
    ∀ o ∈ .logged event :: r.counted metric, r.Labels o := by
  intro o h_o
  rcases List.mem_cons.1 h_o with rfl | h_o
  · trivial
  · exact labels_of_mem_counted o h_o

end Registry

/-! ### Calls that differ in metrics only -/

/-- The second report is the first one with the switch of the metrics set: outcome, bindings, plans that
are left and all that has been told but for updates are the same. -/
structure Report.Agree (on : Bool) (a b : Report K) : Prop where
  outcome : b.outcome = a.outcome
  registry : b.registry = a.registry.withMeter on
  plans : b.plans = a.plans
  trace : quiet b.trace = quiet a.trace

namespace Registry

variable [DecidableEq K] {r : Registry K} {key : K}

/-- A factory call ends alike, whatever the switch. -/
theorem leave_withMeter (on : Bool) (r : Registry K) (key : K) (failure : Option String)
    (plans : List (Plan K)) :
    (r.leave key failure plans).Agree on ((r.withMeter on).leave key failure plans) := by
  cases failure with
  | some cause =>
    rw [leave_of_failure, leave_of_failure]
    refine ⟨rfl, rfl, rfl, ?_⟩
    rw [quiet_cons_of_isNone rfl, quiet_cons_of_isNone rfl, quiet_counted, quiet_counted]
  | none =>
    cases h : r.get? key with
    | some winner =>
      have h_copy : (r.withMeter on).get? key = some winner := h
      rw [leave_of_bound h, leave_of_bound h_copy]
      refine ⟨rfl, rfl, rfl, ?_⟩
      rw [quiet_told, quiet_told]
    | none =>
      have h_copy : (r.withMeter on).get? key = none := h
      rw [leave_of_unbound h, leave_of_unbound h_copy]
      refine ⟨rfl, rfl, rfl, ?_⟩
      rw [quiet_told, quiet_told]

/-- **A call comes to the same, whatever the switch**, and whatever the factory resolves in it. -/
theorem resolveKey_withMeter (on : Bool) (plans : List (Plan K)) (r : Registry K) (key : K) :
    (resolveKey plans r key).Agree on (resolveKey plans (r.withMeter on) key) := by
  induction plans, key using resolveKey_induction r with
  | h_hit plans key b h_get =>
    have h_copy : (r.withMeter on).get? key = some b := h_get
    rw [resolveKey_of_bound h_get, resolveKey_of_bound h_copy]
    exact ⟨rfl, rfl, rfl, rfl⟩
  | h_plain plans key h_get h_plain =>
    have h_copy : (r.withMeter on).get? key = none := h_get
    have h_last := leave_withMeter on r key (plans.head?.bind (·.failure)) plans.tail
    rw [resolveKey_of_plain h_get h_plain, resolveKey_of_plain h_copy h_plain]
    refine ⟨h_last.outcome, h_last.registry, h_last.plans, ?_⟩
    rw [quiet_cons_of_isNone rfl, quiet_cons_of_isNone rfl, h_last.trace]
  | h_reenter plan plans key inner h_get h_inner ih =>
    have h_copy : (r.withMeter on).get? key = none := h_get
    -- the call inside has left both registries with the same bindings, and the same plans
    have h_last : ((resolveKey plans r inner).registry.leave key plan.failure
          (resolveKey plans r inner).plans).Agree on
        ((resolveKey plans (r.withMeter on) inner).registry.leave key plan.failure
          (resolveKey plans (r.withMeter on) inner).plans) := by
      rw [ih.registry, ih.plans]
      exact leave_withMeter ..
    rw [resolveKey_of_reenter h_get h_inner rfl, resolveKey_of_reenter h_copy h_inner rfl]
    refine ⟨h_last.outcome, h_last.registry, h_last.plans, ?_⟩
    rw [quiet_append, quiet_append, quiet_cons_of_isNone rfl, quiet_cons_of_isNone rfl,
      quiet_cons_of_isNone rfl, quiet_cons_of_isNone rfl, ih.trace, ih.outcome, h_last.trace]

theorem resolve_withMeter (on : Bool) (plans : List (Plan K)) (r : Registry K) (call : Call) :
    (resolve plans r call).Agree on (resolve plans (r.withMeter on) call) := by
  cases h_key : r.selector call with
  | error cause =>
    have h_copy : (r.withMeter on).selector call = .error cause := h_key
    rw [resolve, resolve, h_key, h_copy]
    exact ⟨rfl, rfl, rfl, rfl⟩
  | ok key =>
    have h_copy : (r.withMeter on).selector call = .ok key := h_key
    rw [resolve, resolve, h_key, h_copy]
    exact resolveKey_withMeter on plans r key

/-! ### The updates of a call -/

theorem labels_of_mem_leave (r : Registry K) (key : K) (failure : Option String)
    (plans : List (Plan K)) : ∀ o ∈ (r.leave key failure plans).trace, r.Labels o := by
  intro o h_o
  cases failure with
  | some cause =>
    rw [leave_of_failure] at h_o
    exact labels_of_mem_told o h_o
  | none =>
    cases h : r.get? key with
    | some winner =>
      rw [leave_of_bound h] at h_o
      rcases List.mem_append.1 h_o with h_o | h_o
      · exact labels_of_mem_told o h_o
      · exact labels_of_mem_gauged o h_o
    | none =>
      rw [leave_of_unbound h] at h_o
      rcases List.mem_append.1 h_o with h_o | h_o
      · exact labels_of_mem_told o h_o
      · exact labels_of_mem_gauged o h_o

/-- **All updates of a call are the registry's own.** -/
theorem labels_of_mem_resolveKey (plans : List (Plan K)) (r : Registry K) (key : K) :
    ∀ o ∈ (resolveKey plans r key).trace, r.Labels o := by
  induction plans, key using resolveKey_induction r with
  | h_hit plans key b h_get =>
    rw [resolveKey_of_bound h_get]
    exact fun o h_o => nomatch h_o
  | h_plain plans key h_get h_plain =>
    rw [resolveKey_of_plain h_get h_plain]
    intro o h_o
    rcases List.mem_cons.1 h_o with rfl | h_o
    · trivial
    · exact labels_of_mem_leave r key _ _ o h_o
  | h_reenter plan plans key inner h_get h_inner ih =>
    rw [resolveKey_of_reenter h_get h_inner rfl]
    intro o h_o
    rcases List.mem_append.1 h_o with h_o | h_o
    · rcases List.mem_cons.1 h_o with rfl | h_o
      · trivial
      · exact ih o h_o
    · rcases List.mem_cons.1 h_o with rfl | h_o
      · trivial
      · -- the registry has the same name and the same switch when the call inside has ended
        rw [← labels_congr (settings_resolveKey plans r inner)]
        exact labels_of_mem_leave _ key _ _ o h_o

theorem labels_of_mem_resolve (plans : List (Plan K)) (r : Registry K) (call : Call) :
    ∀ o ∈ (resolve plans r call).trace, r.Labels o := by
  cases h_key : r.selector call with
  | error cause =>
    rw [resolve, h_key]
    intro o h_o
    rw [List.mem_singleton.1 h_o]
    trivial
  | ok key =>
    rw [resolve, h_key]
    exact labels_of_mem_resolveKey plans r key

end Registry

end KeyedBreakers
