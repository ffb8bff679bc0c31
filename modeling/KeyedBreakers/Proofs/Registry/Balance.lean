import KeyedBreakers.Proofs.Registry.Transition
import Mathlib.Data.List.Perm.Basic
import Mathlib.Algebra.GroupWithZero.Nat

/-!
# Every factory call is accounted for

A factory call ends in one of three ways: what it made is bound, or dropped for the breaker that the
key has by then, or the factory fails. Each end is told by one event and counted once by one metric.
Here this is proved for every schedule of one registry, also in the middle of it: a factory call that
has not told its end yet is a stage in the stack of its thread.

* `System.Balanced` — in each thread, the factory calls are those that have told their end and those
  that have not; `System.Balanced.of_run?` — so it is after every schedule;
* `System.factoryCalls_eq_of_quiet` — when no call is in progress, all factory calls have told their
  end, in whatever thread;
* `System.Recorded` — the registry has grown by the breakers whose creation has been told, and each
  counter has counted the events of its kind if the registry keeps metrics, and nothing otherwise.
-/

namespace KeyedBreakers

variable {K : Type}

/-! ### What is counted -/

/-- What an update adds to a metric under a label. -/
@[simp] def Update.amountFor (metric : Metric) (label : String) (u : Update) : Nat :=
  if u.metric = metric ∧ u.label = label then u.amount else 0

namespace Signal

/-- Whether the factory is called. -/
@[simp] def isEntry : Signal K → Bool
  | .occurred (.entered _) => true
  | _ => false

/-- Whether an event with the given message is logged. -/
@[simp] def logs (message : String) : Signal K → Bool
  | .occurred (.logged event) => event.message = message
  | _ => false

/-- A breaker has been bound to its key. -/
@[simp] def isCreation : Signal K → Bool := logs "Created circuit breaker"

/-- An instance has been dropped because its key has a breaker. -/
@[simp] def isLoss : Signal K → Bool := logs "Lost breaker creation race, using existing instance"

/-- The factory has failed. -/
@[simp] def isFailure : Signal K → Bool := logs "Circuit breaker creation failed"

/-- The update of a metric that the signal is. -/
@[simp] def update? : Signal K → Option Update
  | .occurred (.updated u) => some u
  | _ => none

end Signal

/-- The events that a metric counts; the size of a registry counts none. -/
def Metric.kind? : Metric → Option (Signal K → Bool)
  | created => some Signal.isCreation
  | failures => some Signal.isFailure
  | raceLosses => some Signal.isLoss
  | size => none

/-- Whether a call has called the factory and not told its end yet. -/
@[simp] def Stage.isUnsettled : Stage K → Bool
  | .creating _ | .settling _ => true
  | _ => false

namespace System

/-- How often something of a kind has happened. -/
def tally (s : System K) (kind : Signal K → Bool) : Nat :=
  s.trace.countP fun x => kind x.2

/-- How often something of a kind has happened in one thread. -/
def tallyIn (s : System K) (t : Nat) (kind : Signal K → Bool) : Nat :=
  s.trace.countP fun x => x.1 = t && kind x.2

/-- The sum of all updates of a metric under a label. -/
def counted (s : System K) (metric : Metric) (label : String) : Nat :=
  ((s.trace.filterMap (·.2.update?)).map (·.amountFor metric label)).sum

/-! ### Counting on -/

section Put

variable (s : System K) (t : Nat) (r : Registry K) (stages : List (Stage K))
  (signals : List (Signal K))

theorem tally_put (kind : Signal K → Bool) :
    (s.put t r stages signals).tally kind = s.tally kind + signals.countP kind := by
  rw [tally, trace_put, List.countP_append, List.countP_map]
  rfl

theorem tallyIn_put_self (kind : Signal K → Bool) :
    (s.put t r stages signals).tallyIn t kind = s.tallyIn t kind + signals.countP kind := by
  have h_own : ((fun x : Nat × Signal K => decide (x.1 = t) && kind x.2) ∘
      fun signal => (t, signal)) = kind := by
    funext signal
    simp
  rw [tallyIn, trace_put, List.countP_append, List.countP_map, h_own]
  rfl

theorem tallyIn_put_of_ne {u : Nat} (h : u ≠ t) (kind : Signal K → Bool) :
    (s.put t r stages signals).tallyIn u kind = s.tallyIn u kind := by
  have h_none : signals.countP ((fun x : Nat × Signal K => decide (x.1 = u) && kind x.2) ∘
      fun signal => (t, signal)) = 0 := by
    rw [List.countP_eq_zero]
    simp [Ne.symm h]
  rw [tallyIn, trace_put, List.countP_append, List.countP_map, h_none]
  rfl

theorem counted_put (metric : Metric) (label : String) :
    (s.put t r stages signals).counted metric label
      = s.counted metric label
        + ((signals.filterMap Signal.update?).map (·.amountFor metric label)).sum := by
  rw [counted, trace_put, List.filterMap_append, List.map_append, List.sum_append,
    List.filterMap_map]
  rfl

end Put

/-- What is equal in number in each thread is equal in number. -/
theorem tally_eq_of_tallyIn {s : System K} {kind a b c : Signal K → Bool}
    (h : ∀ t, s.tallyIn t kind = s.tallyIn t a + s.tallyIn t b + s.tallyIn t c) :
    s.tally kind = s.tally a + s.tally b + s.tally c := by
  -- the threads in which something has happened, each as often as it has
  have h_length : ∀ kind : Signal K → Bool,
      ((s.trace.filter (kind ·.2)).map (·.1)).length = s.tally kind := by
    intro kind
    rw [List.length_map, ← List.countP_eq_length_filter]
    rfl
  have h_count : ∀ (kind : Signal K → Bool) t,
      ((s.trace.filter (kind ·.2)).map (·.1)).count t = s.tallyIn t kind := by
    intro kind t
    rw [List.count, List.countP_map, List.countP_filter]
    rfl
  have h_perm : ((s.trace.filter (kind ·.2)).map (·.1)).Perm
      ((s.trace.filter (a ·.2)).map (·.1) ++ (s.trace.filter (b ·.2)).map (·.1)
        ++ (s.trace.filter (c ·.2)).map (·.1)) := by
    rw [List.perm_iff_count]
    intro t
    rw [List.count_append, List.count_append, h_count, h_count, h_count, h_count, h]
  have h_eq := h_perm.length_eq
  rwa [List.length_append, List.length_append, h_length, h_length, h_length, h_length] at h_eq

/-! ### The balance -/

/-- **The balance.** In each thread, every factory call has told its end or is a call that is
unsettled. -/
def Balanced (s : System K) : Prop :=
  ∀ t, s.tallyIn t Signal.isEntry =
    s.tallyIn t Signal.isCreation + s.tallyIn t Signal.isLoss + s.tallyIn t Signal.isFailure
      + (s.threads t).countP Stage.isUnsettled

/-- A move keeps the balance if what it tells makes up for the change in the stack of its thread. -/
theorem Balanced.put {s : System K} (h : s.Balanced) {t : Nat} {r : Registry K}
    {stages : List (Stage K)} {signals : List (Signal K)}
    (h_told : signals.countP Signal.isEntry + (s.threads t).countP Stage.isUnsettled =
      signals.countP Signal.isCreation + signals.countP Signal.isLoss
        + signals.countP Signal.isFailure + stages.countP Stage.isUnsettled) :
    (s.put t r stages signals).Balanced := by
  intro u
  by_cases h_u : u = t
  · subst h_u
    have h_before := h u
    rw [tallyIn_put_self, tallyIn_put_self, tallyIn_put_self, tallyIn_put_self, threads_put_self]
    omega
  · rw [tallyIn_put_of_ne _ _ _ _ _ h_u, tallyIn_put_of_ne _ _ _ _ _ h_u,
      tallyIn_put_of_ne _ _ _ _ _ h_u, tallyIn_put_of_ne _ _ _ _ _ h_u,
      threads_put_of_ne _ _ _ _ _ h_u]
    exact h u

variable [DecidableEq K]

theorem Balanced.transition {s s' : System K} {t : Nat} {move : Move K} (h : s.Balanced)
    (h_move : Transition s t move s') : s'.Balanced := by
  cases h_move with
  | refuse => exact h.put (by simp [Registry.toldUnderivable, Event.message])
  | start => exact h.put (by simp)
  | peek => exact h.put (by simp)
  | hit h_at => exact h.put (by simp [h_at])
  -- the factory is called, and the stage is unsettled until its end has been told
  | miss h_at => exact h.put (by simp [h_at, List.countP_cons, Nat.add_comm])
  | make h_at => exact h.put (by simp [h_at, List.countP_cons])
  | fail h_at =>
    refine h.put ?_
    cases h_metered : s.registry.metered <;>
      simp [h_at, Registry.toldFailure, Registry.counted, h_metered, Event.message,
        List.countP_cons, Nat.add_comm]
  | @settle b outer h_at =>
    refine h.put ?_
    -- the instance is bound or dropped, and the metrics are kept or not
    cases h_get : s.registry.get? b.key with
    | some winner =>
      cases h_metered : s.registry.metered <;>
        simp [h_at, Registry.settle_of_bound h_get, Registry.counted, h_metered, Event.message,
          List.countP_cons, Nat.add_comm]
    | none =>
      cases h_metered : s.registry.metered <;>
        simp [h_at, Registry.settle_of_unbound h_get, Registry.counted, h_metered, Event.message,
          List.countP_cons, Nat.add_comm]
  | measure h_at => exact h.put (by simp [h_at])
  | publish h_at =>
    refine h.put ?_
    cases h_metered : s.registry.metered <;> simp [h_at, Registry.gauged, h_metered]
  | finish h_at => exact h.put (by simp [h_at])

variable {r : Registry K} {s : System K} {schedule : Schedule K}

theorem Balanced.of_run? (h_run : (idle r).run? schedule = some s) : s.Balanced :=
  run?_invariant Balanced.transition h_run fun _ => rfl

/-- When no call is in progress, every factory call has told its end. -/
theorem factoryCalls_eq_of_quiet (h_run : (idle r).run? schedule = some s)
    (h_quiet : ∀ t, s.threads t = []) :
    s.tally Signal.isEntry =
      s.tally Signal.isCreation + s.tally Signal.isLoss + s.tally Signal.isFailure := by
  refine tally_eq_of_tallyIn fun t => ?_
  have h_balanced := Balanced.of_run? h_run t
  rwa [h_quiet t, List.countP_nil, Nat.add_zero] at h_balanced

/-! ### What the registry holds and what the metrics say -/

/-- The name and the switch of the metrics are those of the registry `r` at the start. The registry
has grown by the breakers whose creation has been told, and every counter has counted the events of
its kind. -/
structure Recorded (r : Registry K) (s : System K) : Prop where
  name : s.registry.name = r.name
  metered : s.registry.metered = r.metered
  size : s.registry.size = r.size + s.tally Signal.isCreation
  counted : ∀ {metric kind}, metric.kind? = some kind → ∀ label, s.counted metric label =
    if r.name = label ∧ r.metered then s.tally kind else 0

omit [DecidableEq K] in
/-- A move keeps the records if the registry grows by the creations that it tells, and the updates
that it makes are those of the events that it tells. -/
theorem Recorded.put (h : Recorded r s) {t : Nat} {after : Registry K} {stages : List (Stage K)}
    {signals : List (Signal K)} (h_name : after.name = s.registry.name)
    (h_metered : after.metered = s.registry.metered)
    (h_size : after.size = s.registry.size + signals.countP Signal.isCreation)
    (h_counted : ∀ {metric kind}, metric.kind? = some kind → ∀ label,
      ((signals.filterMap Signal.update?).map (·.amountFor metric label)).sum =
        if s.registry.name = label ∧ s.registry.metered then signals.countP kind else 0) :
    Recorded r (s.put t after stages signals) where
  name := h_name.trans h.name
  metered := h_metered.trans h.metered
  size := by
    rw [registry_put, h_size, h.size, tally_put, Nat.add_assoc]
  counted := by
    intro metric kind h_kind label
    rw [counted_put, h.counted h_kind, h_counted h_kind, h.name, h.metered, tally_put]
    split
    · rfl
    · rfl

theorem Recorded.transition {s s' : System K} {t : Nat} {move : Move K} (h : Recorded r s)
    (h_move : Transition s t move s') : Recorded r s' := by
  cases h_move with
  | refuse | start | peek | hit | miss | make | measure | finish =>
    -- nothing is told that is counted
    refine h.put rfl rfl ?_ ?_
    · simp [Registry.toldUnderivable, Event.message, Registry.size, Registry.make]
    · intro metric kind h_kind label
      cases metric <;> cases h_kind <;>
        simp [List.filterMap_cons, Registry.toldUnderivable, Event.message]
  | fail h_at =>
    refine h.put rfl rfl ?_ ?_
    · cases h_metered : s.registry.metered <;>
        simp [Registry.toldFailure, Registry.counted, h_metered, Event.message]
    · intro metric kind h_kind label
      cases metric <;> cases h_kind <;> cases h_metered : s.registry.metered <;>
        simp [List.filterMap_cons, Registry.toldFailure, Registry.counted, h_metered,
          Event.message]
  | @settle b outer h_at =>
    -- the instance is bound or dropped, and each has its event and its counter
    cases h_get : s.registry.get? b.key with
    | some winner =>
      rw [Registry.settle_of_bound h_get]
      refine h.put rfl rfl ?_ ?_
      · cases h_metered : s.registry.metered <;>
          simp [Registry.counted, h_metered, Event.message]
      · intro metric kind h_kind label
        cases metric <;> cases h_kind <;> cases h_metered : s.registry.metered <;>
          simp [List.filterMap_cons, Registry.counted, h_metered, Event.message]
    | none =>
      rw [Registry.settle_of_unbound h_get]
      refine h.put rfl rfl ?_ ?_
      · cases h_metered : s.registry.metered <;>
          simp [Registry.counted, Registry.size, h_metered, Event.message]
      · intro metric kind h_kind label
        cases metric <;> cases h_kind <;> cases h_metered : s.registry.metered <;>
          simp [List.filterMap_cons, Registry.counted, h_metered, Event.message]
  | publish h_at =>
    refine h.put rfl rfl ?_ ?_
    · cases h_metered : s.registry.metered <;> simp [Registry.gauged, h_metered]
    · -- the gauge is not a counter
      intro metric kind h_kind label
      cases metric <;> cases h_kind <;> cases h_metered : s.registry.metered <;>
        simp [Registry.gauged, h_metered]

theorem Recorded.of_run? (h_run : (idle r).run? schedule = some s) : Recorded r s := by
  refine run?_invariant Recorded.transition h_run ⟨rfl, rfl, rfl, fun _ _ => ?_⟩
  simp [System.counted, tally, idle]

end System

end KeyedBreakers
