import KeyedBreakers.Proofs.Registry.Metering
import KeyedBreakers.Proofs.Registry.Turn

/-!
# Races with and without metrics

A race of calls goes alike whether the registry keeps metrics or not. A call that publishes the size
takes two moves more than one that does not, so the two systems do not move in step; but in a race each
thread makes all its moves out of the factory in a row, and at the end of these it has left both
registries with the same bindings.

* `System.Twins` — two systems that differ in metrics only, and which moves they may make side by side;
* `Registry.race_withMeter` — the two races;
* `Registry.labels_of_mem_race` — the updates of a race are the registry's own.
-/

namespace KeyedBreakers

variable {K : Type}

namespace System

variable [DecidableEq K] {failure : Option String} {s s' : System K} {t n : Nat} {stage : Stage K}
  {report : Report K}

/-! ### Two systems side by side -/

/-- The second system is the first one with the switch of the metrics set: all threads are where they
were, and what has come of them but for updates is the same. -/
structure Twins (on : Bool) (s s' : System K) : Prop where
  registry : s'.registry = s.registry.withMeter on
  threads : s'.threads = s.threads
  outcomes : ∀ t, s'.outcomesOf t = s.outcomesOf t
  occurrences : quiet s'.occurrences = quiet s.occurrences

omit [DecidableEq K] in
theorem Twins.idle (on : Bool) (r : Registry K) :
    Twins on (System.idle r) (System.idle (r.withMeter on)) := ⟨rfl, rfl, fun _ => rfl, rfl⟩

omit [DecidableEq K] in
/-- The systems differ in metrics only after a thread has come to the same in both. -/
theorem Twins.put {on : Bool} (h : Twins on s s') (t : Nat) (r : Registry K)
    (stages : List (Stage K)) {signals signals' : List (Signal K)}
    (h_outcomes : signals'.filterMap Signal.outcome? = signals.filterMap Signal.outcome?)
    (h_quiet : quiet (signals'.filterMap Signal.occurrence?)
      = quiet (signals.filterMap Signal.occurrence?)) :
    Twins on (s.put t r stages signals) (s'.put t (r.withMeter on) stages signals') where
  registry := rfl
  threads := by
    funext u
    by_cases h_u : u = t
    · rw [h_u, threads_put_self, threads_put_self]
    · rw [threads_put_of_ne _ _ _ _ _ h_u, threads_put_of_ne _ _ _ _ _ h_u, h.threads]
  outcomes u := by rw [outcomesOf_put, outcomesOf_put, h.outcomes, h_outcomes]
  occurrences := by
    rw [occurrences_put, occurrences_put, quiet_append, quiet_append, h.occurrences, h_quiet]

/-! ### The start of a race -/

/-- A thread that cannot start a call does not. -/
theorem step?_call_of_canStart_eq_false {call : Call} (h : canStart (s.threads t) = false) :
    s.step? t (.call call) = none := by
  rw [Option.eq_none_iff_forall_ne_some]
  intro s₁ h_step
  cases step?_eq_some_iff.1 h_step with
  | refuse h_free => exact absurd h_free (by rw [h]; exact Bool.false_ne_true)
  | start h_free => exact absurd h_free (by rw [h]; exact Bool.false_ne_true)

/-- Both systems start a call, or neither can. -/
theorem Twins.call {on : Bool} (h : Twins on s s') (t : Nat) (call : Call) :
    Twins on ((s.step? t (.call call)).getD s) ((s'.step? t (.call call)).getD s') := by
  cases h_free : canStart (s.threads t) with
  | false =>
    have h_free' : canStart (s'.threads t) = false := by rw [h.threads, h_free]
    rw [step?_call_of_canStart_eq_false h_free, step?_call_of_canStart_eq_false h_free']
    exact h
  | true =>
    have h_free' : canStart (s'.threads t) = true := by rw [h.threads, h_free]
    cases h_key : s.registry.selector call with
    | error cause =>
      have h_key' : s'.registry.selector call = .error cause := by rw [h.registry]; exact h_key
      rw [step?_eq_some_iff.2 (.refuse h_free h_key), step?_eq_some_iff.2 (.refuse h_free' h_key'),
        Option.getD_some, Option.getD_some, h.threads, h.registry]
      exact h.put t s.registry (s.threads t) rfl rfl
    | ok key =>
      have h_key' : s'.registry.selector call = .ok key := by rw [h.registry]; exact h_key
      have h_step : s.step? t (.call call)
          = some (s.put t s.registry (.looking key :: s.threads t) [.began key]) :=
        step?_eq_some_iff.2 (.start h_free h_key)
      have h_step' : s'.step? t (.call call)
          = some (s'.put t s'.registry (.looking key :: s'.threads t) [.began key]) :=
        step?_eq_some_iff.2 (.start h_free' h_key')
      rw [h_step, h_step', Option.getD_some, Option.getD_some, h.threads, h.registry]
      exact h.put t s.registry (.looking key :: s.threads t) rfl rfl

/-- Where a thread may stand when the look-ups of a race begin. -/
inductive Waits : List (Stage K) → Prop
  | free : Waits []
  | looking (key : K) : Waits [.looking key]

/-- Threads that start a call from nowhere wait for its look-up. -/
theorem waits_call (h : ∀ t, Waits (s.threads t)) (t : Nat) (call : Call) (u : Nat) :
    Waits (((s.step? t (.call call)).getD s).threads u) := by
  cases h_step : s.step? t (.call call) with
  | none => exact h u
  | some s₁ =>
    rw [Option.getD_some]
    by_cases h_u : u = t
    · subst h_u
      cases step?_eq_some_iff.1 h_step with
      | refuse =>
        rw [threads_put_self]
        exact h u
      | @start _ key h_free =>
        have h_nil : s.threads u = [] := by
          cases h_stages : s.threads u with
          | nil => rfl
          | cons stage outer =>
            -- a thread that waits for its look-up can start no call
            have h_waits := h u
            rw [h_stages] at h_waits h_free
            cases h_waits
            exact absurd h_free Bool.false_ne_true
        rw [threads_put_self, h_nil]
        exact .looking key
    · cases step?_eq_some_iff.1 h_step with
      | refuse =>
        rw [threads_put_of_ne _ _ _ _ _ h_u]
        exact h u
      | start =>
        rw [threads_put_of_ne _ _ _ _ _ h_u]
        exact h u

/-- The systems at the start of a race. -/
theorem Twins.startAll {on : Bool} (h : Twins on s s') (h_waits : ∀ t, Waits (s.threads t))
    (threads : List Nat) (call : Call) :
    Twins on (s.startAll threads call) (s'.startAll threads call) ∧
      ∀ t, Waits ((s.startAll threads call).threads t) := by
  induction threads generalizing s s' with
  | nil => exact ⟨h, h_waits⟩
  | cons t threads ih => exact ih (h.call t call) (waits_call h_waits t call)

/-! ### The look-ups -/

/-- Where a thread may stand when it has looked its key up and has not begun to leave the factory, or
has left it. -/
inductive Rests : List (Stage K) → Prop
  | free : Rests []
  | creating (key : K) : Rests [.creating key]
  | returning (outcome : Outcome K) : Rests [.returning outcome]

/-- A thread looks its key up in both systems, and finds the same. -/
theorem Twins.look {on : Bool} (h : Twins on s s') (failure : Option String)
    (h_waits : Waits (s.threads t)) :
    Twins on (s.advance failure t) (s'.advance failure t) ∧
      Rests ((s.advance failure t).threads t) ∧
      ∀ u ≠ t, (s.advance failure t).threads u = s.threads u := by
  generalize h_at : s.threads t = stages at h_waits
  have h_at' : s'.threads t = stages := by rw [h.threads, h_at]
  cases h_waits with
  | free =>
    rw [advance_of_free h_at, advance_of_free h_at', h_at]
    exact ⟨h, .free, fun u _ => rfl⟩
  | looking key =>
    have h_next : nextMove? failure (s.threads t) = some .look := by rw [h_at]; rfl
    have h_next' : nextMove? failure (s'.threads t) = some .look := by rw [h_at']; rfl
    cases h_get : s.registry.get? key with
    | some b =>
      have h_get' : s'.registry.get? key = some b := by rw [h.registry]; exact h_get
      rw [advance_of_transition h_next (.hit h_at h_get),
        advance_of_transition h_next' (.hit h_at' h_get'), h.registry, threads_put_self]
      exact ⟨h.put t s.registry _ rfl rfl, .returning _,
        fun u h_u => threads_put_of_ne _ _ _ _ _ h_u⟩
    | none =>
      have h_get' : s'.registry.get? key = none := by rw [h.registry]; exact h_get
      rw [advance_of_transition h_next (.miss h_at h_get),
        advance_of_transition h_next' (.miss h_at' h_get'), h.registry, threads_put_self]
      exact ⟨h.put t s.registry _ rfl rfl, .creating key,
        fun u h_u => threads_put_of_ne _ _ _ _ _ h_u⟩

/-- All threads look their keys up, one after another. -/
theorem Twins.lookAll {on : Bool} (h : Twins on s s') (failure : Option String)
    (h_waits : ∀ t, Waits (s.threads t)) (count : Nat) :
    Twins on ((List.range count).foldl (advance failure) s)
        ((List.range count).foldl (advance failure) s') ∧
      (∀ t < count, Rests (((List.range count).foldl (advance failure) s).threads t)) ∧
      ∀ t, count ≤ t → ((List.range count).foldl (advance failure) s).threads t = s.threads t := by
  induction count with
  | zero => exact ⟨h, fun t h_t => absurd h_t (Nat.not_lt_zero t), fun t _ => rfl⟩
  | succ count ih =>
    obtain ⟨h_twins, h_rests, h_others⟩ := ih
    -- the next thread is where it was at the start, since only those before it have moved
    have h_last : Waits (((List.range count).foldl (advance failure) s).threads count) := by
      rw [h_others count (Nat.le_refl count)]
      exact h_waits count
    obtain ⟨h_look, h_rest, h_same⟩ := h_twins.look failure h_last
    rw [List.range_succ, List.foldl_append, List.foldl_append]
    refine ⟨h_look, fun t h_t => ?_, fun t h_t => ?_⟩
    · by_cases h_eq : t = count
      · rw [h_eq]
        exact h_rest
      · show Rests ((advance failure _ count).threads t)
        rw [h_same t h_eq]
        exact h_rests t (Nat.lt_of_le_of_ne (Nat.le_of_lt_succ h_t) h_eq)
    · show (advance failure _ count).threads t = _
      rw [h_same t (Nat.ne_of_gt h_t)]
      exact h_others t (Nat.le_of_succ_le h_t)

/-! ### The ways out of the factory -/

omit [DecidableEq K] in
theorem put_self (s : System K) (h_at : s.threads t = [stage]) :
    s.put t s.registry [stage] [] = s := by
  have h_threads : (s.put t s.registry [stage] []).threads = s.threads := by
    rw [← h_at, threads_put_threads]
  calc s.put t s.registry [stage] []
      = ⟨s.registry, (s.put t s.registry [stage] []).threads, s.trace ++ []⟩ := rfl
    _ = s := by rw [h_threads, List.append_nil]

/-- A thread that completes its call in both systems with reports that agree leaves them twins. -/
theorem Twins.completes {on : Bool} (h : Twins on s s') {report' : Report K}
    (h_at : s.threads t = [stage]) (h_agree : report.Agree on report')
    (h_loud : CompletesIn failure s t n s.registry stage report)
    (h_copy : CompletesIn failure s' t n s'.registry stage report') :
    Twins on ((List.replicate n t).foldl (advance failure) s)
        ((List.replicate n t).foldl (advance failure) s') ∧
      ∀ u, Rests (s.threads u) →
        Rests (((List.replicate n t).foldl (advance failure) s).threads u) := by
  have h_at' : s'.threads t = [stage] := by rw [h.threads, h_at]
  obtain ⟨told, h_moves, h_outcome, h_trace⟩ := h_loud []
  obtain ⟨told', h_moves', h_outcome', h_trace'⟩ := h_copy []
  rw [put_self s h_at, List.nil_append] at h_moves
  rw [put_self s' h_at', List.nil_append, h_agree.registry] at h_moves'
  rw [h_moves, h_moves']
  constructor
  · refine h.put t report.registry [] ?_ ?_
    · rw [h_outcome', h_outcome, h_agree.outcome]
    · rw [h_trace', h_trace, h_agree.trace]
  · intro u h_rests
    by_cases h_u : u = t
    · rw [h_u, threads_put_self]
      exact .free
    · rw [threads_put_of_ne _ _ _ _ _ h_u]
      exact h_rests

/-- A thread makes all its moves out of the factory in both systems. -/
theorem Twins.leave {on : Bool} (h : Twins on s s') (failure : Option String)
    (h_rests : Rests (s.threads t)) :
    Twins on ((List.replicate 5 t).foldl (advance failure) s)
        ((List.replicate 5 t).foldl (advance failure) s') ∧
      ∀ u, Rests (s.threads u) →
        Rests (((List.replicate 5 t).foldl (advance failure) s).threads u) := by
  generalize h_at : s.threads t = stages at h_rests
  cases h_rests with
  | free =>
    have h_at' : s'.threads t = [] := by rw [h.threads, h_at]
    rw [foldl_advance_of_free h_at, foldl_advance_of_free h_at']
    exact ⟨h, fun u h_u => h_u⟩
  | creating key =>
    refine h.completes h_at ?_ (completesIn_creating failure s t s.registry key)
      (completesIn_creating failure s' t s'.registry key)
    rw [h.registry]
    exact s.registry.leave_withMeter on key failure []
  | returning outcome =>
    refine h.completes h_at ?_ (completesIn_returning failure s t 4 s.registry outcome)
      (completesIn_returning failure s' t 4 s'.registry outcome)
    rw [h.registry]
    exact ⟨rfl, rfl, rfl, rfl⟩

/-- All threads leave the factory, one after another. -/
theorem Twins.leaveAll {on : Bool} (h : Twins on s s') (failure : Option String)
    (threads : List Nat) (h_rests : ∀ t ∈ threads, Rests (s.threads t)) :
    Twins on ((threads.flatMap (List.replicate 5)).foldl (advance failure) s)
      ((threads.flatMap (List.replicate 5)).foldl (advance failure) s') := by
  induction threads generalizing s s' with
  | nil => exact h
  | cons t threads ih =>
    obtain ⟨h_leave, h_still⟩ := h.leave failure (h_rests t List.mem_cons_self)
    rw [List.flatMap_cons, List.foldl_append, List.foldl_append]
    exact ih h_leave fun u h_u => h_still u (h_rests u (List.mem_cons_of_mem t h_u))

/-! ### The race -/

/-- What every move keeps, a race keeps. -/
theorem race_invariant {P : System K → Prop}
    (h_step : ∀ {s t move s'}, P s → Transition s t move s' → P s') (r : Registry K) (count : Nat)
    (call : Call) (failure : Option String) (h : P (System.idle r)) :
    P (r.race count call failure) := by
  -- a thread that cannot make its move leaves the system as it is
  have h_call : ∀ (threads : List Nat) (s : System K), P s → P (s.startAll threads call) := by
    intro threads
    induction threads with
    | nil => exact fun s h => h
    | cons t threads ih =>
      intro s h
      refine ih _ ?_
      show P ((s.step? t (.call call)).getD s)
      cases h_move : s.step? t (.call call) with
      | none => exact h
      | some s₁ => exact h_step h (step?_eq_some_iff.1 h_move)
  have h_advance : ∀ (threads : List Nat) (s : System K), P s →
      P (threads.foldl (advance failure) s) := by
    intro threads
    induction threads with
    | nil => exact fun s h => h
    | cons t threads ih =>
      intro s h
      refine ih _ ?_
      unfold advance
      cases h_move : (nextMove? failure (s.threads t)).bind (s.step? t) with
      | none => exact h
      | some s₁ =>
        obtain ⟨move, -, h_move⟩ := Option.bind_eq_some_iff.1 h_move
        exact h_step h (step?_eq_some_iff.1 h_move)
  exact h_advance _ _ (h_call _ _ h)

end System

namespace Registry

variable [DecidableEq K]

/-- **A race goes alike with and without metrics.** -/
theorem race_withMeter (on : Bool) (r : Registry K) (count : Nat) (call : Call)
    (failure : Option String) :
    System.Twins on (r.race count call failure) ((r.withMeter on).race count call failure) := by
  -- all threads start their calls, all look their keys up, and one after another leaves the factory
  obtain ⟨h_start, h_waits⟩ := (System.Twins.idle on r).startAll (fun _ => .free)
    (List.range count) call
  obtain ⟨h_look, h_rests, -⟩ := h_start.lookAll failure h_waits count
  unfold race System.raceOrder
  rw [List.foldl_append, List.foldl_append]
  exact h_look.leaveAll failure (List.range count) fun t h_t => h_rests t (List.mem_range.1 h_t)

theorem labels_of_mem_settle (r : Registry K) (b : Breaker K) :
    ∀ o ∈ (r.settle b).trace, r.Labels o := by
  cases h_get : r.get? b.key with
  | some winner =>
    rw [settle_of_bound h_get]
    exact labels_of_mem_told
  | none =>
    rw [settle_of_unbound h_get]
    exact labels_of_mem_told

/-- All updates that a move makes are the registry's own. -/
theorem labels_of_transition {s s₁ : System K} {t : Nat} {move : Move K}
    (h : System.Transition s t move s₁) {o : Occurrence K} (h_o : o ∈ s₁.occurrences) :
    o ∈ s.occurrences ∨ s.registry.Labels o := by
  -- what has occurred by now had occurred before the move, or it is one of its signals
  have h_put : ∀ {r : Registry K} {stages : List (Stage K)} {signals : List (Signal K)},
      s₁ = s.put t r stages signals →
      (∀ o ∈ signals.filterMap Signal.occurrence?, s.registry.Labels o) →
      o ∈ s.occurrences ∨ s.registry.Labels o := by
    intro r stages signals h_s₁ h_signals
    rw [h_s₁, System.occurrences_put] at h_o
    exact (List.mem_append.1 h_o).imp_right (h_signals o)
  cases h with
  | @refuse call cause h_free h_key =>
    refine h_put rfl fun o h_o => ?_
    have h_silent : [Signal.refused (K := K) cause].filterMap Signal.occurrence? = [] := rfl
    rw [List.filterMap_append, System.filterMap_occurrence?_occurred, h_silent, List.append_nil]
      at h_o
    rw [List.mem_singleton.1 h_o]
    trivial
  | start => exact h_put rfl fun o h_o => nomatch h_o
  | peek => exact h_put rfl fun o h_o => nomatch h_o
  | hit => exact h_put rfl fun o h_o => nomatch h_o
  | miss =>
    refine h_put rfl fun o h_o => ?_
    rw [List.mem_singleton.1 h_o]
    trivial
  | make => exact h_put rfl fun o h_o => nomatch h_o
  | @fail key outer cause h_at =>
    refine h_put rfl fun o h_o => ?_
    rw [List.filterMap_cons_none rfl, System.filterMap_occurrence?_occurred] at h_o
    exact labels_of_mem_leave s.registry key (some cause) [] o h_o
  | @settle b outer h_at =>
    refine h_put rfl fun o h_o => ?_
    rw [List.filterMap_cons_none rfl, System.filterMap_occurrence?_occurred] at h_o
    exact labels_of_mem_settle s.registry b o h_o
  | measure => exact h_put rfl fun o h_o => nomatch h_o
  | publish =>
    refine h_put rfl fun o h_o => ?_
    rw [System.filterMap_occurrence?_occurred] at h_o
    exact labels_of_mem_gauged o h_o
  | finish => exact h_put rfl fun o h_o => nomatch h_o

/-- All updates of a race are the registry's own. -/
theorem labels_of_mem_race (r : Registry K) (count : Nat) (call : Call) (failure : Option String) :
    ∀ o ∈ (r.race count call failure).occurrences, r.Labels o := by
  have h_kept : (r.race count call failure).registry.settings = r.settings ∧
      ∀ o ∈ (r.race count call failure).occurrences, r.Labels o := by
    refine System.race_invariant (P := fun s => s.registry.settings = r.settings ∧
      ∀ o ∈ s.occurrences, r.Labels o) ?_ r count call failure ⟨rfl, fun o h_o => nomatch h_o⟩
    intro s t move s₁ ⟨h_settings, h_labels⟩ h_move
    refine ⟨h_move.settings_eq.trans h_settings, fun o h_o => ?_⟩
    rcases labels_of_transition h_move h_o with h_old | h_new
    · exact h_labels o h_old
    · rwa [labels_congr h_settings] at h_new
  exact h_kept.2

end Registry

end KeyedBreakers
