import KeyedBreakers.Proofs.Registry.Tasks
import KeyedBreakers.Proofs.Registry.Turn

/-!
# Calls one after another

`Registry.resolve` says what comes of a call when nothing else goes on meanwhile. That is what comes of
a task that makes all its moves in a row; so calls that are resolved one after another are one of the
interleavings of their tasks.

* `System.exists_run?_of_foldl_advance` — moves in a row are a schedule;
* `System.exists_run?_alone` — the moves of a task in a row;
* `System.Interleaving.push` — one more task, after the end of all others.
-/

namespace KeyedBreakers

namespace System

variable {K : Type} [DecidableEq K]

/-- What a thread has done by itself: resolved a call, with the given report. -/
structure Alone (s : System K) (t : Nat) (report : Report K) (s' : System K) : Prop where
  registry : s'.registry = report.registry
  threads : s'.threads = s.threads
  outcomes : ∀ u, s'.outcomesOf u = s.outcomesOf u ++ if u = t then [report.outcome] else []
  occurrences : s'.occurrences = s.occurrences ++ report.trace

variable {s s₁ s' : System K} {t : Nat} {move : Move K}

theorem run?_cons_of_transition (h : Transition s t move s₁) (moves : List (Move K)) :
    s.run? ((move :: moves).map fun move => (t, move))
      = s₁.run? (moves.map fun move => (t, move)) := by
  rw [List.map_cons, run?_cons, step?_eq_some_iff.2 h, Option.bind_some]

omit [DecidableEq K] in
/-- The thread is where it was, and what it has done is told by the signals. -/
theorem Alone.put {report : Report K} (h_free : s.threads t = []) {signals : List (Signal K)}
    (h_outcome : signals.filterMap Signal.outcome? = [report.outcome])
    (h_trace : signals.filterMap Signal.occurrence? = report.trace) :
    Alone s t report (s.put t report.registry [] signals) where
  registry := rfl
  threads := by rw [← h_free, threads_put_threads]
  outcomes u := by rw [outcomesOf_put, h_outcome]
  occurrences := by rw [occurrences_put, h_trace]

/-! ### The moves of a task in a row -/

omit [DecidableEq K] in
/-- A task whose factory calls succeed goes on with its call. -/
theorem continues_of_nextMove? {stages : List (Stage K)} (h : nextMove? none stages = some move) :
    move.continues = true := by
  cases stages with
  | nil => exact nomatch h
  | cons stage outer =>
    cases stage <;> rw [← Option.some.inj h] <;> rfl

/-- What a thread comes to by its next moves in a row, it comes to by a schedule of such moves. -/
theorem exists_run?_of_foldl_advance (s : System K) (t n : Nat) :
    ∃ moves : List (Move K), (∀ move ∈ moves, move.continues = true) ∧
      s.run? (moves.map fun move => (t, move))
        = some ((List.replicate n t).foldl (advance none) s) := by
  induction n generalizing s with
  | zero => exact ⟨[], List.forall_mem_nil _, rfl⟩
  | succ n ih =>
    obtain ⟨moves, h_moves, h_run⟩ := ih (s.advance none t)
    rw [List.replicate_succ, List.foldl_cons]
    cases h_next : (nextMove? none (s.threads t)).bind (s.step? t) with
    | none =>
      -- the thread makes no move
      have h_same : s.advance none t = s := by rw [advance, h_next, Option.getD_none]
      rw [h_same] at h_run ⊢
      exact ⟨moves, h_moves, h_run⟩
    | some s₁ =>
      obtain ⟨move, h_move, h_step⟩ := Option.bind_eq_some_iff.1 h_next
      have h_first : s.advance none t = s₁ := by rw [advance, h_next, Option.getD_some]
      refine ⟨move :: moves, List.forall_mem_cons.2 ⟨continues_of_nextMove? h_move, h_moves⟩, ?_⟩
      rw [run?_cons_of_transition (step?_eq_some_iff.1 h_step), ← h_first, h_run]

theorem completesIn_looking (s : System K) (t : Nat) (r : Registry K) (key : K) :
    CompletesIn none s t 6 r (.looking key) (Registry.resolveKey [] r key) := by
  rw [Registry.resolveKey]
  cases h_get : r.get? key with
  | some b =>
    exact (completesIn_returning none s t 4 r (.ok b)).of_step rfl rfl
      fun _ => .hit (threads_put_self ..) h_get
  | none =>
    exact (completesIn_creating none s t r key).of_step rfl rfl
      fun _ => .miss (threads_put_self ..) h_get

/-- **A task by itself.** A thread that is in no call can make the moves of a task in a row, and what
comes of them is the report on its call. -/
theorem exists_run?_alone (h_free : s.threads t = []) (call : Call) :
    ∃ moves s', Move.AreTask moves (some call) ∧
      s.run? (moves.map fun move => (t, move)) = some s' ∧
      Alone s t (Registry.resolve [] s.registry call) s' := by
  have h_canStart : canStart (s.threads t) = true := by
    rw [h_free]
    rfl
  rw [Registry.resolve]
  cases h_key : s.registry.selector call with
  | error cause =>
    have h_refuse := Transition.refuse h_canStart h_key
    rw [h_free] at h_refuse
    exact ⟨_, _, ⟨[], rfl, List.forall_mem_nil _⟩, run?_cons_of_transition h_refuse [],
      .put h_free rfl rfl⟩
  | ok key =>
    have h_start : Transition s t (.call call)
        (s.put t s.registry (.looking key :: s.threads t) [.began key]) := .start h_canStart h_key
    rw [h_free] at h_start
    obtain ⟨told, h_told, h_outcome, h_trace⟩ :=
      completesIn_looking s t s.registry key [.began key]
    obtain ⟨moves, h_moves, h_run⟩ :=
      exists_run?_of_foldl_advance (s.put t s.registry [.looking key] [.began key]) t 6
    rw [← run?_cons_of_transition h_start, h_told] at h_run
    exact ⟨_, _, ⟨moves, rfl, h_moves⟩, h_run, .put h_free h_outcome h_trace⟩

/-! ### One more task -/

/-- A task that is run when all others have ended is one of the tasks. -/
theorem Interleaving.push {r : Registry K} {calls : List Call} (h : Interleaving r calls s)
    (call : Call) : ∃ s', Interleaving r (calls ++ [call]) s' ∧
      Alone s calls.length (Registry.resolve [] s.registry call) s' := by
  obtain ⟨⟨schedule, h_run, h_tasks⟩, h_ended⟩ := h
  obtain ⟨moves, s', h_moves, h_last, h_alone⟩ := exists_run?_alone (h_ended calls.length) call
  refine ⟨s', ⟨⟨schedule ++ moves.map fun move => (calls.length, move), ?_, fun t => ?_⟩, ?_⟩, h_alone⟩
  · rw [run?_append, h_run]
    exact h_last
  · rw [Schedule.movesOf_append]
    by_cases h_t : t = calls.length
    · subst h_t
      have h_before : schedule.movesOf calls.length = [] := by
        have h_none := h_tasks calls.length
        rwa [List.getElem?_eq_none (Nat.le_refl _)] at h_none
      rw [h_before, Schedule.movesOf_map_self, List.getElem?_concat_length]
      exact h_moves
    · have h_same : (calls ++ [call])[t]? = calls[t]? := by
        rw [List.getElem?_append]
        split
        · rfl
        · rw [List.getElem?_eq_none (by simp; omega), List.getElem?_eq_none (by omega)]
      rw [h_same, Schedule.movesOf_map_of_ne h_t, List.append_nil]
      exact h_tasks t
  · rw [h_alone.threads]
    exact h_ended

end System

end KeyedBreakers
