import KeyedBreakers.Proofs.Registry.Locality
import KeyedBreakers.Registry.Race
import KeyedBreakers.Registry.Resolve

/-!
# The moves of a thread in a row

`System.advance` makes the next move of a thread. If a thread makes its moves in a row, nothing else goes
on meanwhile, and its call comes to what `Registry.leave` and `Registry.resolveKey` say of a call that is
alone. How many moves that takes depends on whether the registry keeps metrics, so what is said here is
said of any number of moves that is large enough: a thread that is in no call makes none.

* `System.advance_of_transition`, `System.advance_of_free` — one move, or none;
* `System.CompletesIn`, one lemma for each stage — the rest of a call.
-/

namespace KeyedBreakers

namespace System

variable {K : Type} [DecidableEq K] {failure : Option String} {s s₁ : System K} {t : Nat}
  {move : Move K}

/-! ### One move -/

theorem advance_of_transition (h_next : nextMove? failure (s.threads t) = some move)
    (h : Transition s t move s₁) : s.advance failure t = s₁ := by
  rw [advance, h_next, Option.bind_some, step?_eq_some_iff.2 h, Option.getD_some]

/-- A thread that is in no call has no next move. -/
theorem advance_of_free (h : s.threads t = []) : s.advance failure t = s := by
  rw [advance, h]
  rfl

theorem foldl_advance_of_free (h : s.threads t = []) (n : Nat) :
    (List.replicate n t).foldl (advance failure) s = s := by
  induction n with
  | zero => rfl
  | succ n ih => rw [List.replicate_succ, List.foldl_cons, advance_of_free h, ih]

/-! ### The rest of a call -/

/-- **The rest of a call in so many moves.** From the given stage on, the call of the thread has ended
after `n` moves, and what comes of them is the given report. -/
def CompletesIn (failure : Option String) (s : System K) (t n : Nat) (r : Registry K)
    (stage : Stage K) (report : Report K) : Prop :=
  ∀ signals, ∃ told,
    (List.replicate n t).foldl (advance failure) (s.put t r [stage] signals)
      = s.put t report.registry [] (signals ++ told) ∧
    told.filterMap Signal.outcome? = [report.outcome] ∧
    told.filterMap Signal.occurrence? = report.trace

variable {n : Nat} {r r' : Registry K} {stage stage' : Stage K} {report : Report K}

theorem CompletesIn.of_step (h : CompletesIn failure s t n r' stage' report)
    (h_next : nextMove? failure [stage] = some move) {told : List (Signal K)}
    (h_silent : told.filterMap Signal.outcome? = [])
    (h_step : ∀ signals, Transition (s.put t r [stage] signals) t move
      ((s.put t r [stage] signals).put t r' [stage'] told)) :
    CompletesIn failure s t (n + 1) r stage
      { report with trace := told.filterMap Signal.occurrence? ++ report.trace } := by
  intro signals
  -- the later moves are told after this one
  obtain ⟨more, h_moves, h_outcome, h_trace⟩ := h (signals ++ told)
  have h_first : (s.put t r [stage] signals).advance failure t
      = s.put t r' [stage'] (signals ++ told) := by
    rw [← put_put]
    refine advance_of_transition ?_ (h_step signals)
    rw [threads_put_self, h_next]
  refine ⟨told ++ more, ?_, ?_, ?_⟩
  · rw [List.replicate_succ, List.foldl_cons, h_first, h_moves, List.append_assoc]
  · rw [List.filterMap_append, h_silent, h_outcome, List.nil_append]
  · rw [List.filterMap_append, h_trace]

theorem completesIn_returning (failure : Option String) (s : System K) (t n : Nat) (r : Registry K)
    (outcome : Outcome K) :
    CompletesIn failure s t (n + 1) r (.returning outcome) ⟨outcome, r, [], []⟩ := by
  intro signals
  have h_finish := Transition.finish (threads_put_self s t r [.returning outcome] signals)
  have h_next : nextMove? failure ((s.put t r [.returning outcome] signals).threads t)
      = some .finish := by
    rw [threads_put_self]
    rfl
  rw [put_put] at h_finish
  refine ⟨[.ended outcome], ?_, rfl, rfl⟩
  rw [List.replicate_succ, List.foldl_cons, advance_of_transition h_next h_finish]
  exact foldl_advance_of_free (threads_put_self ..) n

theorem completesIn_publishing (failure : Option String) (s : System K) (t n : Nat) (r : Registry K)
    (winner : Breaker K) (size : Nat) :
    CompletesIn failure s t (n + 2) r (.publishing winner size)
      ⟨.ok winner, r, [], r.gauged size⟩ := by
  have h := (completesIn_returning failure s t n r (.ok winner)).of_step rfl
    (filterMap_outcome?_occurred (r.gauged size)) fun _ => .publish (threads_put_self ..)
  rwa [filterMap_occurrence?_occurred, List.append_nil] at h

/-- The size is published if the registry keeps metrics; otherwise the thread is done two moves
earlier. -/
theorem completesIn_settled (failure : Option String) (s : System K) (t n : Nat) (r : Registry K)
    (winner : Breaker K) :
    CompletesIn failure s t (n + 3) r
      (if r.metered then .measuring winner else .returning (.ok winner))
      ⟨.ok winner, r, [], r.gauged r.size⟩ := by
  cases h_metered : r.metered with
  | false =>
    rw [Registry.gauged, h_metered]
    exact completesIn_returning failure s t (n + 2) r (.ok winner)
  | true =>
    exact (completesIn_publishing failure s t n r winner r.size).of_step rfl rfl
      fun _ => .measure (threads_put_self ..)

theorem completesIn_settling (failure : Option String) (s : System K) (t n : Nat) (r : Registry K)
    (b : Breaker K) :
    CompletesIn failure s t (n + 4) r (.settling b)
      ⟨.ok (r.settle b).winner, (r.settle b).registry, [],
        (r.settle b).trace ++ (r.settle b).registry.gauged (r.settle b).registry.size⟩ := by
  have h_settle : ∀ signals, Transition (s.put t r [.settling b] signals) t .settle
      ((s.put t r [.settling b] signals).put t (r.settle b).registry
        [if (r.settle b).registry.metered then .measuring (r.settle b).winner
          else .returning (.ok (r.settle b).winner)]
        (.settled (r.get? b.key) :: (r.settle b).trace.map .occurred)) := by
    intro signals
    have h_settle := Transition.settle (threads_put_self s t r [.settling b] signals)
    -- the stage is chosen by the registry as it was, which keeps metrics if it does now
    have h_metered : (r.settle b).registry.metered = r.metered :=
      congrArg (·.2.1) h_settle.settings_eq
    rwa [registry_put, ← h_metered] at h_settle
  have h_silent : (Signal.settled (r.get? b.key)
      :: (r.settle b).trace.map .occurred).filterMap Signal.outcome? = [] :=
    filterMap_outcome?_occurred _
  have h := (completesIn_settled failure s t n (r.settle b).registry (r.settle b).winner).of_step
    rfl h_silent h_settle
  rwa [List.filterMap_cons_none rfl, filterMap_occurrence?_occurred] at h

/-- A thread in the factory has left it after five moves, in the way in which the registry says. -/
theorem completesIn_creating (failure : Option String) (s : System K) (t : Nat) (r : Registry K)
    (key : K) : CompletesIn failure s t 5 r (.creating key) (r.leave key failure []) := by
  cases failure with
  | none =>
    have h_make : ∀ signals, Transition (s.put t r [.creating key] signals) t .make
        ((s.put t r [.creating key] signals).put t (r.make key).2 [.settling (r.make key).1]
          [.left (.ok (r.make key).1)]) := fun _ => .make (threads_put_self ..)
    exact (completesIn_settling none s t 0 (r.make key).2 (r.make key).1).of_step rfl rfl h_make
  | some cause =>
    have h_fail : ∀ signals, Transition (s.put t r [.creating key] signals) t (.fail cause)
        ((s.put t r [.creating key] signals).put t r [.returning (.error (.creation key cause))]
          (.left (.error cause) :: (r.toldFailure key cause).map .occurred)) :=
      fun _ => .fail (threads_put_self ..)
    have h_silent : (Signal.left (.error cause)
        :: (r.toldFailure key cause).map .occurred).filterMap Signal.outcome? = [] :=
      filterMap_outcome?_occurred _
    have h := (completesIn_returning (some cause) s t 3 r (.error (.creation key cause))).of_step
      rfl h_silent h_fail
    rwa [List.filterMap_cons_none rfl, filterMap_occurrence?_occurred, List.append_nil] at h

end System

end KeyedBreakers
