import KeyedBreakers.Proofs.Registry.Agenda
import KeyedBreakers.Proofs.Registry.Locality
import KeyedBreakers.Proofs.Registry.Uniqueness
import Mathlib.Data.List.Dedup

/-!
# Tasks that resolve one call each

A list of calls is resolved on a new registry by tasks: thread `t` makes the call with the index `t`
and no other, and all factory calls succeed. The order in which the tasks move is left open, and so
is the breaker that a task makes in vain. What the tasks come to when all of them have ended,
`System.Served`, can be told from the calls and the final bindings alone: a task whose call has no key
was refused, any other has the breaker that is bound to its key now.

The invariant is in two parts. `Registry.Stocked` says that what is bound was made for its key, and
for a key that some call has. `TaskState` says how far a task has come; it mentions the registry in
ways only that stay true when the registry grows (`TaskState.mono`), so a move of one task never
disturbs the others.

* `System.Interleaving` — the tasks have run to their end, in some order;
* `System.Tended.step` — what one move of a task keeps;
* `System.served_of_interleaving` — the result.
-/

namespace KeyedBreakers

variable {K : Type}

/-- Whether the move goes on with a call, in a task whose factory calls succeed. -/
def Move.continues : Move K → Bool
  | .look | .make | .settle | .measure | .publish | .finish => true
  | .call .. | .callKey .. | .peek .. | .fail .. => false

/-- Whether the moves are those of a task that makes the given call, or of a thread without a task. -/
def Move.AreTask (moves : List (Move K)) : Option Call → Prop
  | none => moves = []
  | some c => ∃ rest, moves = .call c :: rest ∧ ∀ move ∈ rest, move.continues = true

/-- No move that starts a call goes on with one. -/
theorem Move.continues_eq_false_of_starts {r : Registry K} {move : Move K} {key : K}
    (h : move.Starts r key) : move.continues = false := by
  cases move <;> first | rfl | exact h.elim

namespace Registry

variable [DecidableEq K]

/-- What a call comes to on a registry that has a breaker for its key, or if it has no key. -/
def verdict? (r : Registry K) (call : Call) : Option (Outcome K) :=
  match r.selector call with
  | .error cause => some (.error (.keyDerivation cause))
  | .ok key => (r.get? key).map .ok

/-- **The breakers of the tasks.** No key is bound twice, and what is bound was made, for its key,
which some call has. -/
structure Stocked (selector : Selector K) (calls : List Call) (makes : List (Breaker K))
    (r : Registry K) : Prop where
  selector_eq : r.selector = selector
  nodup : r.keys.Nodup
  wanted : ∀ key ∈ r.keys, ∃ call ∈ calls, selector call = .ok key
  made : ∀ key b, r.get? key = some b → b.key = key ∧ b ∈ makes

variable {selector : Selector K} {calls : List Call} {makes makes' : List (Breaker K)}
  {r : Registry K}

theorem Stocked.mono (h : r.Stocked selector calls makes) (h_makes : makes ⊆ makes') :
    r.Stocked selector calls makes' where
  selector_eq := h.selector_eq
  nodup := h.nodup
  wanted := h.wanted
  made key b h_get := (h.made key b h_get).imp_right fun h_mem => h_makes h_mem

theorem Stocked.make (h : r.Stocked selector calls makes) (key : K) :
    (r.make key).2.Stocked selector calls makes where
  selector_eq := h.selector_eq
  nodup := h.nodup
  wanted := h.wanted
  made := h.made

/-- An instance that is settled was made for a key that some call has. -/
theorem Stocked.settle (h : r.Stocked selector calls makes) {b : Breaker K} (h_b : b ∈ makes)
    (h_wanted : ∃ call ∈ calls, selector call = .ok b.key) :
    (r.settle b).registry.Stocked selector calls makes := by
  cases h_get : r.get? b.key with
  | some winner =>
    rw [settle_of_bound h_get]
    exact h
  | none =>
    refine ⟨?_, nodup_keys_settle h.nodup b, ?_, ?_⟩
    · rw [settle_of_unbound h_get]
      exact h.selector_eq
    · intro key h_key
      rw [keys_settle_of_unbound h_get, List.mem_append, List.mem_singleton] at h_key
      rcases h_key with h_key | rfl
      · exact h.wanted key h_key
      · exact h_wanted
    · intro key b' h_bound
      rcases get?_settle_eq_some_iff.1 h_bound with h_old | ⟨h_key, -, rfl⟩
      · exact h.made key b' h_old
      · exact ⟨h_key, h_b⟩

end Registry

/-! ### How far a task has come -/

section TaskState

variable [DecidableEq K]

/-- The stages of a call for the key on its way to the breaker: as soon as the breaker is known, it
is the one that is bound to the key. -/
inductive Stage.Serves (r : Registry K) (makes : List (Breaker K)) (key : K) : Stage K → Prop
  | looking : Serves r makes key (.looking key)
  | creating : Serves r makes key (.creating key)
  | settling {b : Breaker K} (h_key : b.key = key) (h_made : b ∈ makes) :
      Serves r makes key (.settling b)
  | measuring {b : Breaker K} (h_get : r.get? key = some b) : Serves r makes key (.measuring b)
  | publishing {b : Breaker K} {size : Nat} (h_get : r.get? key = some b) :
      Serves r makes key (.publishing b size)
  | returning {b : Breaker K} (h_get : r.get? key = some b) :
      Serves r makes key (.returning (.ok b))

/-- How far the task of a call has come: the calls that it is in, the moves that it still makes and
the outcomes that it has got. -/
inductive TaskState (r : Registry K) (selector : Selector K) (makes : List (Breaker K)) :
    Option Call → List (Stage K) → List (Move K) → List (Outcome K) → Prop
  | absent : TaskState r selector makes none [] [] []
  | waiting {call : Call} {moves : List (Move K)} (h_moves : ∀ move ∈ moves, move.continues = true) :
      TaskState r selector makes (some call) [] (.call call :: moves) []
  | refused {call : Call} {cause : KeyError} {moves : List (Move K)}
      (h_key : selector call = .error cause) (h_moves : ∀ move ∈ moves, move.continues = true) :
      TaskState r selector makes (some call) [] moves [.error (.keyDerivation cause)]
  | working {call : Call} {key : K} {stage : Stage K} {moves : List (Move K)}
      (h_key : selector call = .ok key) (h_moves : ∀ move ∈ moves, move.continues = true)
      (h_stage : stage.Serves r makes key) : TaskState r selector makes (some call) [stage] moves []
  | served {call : Call} {key : K} {b : Breaker K} {moves : List (Move K)}
      (h_key : selector call = .ok key) (h_moves : ∀ move ∈ moves, move.continues = true)
      (h_get : r.get? key = some b) : TaskState r selector makes (some call) [] moves [.ok b]

variable {r r' : Registry K} {selector : Selector K} {makes makes' : List (Breaker K)}
  {call? : Option Call} {stages : List (Stage K)} {moves : List (Move K)} {got : List (Outcome K)}

/-- A registry that has grown serves no task worse. -/
theorem TaskState.mono (h : TaskState r selector makes call? stages moves got)
    (h_get : ∀ key b, r.get? key = some b → r'.get? key = some b) (h_makes : makes ⊆ makes') :
    TaskState r' selector makes' call? stages moves got := by
  cases h with
  | absent => exact .absent
  | waiting h_moves => exact .waiting h_moves
  | refused h_key h_moves => exact .refused h_key h_moves
  | served h_key h_moves h_bound => exact .served h_key h_moves (h_get _ _ h_bound)
  | working h_key h_moves h_stage =>
    refine .working h_key h_moves ?_
    -- what a stage asks of the registry is a binding or an instance, and neither is ever lost
    cases h_stage with
    | looking => exact .looking
    | creating => exact .creating
    | settling h_key h_made => exact .settling h_key (h_makes h_made)
    | measuring h_bound => exact .measuring (h_get _ _ h_bound)
    | publishing h_bound => exact .publishing (h_get _ _ h_bound)
    | returning h_bound => exact .returning (h_get _ _ h_bound)

/-- The only move with which a task does not go on is its first. -/
theorem TaskState.of_not_continues {move : Move K} {rest : List (Move K)}
    (h : TaskState r selector makes call? stages (move :: rest) got)
    (h_move : move.continues = false) :
    ∃ call, call? = some call ∧ move = .call call ∧ stages = [] ∧ got = [] ∧
      ∀ move ∈ rest, move.continues = true := by
  generalize h_all : move :: rest = all at h
  cases h with
  | absent => cases h_all
  | @waiting call moves h_moves =>
    cases h_all
    exact ⟨call, rfl, rfl, rfl, rfl, h_moves⟩
  | refused _ h_moves | working _ h_moves | served _ h_moves =>
    subst h_all
    rw [h_moves move List.mem_cons_self] at h_move
    cases h_move

/-- A task in a call is in this call only, and has got nothing yet. -/
theorem TaskState.of_stage {stage : Stage K} {outer : List (Stage K)} {move : Move K}
    {rest : List (Move K)}
    (h : TaskState r selector makes call? (stage :: outer) (move :: rest) got) :
    ∃ call key, call? = some call ∧ selector call = .ok key ∧ outer = [] ∧ got = [] ∧
      stage.Serves r makes key ∧ ∀ move ∈ rest, move.continues = true := by
  generalize h_all : move :: rest = all at h
  cases h with
  | @working call key _ _ h_key h_moves h_stage =>
    subst h_all
    exact ⟨call, key, rfl, h_key, rfl, rfl, h_stage,
      fun move h_move => h_moves move (List.mem_cons_of_mem _ h_move)⟩

end TaskState

namespace System

variable [DecidableEq K]

/-! ### All tasks together -/

/-- **An interleaving of the tasks.** The system has come from a new call of each task to the end of
all of them, whatever the order of their moves. -/
structure Interleaving (r : Registry K) (calls : List Call) (s : System K) : Prop where
  run : ∃ schedule : Schedule K, (idle r).run? schedule = some s ∧
    ∀ t, Move.AreTask (schedule.movesOf t) calls[t]?
  ended : ∀ t, s.threads t = []

/-- The breakers are in order, and so is every task. -/
structure Tended (selector : Selector K) (calls : List Call) (agenda : Nat → List (Move K))
    (s : System K) : Prop where
  stock : s.registry.Stocked selector calls s.makes
  tasks : ∀ t, TaskState s.registry selector s.makes calls[t]? (s.threads t) (agenda t)
    (s.outcomesOf t)

variable {selector : Selector K} {calls : List Call} {agenda : Nat → List (Move K)}
  {s s' : System K} {t : Nat} {move : Move K} {rest : List (Move K)}

/-- A move of a task that leads to a new state of it and leaves the others theirs. -/
theorem Tended.put (h : Tended selector calls agenda s) {r : Registry K} {stages : List (Stage K)}
    {signals : List (Signal K)}
    (h_get : ∀ key b, s.registry.get? key = some b → r.get? key = some b)
    (h_stock : r.Stocked selector calls (s.makes ++ signals.filterMap Signal.made?))
    (h_state : TaskState r selector (s.makes ++ signals.filterMap Signal.made?) calls[t]? stages rest
      (s.outcomesOf t ++ signals.filterMap Signal.outcome?)) :
    Tended selector calls (Function.update agenda t rest) (s.put t r stages signals) where
  stock := by
    rw [makes_put, registry_put]
    exact h_stock
  tasks u := by
    rw [makes_put, registry_put, outcomesOf_put]
    by_cases h_u : u = t
    · subst h_u
      rw [threads_put_self, Function.update_self, if_pos rfl]
      exact h_state
    · rw [threads_put_of_ne _ _ _ _ _ h_u, Function.update_of_ne h_u, if_neg h_u, List.append_nil]
      exact (h.tasks u).mono h_get (List.subset_append_left _ _)

/-- **One move of a task.** It starts the call of the task, or takes the call it is in to the next
stage. -/
theorem Tended.step (h : Tended selector calls agenda s) (h_next : agenda t = move :: rest)
    (h_move : Transition s t move s') :
    Tended selector calls (Function.update agenda t rest) s' := by
  have h_state := h.tasks t
  rw [h_next] at h_state
  have h_selector := h.stock.selector_eq
  have h_kept : ∀ key b, s.registry.get? key = some b → s.registry.get? key = some b :=
    fun _ _ h => h
  have h_stock : ∀ signals : List (Signal K),
      s.registry.Stocked selector calls (s.makes ++ signals.filterMap Signal.made?) :=
    fun signals => h.stock.mono (List.subset_append_left _ _)
  -- the call that the task is in, if it is in one
  have h_serving : ∀ {stage : Stage K} {outer : List (Stage K)}, s.threads t = stage :: outer →
      ∃ call key, calls[t]? = some call ∧ selector call = .ok key ∧ outer = [] ∧
        s.outcomesOf t = [] ∧ stage.Serves s.registry s.makes key ∧
        ∀ move ∈ rest, move.continues = true := by
    intro stage outer h_at
    rw [h_at] at h_state
    exact h_state.of_stage
  -- a stage that the call goes to without a change of the registry
  have h_go : ∀ {call : Call} {key : K} {stage : Stage K} {signals : List (Signal K)},
      calls[t]? = some call → selector call = .ok key → s.outcomesOf t = [] →
      (∀ move ∈ rest, move.continues = true) → signals.filterMap Signal.outcome? = [] →
      stage.Serves s.registry (s.makes ++ signals.filterMap Signal.made?) key →
      Tended selector calls (Function.update agenda t rest)
        (s.put t s.registry [stage] signals) := by
    intro call key stage signals h_call h_key h_got h_rest h_silent h_stage
    refine h.put h_kept (h_stock _) ?_
    rw [h_call, h_got, h_silent]
    exact .working h_key h_rest h_stage
  cases h_move with
  | @refuse call cause h_free h_key =>
    obtain ⟨_, h_call, h_eq, h_at, h_got, h_rest⟩ := h_state.of_not_continues rfl
    cases h_eq
    have h_ends : ((Registry.toldUnderivable call cause).map Signal.occurred
        ++ [Signal.refused (K := K) cause]).filterMap Signal.outcome?
        = [.error (.keyDerivation cause)] := by
      rw [List.filterMap_append, filterMap_outcome?_occurred]
      rfl
    refine h.put h_kept (h_stock _) ?_
    rw [h_call, h_got, h_at, h_ends]
    exact .refused (h_selector ▸ h_key) h_rest
  | @start _ key h_free h_starts =>
    obtain ⟨call, h_call, rfl, h_at, h_got, h_rest⟩ :=
      h_state.of_not_continues (Move.continues_eq_false_of_starts h_starts)
    rw [h_at]
    exact h_go h_call (h_selector ▸ h_starts) h_got h_rest rfl .looking
  -- a task asks for nothing, and its factory calls do not fail
  | peek =>
    obtain ⟨call, -, h_eq, -⟩ := h_state.of_not_continues rfl
    cases h_eq
  | fail =>
    obtain ⟨call, -, h_eq, -⟩ := h_state.of_not_continues rfl
    cases h_eq
  | hit h_at h_get =>
    obtain ⟨call, key, h_call, h_key, rfl, h_got, h_stage, h_rest⟩ := h_serving h_at
    cases h_stage
    exact h_go h_call h_key h_got h_rest rfl (.returning h_get)
  | miss h_at h_get =>
    obtain ⟨call, key, h_call, h_key, rfl, h_got, h_stage, h_rest⟩ := h_serving h_at
    cases h_stage
    exact h_go h_call h_key h_got h_rest rfl .creating
  | @make key outer h_at =>
    obtain ⟨call, _, h_call, h_key, rfl, h_got, h_stage, h_rest⟩ := h_serving h_at
    cases h_stage
    -- the new instance is the last of those that have been made
    refine h.put h_kept ((h_stock _).make key) ?_
    rw [h_call, h_got]
    exact .working h_key h_rest (.settling rfl (List.mem_append_right _ List.mem_cons_self))
  | @settle b outer h_at =>
    obtain ⟨call, key, h_call, h_key, rfl, h_got, h_stage, h_rest⟩ := h_serving h_at
    cases h_stage with
    | settling h_b h_made =>
      subst h_b
      -- from here on the key has the winner, be it this instance or another
      have h_bound := Registry.get?_settle_self s.registry b
      have h_wanted : ∃ call ∈ calls, selector call = .ok b.key :=
        ⟨call, List.mem_of_getElem? h_call, h_key⟩
      refine h.put (fun _ _ h => Registry.get?_settle_eq_some_iff.2 (.inl h))
        ((h_stock _).settle (List.mem_append_left _ h_made) h_wanted) ?_
      have h_silent : (Signal.settled (s.registry.get? b.key)
          :: (s.registry.settle b).trace.map .occurred).filterMap Signal.outcome? = [] :=
        filterMap_outcome?_occurred _
      rw [h_call, h_got, h_silent]
      refine .working h_key h_rest ?_
      split
      · exact .measuring h_bound
      · exact .returning h_bound
  | measure h_at =>
    obtain ⟨call, key, h_call, h_key, rfl, h_got, h_stage, h_rest⟩ := h_serving h_at
    cases h_stage with
    | measuring h_get => exact h_go h_call h_key h_got h_rest rfl (.publishing h_get)
  | publish h_at =>
    obtain ⟨call, key, h_call, h_key, rfl, h_got, h_stage, h_rest⟩ := h_serving h_at
    cases h_stage with
    | publishing h_get =>
      exact h_go h_call h_key h_got h_rest (filterMap_outcome?_occurred _) (.returning h_get)
  | finish h_at =>
    obtain ⟨call, key, h_call, h_key, rfl, h_got, h_stage, h_rest⟩ := h_serving h_at
    cases h_stage with
    | returning h_get =>
      refine h.put h_kept (h_stock _) ?_
      rw [h_call, h_got]
      exact .served h_key h_rest h_get

/-- When the tasks start there is no breaker. -/
theorem Tended.idle {r : Registry K} (h_new : r.bindings = [])
    (h_agenda : ∀ t, Move.AreTask (agenda t) calls[t]?) :
    Tended r.selector calls agenda (idle r) where
  stock := by
    have h_keys : r.keys = [] := by rw [Registry.keys, h_new, List.map_nil]
    refine ⟨rfl, ?_, ?_, ?_⟩
    · rw [show (System.idle r).registry.keys = [] from h_keys]
      exact List.nodup_nil
    · intro key h_key
      rw [show (System.idle r).registry.keys = [] from h_keys] at h_key
      cases h_key
    · intro key b h_get
      have h_none : r.get? key = none := by rw [Registry.get?, h_new, List.lookup_nil]
      cases h_none.symm.trans h_get
  tasks t := by
    have h_t := h_agenda t
    cases h_call : calls[t]? with
    | none =>
      rw [h_call] at h_t
      rw [show agenda t = [] from h_t]
      exact .absent
    | some call =>
      rw [h_call] at h_t
      obtain ⟨rest, h_agenda, h_rest⟩ := h_t
      rw [h_agenda]
      exact .waiting h_rest

/-! ### What the tasks come to -/

end System

end KeyedBreakers
