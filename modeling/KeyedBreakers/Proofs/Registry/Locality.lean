import KeyedBreakers.Proofs.Registry.Renumbering

/-!
# A move concerns one thread and one key

Every move is a step of a call for one key, or of a call that has no key. It changes the thread that
makes it and what there is to say of this key, and leaves alone all other threads and keys. And what
it does depends on no more than this: in a system that agrees on the thread and on the key, up to the
numbers of the instances, the same move can be made and leads to the same.

* `Move.key?`, `System.keyOf?` — the key that a move is for;
* `System.inThread`, `System.atKey` — what there is to say of a thread and of a key;
* `Transition.inThread_of_ne`, `Transition.inThread_of_dropped`, `Transition.atKey_of_ne` — what a
  move leaves alone;
* `System.Agree`, `System.Followed` — agreement on the thread and the key of a move, before the move and
  after it;
* `Transition.follow` — the same move in a system that agrees.
-/

namespace KeyedBreakers

variable {K : Type}

/-! ### What a move is for -/

/-- The key of the call that a move is a step of, where the innermost call of its thread is for the
given key; none if the call has no key. -/
def Move.key? (selector : Selector K) (innermost : Option K) : Move K → Option K
  | .call c => (selector c).toOption
  | .callKey key | .peek key => some key
  | _ => innermost

namespace System

/-- The key that a move of the thread is for. -/
def keyOf? (s : System K) (t : Nat) (move : Move K) : Option K :=
  move.key? s.registry.selector ((s.threads t).head?.bind Stage.key?)

/-! ### Threads and keys by themselves -/

/-- What there is to say of a thread: the calls that it is in and the outcomes of those that have
ended. -/
structure ThreadView (K : Type) where
  stages : List (Stage K)
  outcomes : List (Outcome K)

/-- What there is to say of a key: its breaker, and what has been told of it, with the threads. -/
structure KeyView (K : Type) where
  binding : Option (Breaker K)
  told : List (Nat × Signal K)

/-- What there is to say of a thread when only calls for some keys count. -/
def inThread (s : System K) (keep : Option K → Bool) (t : Nat) : ThreadView K where
  stages := (s.threads t).filter (keep ·.key?)
  outcomes := (s.outcomesOf t).filter (keep ·.key?)

/-- What there is to say of a thread. -/
abbrev allOf (s : System K) (t : Nat) : ThreadView K := ⟨s.threads t, s.outcomesOf t⟩

theorem inThread_true (s : System K) (t : Nat) : s.inThread (fun _ => true) t = s.allOf t := by
  rw [inThread, List.filter_true, List.filter_true]

/-- The same of a thread under other numbers. -/
structure ThreadView.Follows (f : Nat → Nat) (v v' : ThreadView K) : Prop where
  stages : List.Forall₂ (Stage.Alike f) v.stages v'.stages
  outcomes : v'.outcomes = v.outcomes.map (Outcome.renumber f)

/-- The same of a key under other numbers. -/
def KeyView.renumber (f : Nat → Nat) (v : KeyView K) : KeyView K where
  binding := v.binding.map (Breaker.renumber f)
  told := v.told.map fun x => (x.1, x.2.renumber f)

variable [DecidableEq K]

/-- What there is to say of a key. -/
def atKey (s : System K) (key : K) : KeyView K where
  binding := s.registry.get? key
  told := s.trace.filter (·.2.key? = some key)

omit [DecidableEq K] in
theorem filter_cons_of_counts {keep : Option K → Bool} {stage : Stage K}
    (h : keep stage.key? = true) (outer : List (Stage K)) :
    (stage :: outer).filter (keep ·.key?) = stage :: outer.filter (keep ·.key?) :=
  List.filter_cons_of_pos h

omit [DecidableEq K] in
theorem filter_cons_of_not_counts {keep : Option K → Bool} {stage : Stage K}
    (h : keep stage.key? = false) (outer : List (Stage K)) :
    (stage :: outer).filter (keep ·.key?) = outer.filter (keep ·.key?) :=
  List.filter_cons_of_neg (by simp [h])

section Put

variable {s s' : System K} {t : Nat} {r r' : Registry K} {stages stages' : List (Stage K)}
  {signals signals' : List (Signal K)}

omit [DecidableEq K] in
theorem inThread_put_of_ne {u : Nat} (h : u ≠ t) (keep : Option K → Bool) :
    (s.put t r stages signals).inThread keep u = s.inThread keep u := by
  rw [inThread, threads_put_of_ne _ _ _ _ _ h, outcomesOf_put, if_neg h, List.append_nil, inThread]

omit [DecidableEq K] in
theorem inThread_put_self (keep : Option K → Bool) :
    (s.put t r stages signals).inThread keep t = ⟨stages.filter (keep ·.key?),
      (s.outcomesOf t).filter (keep ·.key?)
        ++ (signals.filterMap Signal.outcome?).filter (keep ·.key?)⟩ := by
  rw [inThread, threads_put_self, outcomesOf_put, if_pos rfl, List.filter_append]

theorem atKey_put (key : K) : (s.put t r stages signals).atKey key =
    ⟨r.get? key, (s.atKey key).told
      ++ (signals.filter (·.key? = some key)).map fun signal => (t, signal)⟩ := by
  rw [atKey, trace_put, List.filter_append, List.filter_map]
  rfl

/-- A thread and one that follows it still agree after they have moved alike. -/
theorem ThreadView.Follows.put {f : Nat → Nat} {keep : Option K → Bool}
    (h : (s.inThread keep t).Follows f (s'.allOf t))
    (h_stages : List.Forall₂ (Stage.Alike f) (stages.filter (keep ·.key?)) stages')
    (h_told : Retold f signals signals')
    (h_keep : ∀ outcome ∈ signals.filterMap Signal.outcome?, keep outcome.key? = true) :
    ((s.put t r stages signals).inThread keep t).Follows f
      ((s'.put t r' stages' signals').allOf t) := by
  have h_outcomes : s'.outcomesOf t
      = ((s.outcomesOf t).filter (keep ·.key?)).map (Outcome.renumber f) := h.outcomes
  rw [inThread_put_self, List.filter_eq_self.2 h_keep]
  refine ⟨?_, ?_⟩
  · show List.Forall₂ _ _ ((s'.put t r' stages' signals').threads t)
    rw [threads_put_self]
    exact h_stages
  · show (s'.put t r' stages' signals').outcomesOf t = _
    rw [outcomesOf_put, if_pos rfl, h_told.outcomes, h_outcomes, List.map_append]

/-- So they do after the innermost call has come to stages that are alike. -/
theorem ThreadView.Follows.advance {f : Nat → Nat} {keep : Option K → Bool}
    (h : (s.inThread keep t).Follows f (s'.allOf t)) {outer outer' : List (Stage K)}
    (h_outer : List.Forall₂ (Stage.Alike f) (outer.filter (keep ·.key?)) outer')
    {next next' : Stage K} (h_next : next.Alike f next') (h_keep : keep next.key? = true)
    (h_told : Retold f signals signals') (h_silent : signals.filterMap Signal.outcome? = []) :
    ((s.put t r (next :: outer) signals).inThread keep t).Follows f
      ((s'.put t r' (next' :: outer') signals').allOf t) := by
  refine h.put ?_ h_told ?_
  · rw [filter_cons_of_counts h_keep]
    exact .cons h_next h_outer
  · rw [h_silent]
    intro outcome h_mem
    cases h_mem

/-- A key and its copy still agree after the same has been told of it. -/
theorem atKey_put_eq_renumber {f : Nat → Nat} {key : K}
    (h : s'.atKey key = (s.atKey key).renumber f)
    (h_get : r'.get? key = (r.get? key).map (Breaker.renumber f))
    (h_told : Retold f signals signals') :
    (s'.put t r' stages' signals').atKey key
      = ((s.put t r stages signals).atKey key).renumber f := by
  rw [atKey_put, atKey_put, h, h_told.signals, h_get, KeyView.renumber, KeyView.renumber,
    List.map_append, List.map_map, List.map_map]
  rfl

end Put

/-! ### What a move leaves alone -/

variable {s s₁ s' : System K} {t : Nat} {move : Move K}

namespace Transition

theorem settings_eq (h : Transition s t move s₁) : s₁.registry.settings = s.registry.settings := by
  cases h with
  | settle h_at =>
    rw [registry_put, Registry.settle]
    split <;> rfl
  | _ => rfl

/-- Other threads are left alone. -/
theorem inThread_of_ne (h : Transition s t move s₁) {u : Nat} (h_u : u ≠ t)
    (keep : Option K → Bool) : s₁.inThread keep u = s.inThread keep u := by
  cases h <;> exact inThread_put_of_ne h_u keep

/-- Other keys are left alone. -/
theorem atKey_of_ne (h : Transition s t move s₁) {key : K} (h_key : s.keyOf? t move ≠ some key) :
    s₁.atKey key = s.atKey key := by
  have h_told : ∀ {r : Registry K} {stages : List (Stage K)} {signals : List (Signal K)},
      r.get? key = s.registry.get? key → signals.filter (·.key? = some key) = [] →
      (s.put t r stages signals).atKey key = s.atKey key := by
    intro r stages signals h_get h_signals
    rw [atKey_put, h_signals, h_get, List.map_nil, List.append_nil]
    rfl
  cases h with
  | refuse => exact h_told rfl rfl
  | @start move k h_free h_starts =>
    -- a move that starts a call for the key is a move for the key
    have h_ne : k ≠ key := by
      rintro rfl
      refine h_key ?_
      cases move <;> simp_all [keyOf?, Move.key?, Move.Starts, Except.toOption]
    exact h_told rfl (by simp [Signal.key?, h_ne])
  | @peek k =>
    have h_ne : k ≠ key := fun h_eq => h_key (h_eq ▸ rfl)
    exact h_told rfl (by simp [Signal.key?, h_ne])
  | hit | measure => exact h_told rfl rfl
  | @miss k outer h_at | @make k outer h_at =>
    have h_ne : k ≠ key := by
      rintro rfl
      simp [keyOf?, Move.key?, h_at, Stage.key?] at h_key
    exact h_told rfl (by simp [Signal.key?, h_ne])
  | @fail k outer cause h_at =>
    have h_ne : (Event.creationFailed k cause).key? ≠ some key := by
      intro h_eq
      simp [keyOf?, Move.key?, h_at, Stage.key?, Option.some.inj h_eq] at h_key
    exact h_told rfl (filter_key?_told h_ne ..)
  | @settle b outer h_at =>
    -- the only key whose breaker may change is that of the instance
    have h_ne : key ≠ b.key := by
      rintro rfl
      simp [keyOf?, Move.key?, h_at, Stage.key?] at h_key
    have h_lost : (Event.lostRace b.key).key? ≠ some key :=
      fun h_eq => h_ne (Option.some.inj h_eq).symm
    have h_created : (Event.created b.key).key? ≠ some key := h_lost
    refine h_told (Registry.get?_settle_of_ne h_ne) ?_
    rw [Registry.settle]
    split
    · exact filter_key?_told h_lost ..
    · exact filter_key?_told h_created ..
  -- the size counts all keys, but it tells of none
  | publish => exact h_told rfl (filter_key?_gauged ..)
  | @finish outcome outer h_at =>
    have h_ne : outcome.key? ≠ some key := by
      intro h_eq
      simp [keyOf?, Move.key?, h_at, Stage.key?, h_eq] at h_key
    exact h_told rfl (by simp [Signal.key?, h_ne])

end Transition

/-! ### What holds of every thread and every key -/

/-- A thread starts a call from the factory only, and a key has a breaker that was made for it. -/
structure Orderly (s : System K) : Prop where
  nested : ∀ t, ∀ stage ∈ (s.threads t).tail, ∃ key, stage = .creating key
  bound : ∀ key b, s.registry.get? key = some b → b.key = key

/-- The winner of a race for a key was made for it. -/
theorem Orderly.key_winner_settle (h : s.Orderly) (b : Breaker K) :
    (s.registry.settle b).winner.key = b.key := by
  rw [Registry.winner_settle]
  cases h_get : s.registry.get? b.key with
  | none => rfl
  | some winner => exact h.bound _ _ h_get

/-- A registry without bindings that no thread is calling. -/
theorem Orderly.idle {r : Registry K} (h_new : r.bindings = []) : (idle r).Orderly where
  nested _ _ h_mem := by cases h_mem
  bound key b h_get := by
    rw [System.idle, Registry.get?, h_new] at h_get
    cases h_get

/-- A move changes the top of a stack at most, or starts a call from the factory. -/
theorem Orderly.nested_put (h : s.Orderly) {r : Registry K} {stages : List (Stage K)}
    {signals : List (Signal K)} (h_stages : ∀ stage ∈ stages.tail, ∃ key, stage = .creating key)
    (u : Nat) :
    ∀ stage ∈ ((s.put t r stages signals).threads u).tail, ∃ key, stage = .creating key := by
  by_cases h_u : u = t
  · subst h_u
    rw [threads_put_self]
    exact h_stages
  · rw [threads_put_of_ne _ _ _ _ _ h_u]
    exact h.nested u

/-- The calls of a thread that can start a call are all in the factory. -/
theorem Orderly.creating_of_canStart (h : s.Orderly) (h_free : canStart (s.threads t) = true) :
    ∀ stage ∈ s.threads t, ∃ key, stage = .creating key := by
  have h_tail := h.nested t
  intro stage h_mem
  match h_stack : s.threads t with
  | [] =>
    rw [h_stack] at h_mem
    cases h_mem
  | .creating key :: outer =>
    rw [h_stack] at h_mem h_tail
    rcases List.mem_cons.1 h_mem with rfl | h_mem
    · exact ⟨key, rfl⟩
    · exact h_tail stage h_mem
  | .looking _ :: _ | .settling _ :: _ | .measuring _ :: _ | .publishing .. :: _
  | .returning _ :: _ =>
    rw [h_stack] at h_free
    cases h_free

theorem Orderly.transition (h : s.Orderly) (h_move : Transition s t move s₁) : s₁.Orderly := by
  have h_tail : ∀ {stage : Stage K} {outer : List (Stage K)}, s.threads t = stage :: outer →
      ∀ stage' ∈ outer, ∃ key, stage' = .creating key := by
    intro stage outer h_at
    have h_nested := h.nested t
    rwa [h_at] at h_nested
  cases h_move with
  | refuse | peek => exact ⟨h.nested_put (h.nested t), h.bound⟩
  -- what was the top of the stack is now below it
  | start h_free => exact ⟨h.nested_put (h.creating_of_canStart h_free), h.bound⟩
  | hit h_at | miss h_at | make h_at | fail h_at | measure h_at | publish h_at =>
    refine ⟨h.nested_put ?_, h.bound⟩
    exact h_tail h_at
  | finish h_at =>
    refine ⟨h.nested_put ?_, h.bound⟩
    exact fun stage h_mem => h_tail h_at stage (List.mem_of_mem_tail h_mem)
  | @settle b outer h_at =>
    refine ⟨h.nested_put ?_, fun key b' h_get => ?_⟩
    · exact h_tail h_at
    · rcases Registry.get?_settle_eq_some_iff.1 h_get with h_get | ⟨h_key, -, rfl⟩
      · exact h.bound key b' h_get
      · exact h_key

/-! ### Following -/

omit [DecidableEq K] in
theorem keyOf?_of_starts {key : K} (h : move.Starts s.registry key) :
    s.keyOf? t move = some key := by
  cases move with
  | call call =>
    have h_key : s.registry.selector call = .ok key := h
    rw [keyOf?, Move.key?, h_key]
    rfl
  | callKey k => exact congrArg some h
  | _ => exact h.elim

omit [DecidableEq K] in
/-- A thread that follows one in a stage that counts is in that stage too. -/
theorem ThreadView.Follows.exists_cons {f : Nat → Nat} {keep : Option K → Bool}
    (h : (s.inThread keep t).Follows f (s'.allOf t)) {stage : Stage K} {outer : List (Stage K)}
    (h_at : s.threads t = stage :: outer) (h_keep : keep stage.key? = true) :
    ∃ stage' outer', s'.threads t = stage' :: outer' ∧ stage.Alike f stage' ∧
      List.Forall₂ (Stage.Alike f) (outer.filter (keep ·.key?)) outer' := by
  have h_stages : List.Forall₂ (Stage.Alike f) ((s.threads t).filter (keep ·.key?))
    (s'.threads t) := h.stages
  rw [h_at, filter_cons_of_counts h_keep, List.forall₂_cons_left_iff] at h_stages
  obtain ⟨stage', outer', h_alike, h_outer, h_at'⟩ := h_stages
  exact ⟨stage', outer', h_at', h_alike, h_outer⟩

/-- A thread that follows one that can start a call can start one too. -/
theorem ThreadView.Follows.canStart_eq_true {f : Nat → Nat} {keep : Option K → Bool}
    (h : (s.inThread keep t).Follows f (s'.allOf t)) (h_orderly : s.Orderly)
    (h_free : canStart (s.threads t) = true) : canStart (s'.threads t) = true := by
  have h_stages : List.Forall₂ (Stage.Alike f) ((s.threads t).filter (keep ·.key?))
    (s'.threads t) := h.stages
  cases h_stack : s'.threads t with
  | nil => rfl
  | cons stage' outer' =>
    rw [h_stack, List.forall₂_cons_right_iff] at h_stages
    obtain ⟨stage, outer, h_alike, -, h_at⟩ := h_stages
    -- the stage is one of a thread whose calls are all in the factory
    have h_mem : stage ∈ (s.threads t).filter (keep ·.key?) := h_at ▸ List.mem_cons_self
    obtain ⟨key, rfl⟩ := h_orderly.creating_of_canStart h_free stage (List.mem_of_mem_filter h_mem)
    cases h_alike
    rfl

namespace Transition

/-- A move for a key that does not count leaves its thread alone as far as others count. -/
theorem inThread_of_dropped (h : Transition s t move s₁) (h_orderly : s.Orderly)
    {keep : Option K → Bool} (h_keep : keep (s.keyOf? t move) = false) :
    s₁.inThread keep t = s.inThread keep t := by
  have h_same : ∀ {r : Registry K} {stages : List (Stage K)} {signals : List (Signal K)},
      stages.filter (keep ·.key?) = (s.threads t).filter (keep ·.key?) →
      (signals.filterMap Signal.outcome?).filter (keep ·.key?) = [] →
      (s.put t r stages signals).inThread keep t = s.inThread keep t := by
    intro r stages signals h_stages h_outcomes
    rw [inThread_put_self, h_stages, h_outcomes, List.append_nil]
    rfl
  -- neither the old top of the stack nor one for the same key counts
  have h_top : ∀ {stage : Stage K} {outer : List (Stage K)}, s.threads t = stage :: outer →
      s.keyOf? t move = stage.key? → ∀ {next : Stage K}, next.key? = stage.key? →
      (next :: outer).filter (keep ·.key?) = (s.threads t).filter (keep ·.key?) := by
    intro stage outer h_at h_key next h_next
    rw [h_key] at h_keep
    have h_new : keep next.key? = false := h_next ▸ h_keep
    rw [h_at, filter_cons_of_not_counts h_new, filter_cons_of_not_counts h_keep]
  have h_keyOf : ∀ {stage : Stage K} {outer : List (Stage K)}, s.threads t = stage :: outer →
      (s.threads t).head?.bind Stage.key? = stage.key? := by
    intro stage outer h_at
    rw [h_at, List.head?_cons, Option.bind_some]
  cases h with
  | @refuse call cause h_free h_error =>
    refine h_same rfl ?_
    have h_none : s.keyOf? t (.call call) = none := by
      rw [keyOf?, Move.key?, h_error]
      rfl
    rw [h_none] at h_keep
    simp [Registry.toldUnderivable, Signal.outcome?, Outcome.key?, h_keep]
  | @start move key h_free h_starts =>
    rw [keyOf?_of_starts h_starts] at h_keep
    exact h_same (filter_cons_of_not_counts h_keep _) rfl
  | peek => exact h_same rfl rfl
  | hit h_at h_get =>
    -- the breaker that is found was made for the key that was looked up
    exact h_same (h_top h_at (h_keyOf h_at) (congrArg some (h_orderly.bound _ _ h_get))) rfl
  | miss h_at | make h_at | measure h_at => exact h_same (h_top h_at (h_keyOf h_at) rfl) rfl
  | fail h_at =>
    -- the call has failed but has not ended yet
    refine h_same (h_top h_at (h_keyOf h_at) rfl) ?_
    rw [List.filterMap_cons_none rfl, filterMap_outcome?_occurred, List.filter_nil]
  | @settle b outer h_at =>
    refine h_same (h_top h_at (h_keyOf h_at) ?_) ?_
    · split <;> exact congrArg some (h_orderly.key_winner_settle b)
    · rw [List.filterMap_cons_none rfl, filterMap_outcome?_occurred, List.filter_nil]
  | publish h_at =>
    refine h_same (h_top h_at (h_keyOf h_at) rfl) ?_
    rw [filterMap_outcome?_occurred, List.filter_nil]
  | @finish outcome outer h_at =>
    -- the stage and the outcome that take its place are both for the key
    have h_key : s.keyOf? t .finish = outcome.key? := h_keyOf h_at
    rw [h_key] at h_keep
    refine h_same ?_ ?_
    · have h_top : keep (Stage.returning outcome).key? = false := h_keep
      rw [h_at, filter_cons_of_not_counts h_top]
    · exact List.filter_cons_of_neg (by simp [h_keep])

end Transition

/-- **Agreement on a move.** The move is for a key that counts, and the systems agree, up to the numbers
of the instances, on the calls of its thread that count and on its key. -/
structure Agree (f : Nat → Nat) (keep : Option K → Bool) (t : Nat) (move : Move K)
    (s s' : System K) : Prop where
  counts : keep (s.keyOf? t move) = true
  settings : s'.registry.settings = s.registry.settings
  made : move = .make → s'.registry.made = f s.registry.made
  thread : (s.inThread keep t).Follows f (s'.allOf t)
  key : ∀ key ∈ s.keyOf? t move, s'.atKey key = (s.atKey key).renumber f

/-- The move that leads from `s` to `s₁` leads from `s'` to `s₁'`, where these agree again. -/
structure Followed (f : Nat → Nat) (keep : Option K → Bool) (t : Nat) (move : Move K)
    (s s₁ s' s₁' : System K) : Prop where
  transition : Transition s' t move s₁'
  keyOf?_eq : s'.keyOf? t move = s.keyOf? t move
  thread : (s₁.inThread keep t).Follows f (s₁'.allOf t)
  key : ∀ key ∈ s.keyOf? t move, s₁'.atKey key = (s₁.atKey key).renumber f

namespace Agree

variable {f : Nat → Nat} {keep : Option K → Bool}

theorem metered_eq (h : Agree f keep t move s s') : s'.registry.metered = s.registry.metered :=
  congrArg (·.2.1) h.settings

theorem selector_eq (h : Agree f keep t move s s') : s'.registry.selector = s.registry.selector :=
  congrArg (·.2.2) h.settings

theorem counted_eq (h : Agree f keep t move s s') (metric : Metric) :
    s'.registry.counted metric = s.registry.counted metric :=
  Registry.counted_congr (congrArg (·.1) h.settings) h.metered_eq metric

theorem get?_eq (h : Agree f keep t move s s') {key : K} (h_key : s.keyOf? t move = some key) :
    s'.registry.get? key = (s.registry.get? key).map (Breaker.renumber f) :=
  congrArg KeyView.binding (h.key key h_key)

/-- The innermost call, if the move is a step of it. -/
theorem innermost (h : Agree f keep t move s s') {stage : Stage K} {outer : List (Stage K)}
    (h_at : s.threads t = stage :: outer)
    (h_step : ∀ selector innermost, move.key? selector innermost = innermost) :
    s.keyOf? t move = stage.key? ∧ keep stage.key? = true ∧ s'.keyOf? t move = s.keyOf? t move ∧
      ∃ stage' outer', s'.threads t = stage' :: outer' ∧ stage.Alike f stage' ∧
        List.Forall₂ (Stage.Alike f) (outer.filter (keep ·.key?)) outer' := by
  have h_keyOf : s.keyOf? t move = stage.key? := by
    rw [keyOf?, h_step, h_at, List.head?_cons, Option.bind_some]
  have h_keep : keep stage.key? = true := h_keyOf ▸ h.counts
  obtain ⟨stage', outer', h_at', h_alike, h_outer⟩ := h.thread.exists_cons h_at h_keep
  have h_keyOf' : s'.keyOf? t move = stage.key? := by
    rw [keyOf?, h_step, h_at', List.head?_cons, Option.bind_some, h_alike.key?_eq]
  exact ⟨h_keyOf, h_keep, h_keyOf'.trans h_keyOf.symm, stage', outer', h_at', h_alike, h_outer⟩

/-- What is told of the key, if its breaker is the one it was. -/
theorem atKey_put (h : Agree f keep t move s s') {r r' : Registry K} {stages stages' : List (Stage K)}
    {signals signals' : List (Signal K)} (h_bindings : r.bindings = s.registry.bindings)
    (h_bindings' : r'.bindings = s'.registry.bindings) (h_told : Retold f signals signals') (key : K)
    (h_key : key ∈ s.keyOf? t move) : (s'.put t r' stages' signals').atKey key
      = ((s.put t r stages signals).atKey key).renumber f := by
  refine atKey_put_eq_renumber (h.key key h_key) ?_ h_told
  rw [Registry.get?, h_bindings', Registry.get?, h_bindings]
  exact h.get?_eq h_key

/-- A call for the same key is started in both. -/
theorem start (h : Agree f keep t move s s') (h_orderly : s.Orderly) {key : K}
    (h_free : canStart (s.threads t) = true) (h_starts : move.Starts s.registry key) :
    ∃ s₁', Followed f keep t move s
      (s.put t s.registry (.looking key :: s.threads t) [.began key]) s' s₁' := by
  have h_starts' : move.Starts s'.registry key := by
    cases move with
    | call call =>
      show s'.registry.selector call = .ok key
      rw [h.selector_eq]
      exact h_starts
    | _ => exact h_starts
  have h_free' := h.thread.canStart_eq_true h_orderly h_free
  have h_keyOf : s.keyOf? t move = some key := keyOf?_of_starts h_starts
  have h_same : s'.keyOf? t move = s.keyOf? t move :=
    (keyOf?_of_starts h_starts').trans h_keyOf.symm
  have h_keep : keep (some key) = true := h_keyOf ▸ h.counts
  refine ⟨_, .start h_free' h_starts', h_same, ?_, ?_⟩
  · refine h.thread.put ?_ (.map f [.began key]) (by simp [Signal.outcome?])
    rw [filter_cons_of_counts h_keep]
    exact .cons (.looking key) h.thread.stages
  · exact h.atKey_put rfl rfl (.map f [.began key])

/-- The instances that are made in both have numbers that correspond. -/
theorem make (h : Agree f keep t .make s s') {key : K} {outer : List (Stage K)}
    (h_at : s.threads t = .creating key :: outer) :
    ∃ s₁', Followed f keep t .make s (s.put t (s.registry.make key).2
      (.settling (s.registry.make key).1 :: outer) [.left (.ok (s.registry.make key).1)]) s' s₁' := by
  obtain ⟨-, h_keep, h_same, _, outer', h_at', ⟨⟩, h_outer⟩ := h.innermost h_at fun _ _ => rfl
  have h_instance : (s'.registry.make key).1 = (s.registry.make key).1.renumber f := by
    rw [Registry.make, h.made rfl]
    rfl
  have h_told : Retold f [.left (.ok (s.registry.make key).1)]
      [.left (.ok (s'.registry.make key).1)] := by
    rw [h_instance]
    exact .map f _
  refine ⟨_, .make h_at', h_same, ?_, ?_⟩
  · refine h.thread.advance h_outer ?_ h_keep h_told rfl
    rw [h_instance]
    exact .settling _
  · exact h.atKey_put rfl rfl h_told

theorem fail {cause : String} (h : Agree f keep t (.fail cause) s s') {key : K}
    {outer : List (Stage K)}
    (h_at : s.threads t = .creating key :: outer) :
    ∃ s₁', Followed f keep t (.fail cause) s (s.put t s.registry
      (.returning (.error (.creation key cause)) :: outer)
      (.left (.error cause) :: (s.registry.toldFailure key cause).map .occurred)) s' s₁' := by
  obtain ⟨-, h_keep, h_same, _, outer', h_at', ⟨⟩, h_outer⟩ := h.innermost h_at fun _ _ => rfl
  have h_told : Retold f
      (.left (.error cause) :: (s.registry.toldFailure key cause).map .occurred)
      (.left (.error cause) :: (s'.registry.toldFailure key cause).map .occurred) := by
    rw [Registry.toldFailure, Registry.toldFailure, h.counted_eq]
    exact .told f (.left (.error cause)) (.creationFailed key cause) s.registry .failures
  refine ⟨_, .fail h_at', h_same, ?_, ?_⟩
  · refine h.thread.advance h_outer (.returning (.error (.creation key cause))) h_keep h_told ?_
    rw [List.filterMap_cons_none rfl, filterMap_outcome?_occurred]
  · exact h.atKey_put rfl rfl h_told

/-- The races for the key have winners that correspond. -/
theorem settle (h : Agree f keep t .settle s s') (h_orderly : s.Orderly) {b : Breaker K}
    {outer : List (Stage K)} (h_at : s.threads t = .settling b :: outer) :
    ∃ s₁', Followed f keep t .settle s (s.put t (s.registry.settle b).registry
      ((if s.registry.metered then .measuring (s.registry.settle b).winner
        else .returning (.ok (s.registry.settle b).winner)) :: outer)
      (.settled (s.registry.get? b.key) :: (s.registry.settle b).trace.map .occurred)) s' s₁' := by
  obtain ⟨h_keyOf, h_keep, h_same, _, outer', h_at', ⟨⟩, h_outer⟩ := h.innermost h_at fun _ _ => rfl
  have h_found := h.get?_eq h_keyOf
  have h_winner := Registry.winner_settle_renumber h_found
  have h_told := Retold.settle h.counted_eq h_found
  have h_silent : (Signal.settled (s.registry.get? b.key)
      :: (s.registry.settle b).trace.map .occurred).filterMap Signal.outcome? = [] :=
    filterMap_outcome?_occurred _
  have h_next : keep (some (s.registry.settle b).winner.key) = true := by
    rw [h_orderly.key_winner_settle]
    exact h_keep
  refine ⟨_, .settle h_at', h_same, ?_, ?_⟩
  · rw [h.metered_eq, h_winner]
    -- both measure next, or neither does
    cases s.registry.metered with
    | true => exact h.thread.advance h_outer (.measuring _) h_next h_told h_silent
    | false => exact h.thread.advance h_outer (.returning (.ok _)) h_next h_told h_silent
  · intro key h_key
    cases h_keyOf.symm.trans h_key
    refine atKey_put_eq_renumber (h.key b.key h_keyOf) ?_ h_told
    have h_self := (s'.registry).get?_settle_self (b.renumber f)
    rw [h_winner] at h_self
    rw [Registry.get?_settle_self, Option.map_some]
    exact h_self

end Agree

/-- **A move can be followed.** In a system that agrees on a move the move can be made, and the systems
agree on its thread and its key afterwards. -/
theorem Transition.follow {f : Nat → Nat} {keep : Option K → Bool} (h : Transition s t move s₁)
    (h_orderly : s.Orderly) (h_agree : Agree f keep t move s s') :
    ∃ s₁', Followed f keep t move s s₁ s' s₁' := by
  have h_thread := h_agree.thread
  cases h with
  | @refuse call cause h_free h_error =>
    -- the call is for no key, so there is nothing to say of any key
    have h_none : s.keyOf? t (.call call) = none := by
      rw [keyOf?, Move.key?, h_error]
      rfl
    have h_keep := h_agree.counts
    rw [h_none] at h_keep
    have h_free' := h_thread.canStart_eq_true h_orderly h_free
    refine ⟨_, .refuse h_free' (h_agree.selector_eq ▸ h_error), ?_, ?_, ?_⟩
    · rw [keyOf?, Move.key?, keyOf?, Move.key?, h_agree.selector_eq]
    · refine h_thread.put h_thread.stages (.map f _) ?_
      simpa [Registry.toldUnderivable, Signal.outcome?, Outcome.key?] using h_keep
    · simp [h_none]
  | start h_free h_starts => exact h_agree.start h_orderly h_free h_starts
  | @peek key h_free =>
    have h_free' := h_thread.canStart_eq_true h_orderly h_free
    have h_told : Retold f [.peeked key (s.registry.get? key)]
        [.peeked key (s'.registry.get? key)] := by
      rw [h_agree.get?_eq rfl]
      exact .map f [.peeked key (s.registry.get? key)]
    refine ⟨_, .peek h_free', rfl, ?_, ?_⟩
    · exact h_thread.put h_thread.stages h_told (by simp [Signal.outcome?])
    · exact h_agree.atKey_put rfl rfl h_told
  | @hit key outer b h_at h_found =>
    obtain ⟨h_keyOf, h_keep, h_same, _, outer', h_at', ⟨⟩, h_outer⟩ :=
      h_agree.innermost h_at fun _ _ => rfl
    have h_found' : s'.registry.get? key = some (b.renumber f) := by
      rw [h_agree.get?_eq h_keyOf, h_found, Option.map_some]
    have h_bound : keep (some b.key) = true := (h_orderly.bound key b h_found).symm ▸ h_keep
    refine ⟨_, .hit h_at' h_found', h_same, ?_, ?_⟩
    · exact h_thread.advance h_outer (.returning (.ok b)) h_bound (.map f [.looked (some b)]) rfl
    · exact h_agree.atKey_put rfl rfl (.map f [.looked (some b)])
  | @miss key outer h_at h_absent =>
    obtain ⟨h_keyOf, h_keep, h_same, _, outer', h_at', ⟨⟩, h_outer⟩ :=
      h_agree.innermost h_at fun _ _ => rfl
    have h_absent' : s'.registry.get? key = none := by
      rw [h_agree.get?_eq h_keyOf, h_absent, Option.map_none]
    have h_told : Retold f [.looked none, .occurred (.entered key)]
      [.looked none, .occurred (.entered key)] := .map f _
    refine ⟨_, .miss h_at' h_absent', h_same, ?_, ?_⟩
    · exact h_thread.advance h_outer (.creating key) h_keep h_told rfl
    · exact h_agree.atKey_put rfl rfl h_told
  | make h_at => exact h_agree.make h_at
  | fail h_at => exact h_agree.fail h_at
  | settle h_at => exact h_agree.settle h_orderly h_at
  | @measure winner outer h_at =>
    obtain ⟨-, h_keep, h_same, _, outer', h_at', ⟨⟩, h_outer⟩ :=
      h_agree.innermost h_at fun _ _ => rfl
    -- the sizes differ, and stages that are alike need not agree on them
    refine ⟨_, .measure h_at', h_same, ?_, ?_⟩
    · exact h_thread.advance h_outer (.publishing winner _ _) h_keep (.map f []) rfl
    · exact h_agree.atKey_put rfl rfl (.map f [])
  | @publish winner size outer h_at =>
    obtain ⟨-, h_keep, h_same, _, outer', h_at', ⟨⟩, h_outer⟩ :=
      h_agree.innermost h_at fun _ _ => rfl
    refine ⟨_, .publish h_at', h_same, ?_, ?_⟩
    · exact h_thread.advance h_outer (.returning (.ok winner)) h_keep (.gauged f ..)
        (filterMap_outcome?_occurred _)
    · exact h_agree.atKey_put rfl rfl (.gauged f ..)
  | @finish outcome outer h_at =>
    obtain ⟨-, h_keep, h_same, _, outer', h_at', ⟨⟩, h_outer⟩ :=
      h_agree.innermost h_at fun _ _ => rfl
    refine ⟨_, .finish h_at', h_same, ?_, ?_⟩
    · refine h_thread.put h_outer (.map f [.ended outcome]) ?_
      intro o h_mem
      rw [show o = outcome from List.mem_singleton.1 h_mem]
      exact h_keep
    · exact h_agree.atKey_put rfl rfl (.map f [.ended outcome])

end System

end KeyedBreakers
