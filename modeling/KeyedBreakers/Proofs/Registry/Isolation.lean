import KeyedBreakers.Proofs.Registry.Locality
import Mathlib.Logic.Equiv.Basic

/-!
# Keys do not influence each other

Take any schedule of calls on one registry and any key, and delete from the schedule every step of a
call for another key or for none. What is left can still be run, and the calls for the key fare as
before: the same factory calls with the same ends, the same events, the same outcomes, and the same
breaker in the end, up to the numbers of the instances. So whatever happens to other keys, hits,
creations, lost races or failures, cannot be seen from the calls for this one. A factory may call the
registry back; of calls inside each other those for other keys are deleted too.

The full run and what is left of it are compared move by move (`System.Mirrors`): a step that is kept
can be followed, and one that is deleted changes nothing that the other run shows. The same comparison,
with all keys kept, shows that neighbouring steps of different threads for different keys may change
places.

* `Schedule.only`, `Schedule.stepsFor` — a schedule without the steps of some calls;
* `Mirrors.exists_run?` — what is left of a schedule can be run, and mirrors the whole;
* `exists_swap` — neighbouring steps for different keys may change places;
* `keys_isolated` — both together.
-/

namespace KeyedBreakers

variable {K : Type}

/-! ### Schedules without the steps of some calls -/

/-- The keys of the calls that a thread is in after a move, the innermost first. -/
def Move.keysAfter (selector : Selector K) (keys : List K) : Move K → List K
  | .call c => (selector c).toOption.toList ++ keys
  | .callKey key => key :: keys
  | .finish => keys.tail
  | _ => keys

namespace System

/-- The keys of the calls that each thread is in after a schedule. -/
def Schedule.keysAfter (selector : Selector K) (keys : Nat → List K) (schedule : Schedule K) :
    Nat → List K :=
  schedule.foldl (fun keys step =>
    Function.update keys step.1 (step.2.keysAfter selector (keys step.1))) keys

/-- What is left of a schedule when only the steps of calls for some keys are kept, where `keys` are
the keys of the calls that each thread is in at first. -/
def Schedule.only (selector : Selector K) (keep : Option K → Bool) (keys : Nat → List K) :
    Schedule K → Schedule K
  | [] => []
  | (t, move) :: rest =>
    let later := only selector keep
      (Function.update keys t (move.keysAfter selector (keys t))) rest
    if keep (move.key? selector (keys t).head?) then (t, move) :: later else later

/-- The steps of the calls for a key, of those that a schedule starts. -/
def Schedule.stepsFor [DecidableEq K] (selector : Selector K) (key : K) (schedule : Schedule K) :
    Schedule K :=
  schedule.only selector (· = some key) fun _ => []

theorem Schedule.only_true (selector : Selector K) (keys : Nat → List K) (schedule : Schedule K) :
    schedule.only selector (fun _ => true) keys = schedule := by
  induction schedule generalizing keys with
  | nil => rfl
  | cons head rest ih => rw [only, ih, if_pos rfl]

/-! ### The keys of the calls in progress -/

/-- The threads are in calls for the given keys. -/
def Keyed (keys : Nat → List K) (s : System K) : Prop :=
  ∀ t, (s.threads t).map Stage.key? = (keys t).map some

/-- The key that a move is for can be read off the schedule. -/
theorem Keyed.keyOf?_eq {keys : Nat → List K} {s : System K} (h : Keyed keys s) (t : Nat)
    (move : Move K) : s.keyOf? t move = move.key? s.registry.selector (keys t).head? := by
  have h_t := h t
  have h_head : (s.threads t).head?.bind Stage.key? = (keys t).head? := by
    cases h_stages : s.threads t with
    | nil =>
      rw [h_stages, List.map_nil, eq_comm, List.map_eq_nil_iff] at h_t
      rw [h_t]
      rfl
    | cons stage outer =>
      rw [h_stages, List.map_cons, eq_comm, List.map_eq_cons_iff] at h_t
      obtain ⟨key, rest, h_keys, h_key, -⟩ := h_t
      rw [h_keys]
      exact h_key.symm
  rw [keyOf?, h_head]

variable [DecidableEq K] {s s₁ s' : System K} {t : Nat} {move : Move K} {keys : Nat → List K}

/-- A move changes the calls that its thread is in as the schedule says. -/
theorem Keyed.transition (h : Keyed keys s) (h_orderly : s.Orderly)
    (h_move : Transition s t move s₁) :
    Keyed (Function.update keys t (move.keysAfter s.registry.selector (keys t))) s₁ := by
  have h_put : ∀ {r : Registry K} {stages : List (Stage K)} {signals : List (Signal K)},
      stages.map Stage.key? = (move.keysAfter s.registry.selector (keys t)).map some →
      Keyed (Function.update keys t (move.keysAfter s.registry.selector (keys t)))
        (s.put t r stages signals) := by
    intro r stages signals h_stages u
    by_cases h_u : u = t
    · rw [h_u, threads_put_self, Function.update_self]
      exact h_stages
    · rw [threads_put_of_ne _ _ _ _ _ h_u, Function.update_of_ne h_u]
      exact h u
  -- a move that takes the innermost call to a stage for the same key
  have h_inside : ∀ {stage : Stage K} {outer : List (Stage K)}, s.threads t = stage :: outer →
      move.keysAfter s.registry.selector (keys t) = keys t → ∀ {next : Stage K},
      next.key? = stage.key? →
      (next :: outer).map Stage.key? = (move.keysAfter s.registry.selector (keys t)).map some := by
    intro stage outer h_at h_keys next h_next
    rw [h_keys, ← h t, h_at, List.map_cons, List.map_cons, h_next]
  cases h_move with
  | @refuse call cause h_free h_error =>
    refine h_put ?_
    rw [Move.keysAfter, h_error]
    exact h t
  | @start move key h_free h_starts =>
    refine h_put ?_
    have h_keys : move.keysAfter s.registry.selector (keys t) = key :: keys t := by
      cases move with
      | call call =>
        have h_key : s.registry.selector call = .ok key := h_starts
        rw [Move.keysAfter, h_key]
        rfl
      | callKey k => exact congrArg (· :: keys t) h_starts
      | _ => exact h_starts.elim
    rw [h_keys, List.map_cons, List.map_cons, h t]
    rfl
  | peek => exact h_put (h t)
  | hit h_at h_get =>
    exact h_put (h_inside h_at rfl (congrArg some (h_orderly.bound _ _ h_get)))
  | miss h_at | make h_at | fail h_at | measure h_at | publish h_at =>
    exact h_put (h_inside h_at rfl rfl)
  | settle h_at =>
    refine h_put (h_inside h_at rfl ?_)
    split <;> exact congrArg some (h_orderly.key_winner_settle _)
  | finish h_at =>
    refine h_put ?_
    rw [Move.keysAfter, List.map_tail, ← h t, h_at]
    rfl

omit [DecidableEq K] in
theorem Keyed.idle (r : Registry K) : Keyed (fun _ => []) (idle r) := fun _ => rfl

/-! ### Mirroring -/

/-- The system `s'` shows, up to the numbers of the instances, what there is to say in `s` of the calls
and the keys that count. -/
structure Mirrors (f : Nat → Nat) (keep : Option K → Bool) (s s' : System K) : Prop where
  orderly : s.Orderly
  settings : s'.registry.settings = s.registry.settings
  threads : ∀ t, (s.inThread keep t).Follows f (s'.allOf t)
  keys : ∀ key, keep (some key) = true → s'.atKey key = (s.atKey key).renumber f

theorem Transition.allOf_of_ne (h : Transition s t move s₁) {u : Nat} (h_u : u ≠ t) :
    s₁.allOf u = s.allOf u := by
  rw [← inThread_true, ← inThread_true, h.inThread_of_ne h_u]

theorem Mirrors.idle {r : Registry K} (h_new : r.bindings = []) (f : Nat → Nat)
    (keep : Option K → Bool) : Mirrors f keep (idle r) (idle r) where
  orderly := .idle h_new
  settings := rfl
  threads _ := ⟨.nil, rfl⟩
  keys key _ := by
    have h_get : r.get? key = none := by
      rw [Registry.get?, h_new]
      rfl
    rw [atKey, KeyView.renumber, System.idle, h_get]
    rfl

section Step

variable {f : Nat → Nat} {keep : Option K → Bool}

/-- A move for a key that does not count changes nothing that counts. -/
theorem Mirrors.drop (h : Mirrors f keep s s') (h_move : Transition s t move s₁)
    (h_keep : keep (s.keyOf? t move) = false) : Mirrors f keep s₁ s' where
  orderly := h.orderly.transition h_move
  settings := h.settings.trans h_move.settings_eq.symm
  threads u := by
    by_cases h_u : u = t
    · rw [h_u, h_move.inThread_of_dropped h.orderly h_keep]
      exact h.threads t
    · rw [h_move.inThread_of_ne h_u]
      exact h.threads u
  keys key h_key := by
    have h_ne : s.keyOf? t move ≠ some key := by
      intro h_eq
      rw [h_eq, h_key] at h_keep
      cases h_keep
    rw [h_move.atKey_of_ne h_ne]
    exact h.keys key h_key

/-- A move for a key that counts can be followed. -/
theorem Mirrors.step (h : Mirrors f keep s s') (h_move : Transition s t move s₁)
    (h_keep : keep (s.keyOf? t move) = true)
    (h_made : move = .make → s'.registry.made = f s.registry.made) :
    ∃ s₁', Transition s' t move s₁' ∧ Mirrors f keep s₁ s₁' := by
  have h_agree : Agree f keep t move s s' :=
    ⟨h_keep, h.settings, h_made, h.threads t, fun key h_mem => h.keys key (h_mem ▸ h_keep)⟩
  obtain ⟨s₁', h_move', h_keyOf, h_thread, h_key⟩ := h_move.follow h.orderly h_agree
  refine ⟨s₁', h_move', h.orderly.transition h_move, ?_, ?_, ?_⟩
  · rw [h_move'.settings_eq, h_move.settings_eq]
    exact h.settings
  -- what the move is not for has stayed as it was in both systems
  · intro u
    by_cases h_u : u = t
    · exact h_u ▸ h_thread
    · rw [h_move.inThread_of_ne h_u, h_move'.allOf_of_ne h_u]
      exact h.threads u
  · intro key h_counts
    by_cases h_same : s.keyOf? t move = some key
    · exact h_key key h_same
    · rw [h_move.atKey_of_ne h_same, h_move'.atKey_of_ne (h_keyOf ▸ h_same)]
      exact h.keys key h_counts

/-- A move makes one instance, for the key that it is for, or none. -/
theorem Transition.makes_eq (h : Transition s t move s₁) :
    (∃ key, move = .make ∧ s.keyOf? t move = some key ∧
      s₁.makes = s.makes ++ [⟨s.registry.made, key⟩] ∧
      s₁.registry.made = s.registry.made + 1) ∨
    move ≠ .make ∧ s₁.registry.made = s.registry.made := by
  cases h with
  | @make key outer h_at =>
    refine .inl ⟨key, rfl, ?_, makes_put .., rfl⟩
    show (s.threads t).head?.bind Stage.key? = some key
    rw [h_at]
    rfl
  | settle => exact .inr ⟨nofun, Registry.made_settle ..⟩
  | start h_free h_starts =>
    refine .inr ⟨?_, rfl⟩
    rintro rfl
    exact h_starts
  | _ => exact .inr ⟨nofun, rfl⟩

theorem makes_subset_of_run? {schedule : Schedule K} (h_run : s.run? schedule = some s₁)
    {b : Breaker K} (h_b : b ∈ s.makes) : b ∈ s₁.makes := by
  refine run?_invariant (P := fun s => b ∈ s.makes) ?_ h_run h_b
  intro s t move s' h_b h_move
  obtain ⟨new, h_trace⟩ := h_move.exists_trace_eq
  rw [makes, h_trace, List.filterMap_append]
  exact List.mem_append_left _ h_b

/-- Where the instances are counted as before, a move that is followed counts one more in both. -/
theorem Transition.made_of_followed {s₁' : System K} {g : Nat → Nat} (h : Transition s t move s₁)
    (h' : Transition s' t move s₁') (h_made : s'.registry.made = g s.registry.made)
    (h_next : move = .make → g (s.registry.made + 1) = g s.registry.made + 1) :
    s₁'.registry.made = g s₁.registry.made := by
  obtain ⟨_, h_make, -, -, h_eq⟩ | ⟨h_other, h_eq⟩ := h.makes_eq <;>
    obtain ⟨_, h_make', -, -, h_eq'⟩ | ⟨h_other', h_eq'⟩ := h'.makes_eq
  · rw [h_eq, h_eq', h_next h_make, h_made]
  · exact absurd h_make h_other'
  · exact absurd h_make' h_other
  · rw [h_eq, h_eq', h_made]

/-- A move that is deleted counts none. -/
theorem Transition.made_of_deleted {g : Nat → Nat} (h : Transition s t move s₁)
    (h_made : s'.registry.made = g s.registry.made)
    (h_next : move = .make → g (s.registry.made + 1) = g s.registry.made) :
    s'.registry.made = g s₁.registry.made := by
  obtain ⟨_, h_make, -, -, h_eq⟩ | ⟨-, h_eq⟩ := h.makes_eq
  · rw [h_eq, h_next h_make, h_made]
  · rw [h_eq, h_made]

/-- **What is left of a schedule can be run**, and mirrors the whole. The instances that count have the
numbers `g` when they are made, and `f` is `g` on them. -/
theorem Mirrors.exists_run? {g : Nat → Nat} (h : Mirrors f keep s s') (h_keyed : Keyed keys s)
    {schedule : Schedule K} {fin : System K} (h_run : s.run? schedule = some fin)
    (h_made : s'.registry.made = g s.registry.made)
    (h_f : ∀ b ∈ fin.makes, s.registry.made ≤ b.serial → f b.serial = g b.serial)
    (h_g : ∀ b ∈ fin.makes, s.registry.made ≤ b.serial →
      g (b.serial + 1) = g b.serial + if keep (some b.key) then 1 else 0) :
    ∃ fin', s'.run? (schedule.only s.registry.selector keep keys) = some fin' ∧
      Mirrors f keep fin fin' ∧ fin'.registry.made = g fin.registry.made := by
  induction schedule generalizing s s' keys with
  | nil =>
    cases h_run
    exact ⟨s', rfl, h, h_made⟩
  | cons head rest ih =>
    obtain ⟨t, move⟩ := head
    rw [run?_cons, Option.bind_eq_some_iff] at h_run
    obtain ⟨s₁, h_head, h_rest⟩ := h_run
    have h_move : Transition s t move s₁ := step?_eq_some_iff.1 h_head
    have h_selector : s₁.registry.selector = s.registry.selector :=
      congrArg (·.2.2) h_move.settings_eq
    have h_keyOf := h_keyed.keyOf?_eq t move
    -- an instance that is made now is one of all
    have h_next : move = .make → f s.registry.made = g s.registry.made ∧
        g (s.registry.made + 1) = g s.registry.made + if keep (s.keyOf? t move) then 1 else 0 := by
      intro h_make
      obtain ⟨key, -, h_key, h_makes, -⟩ | ⟨h_other, -⟩ := h_move.makes_eq
      · have h_new : (⟨s.registry.made, key⟩ : Breaker K) ∈ fin.makes := by
          refine makes_subset_of_run? h_rest ?_
          rw [h_makes]
          exact List.mem_append_right _ (List.mem_singleton_self _)
        rw [h_key]
        exact ⟨h_f _ h_new (Nat.le_refl _), h_g _ h_new (Nat.le_refl _)⟩
      · exact absurd h_make h_other
    have h_le : s.registry.made ≤ s₁.registry.made := by
      obtain ⟨_, -, -, -, h_eq⟩ | ⟨-, h_eq⟩ := h_move.makes_eq <;> omega
    -- the rest of the schedule, from wherever the head has led the two runs
    have h_later : ∀ {s₁'}, Mirrors f keep s₁ s₁' →
        s₁'.registry.made = g s₁.registry.made → ∃ fin',
        s₁'.run? (Schedule.only s.registry.selector keep
          (Function.update keys t (move.keysAfter s.registry.selector (keys t))) rest) = some fin' ∧
        Mirrors f keep fin fin' ∧ fin'.registry.made = g fin.registry.made := by
      intro s₁' h₁ h_made₁
      have h_ih := ih h₁ (h_keyed.transition h.orderly h_move) h_rest h_made₁
        (fun b h_b h_after => h_f b h_b (Nat.le_trans h_le h_after))
        (fun b h_b h_after => h_g b h_b (Nat.le_trans h_le h_after))
      rwa [h_selector] at h_ih
    cases h_keep : keep (s.keyOf? t move) with
    | true =>
      rw [h_keep] at h_next
      obtain ⟨s₁', h_move', h₁⟩ :=
        h.step h_move h_keep fun h_make => h_made.trans (h_next h_make).1.symm
      have h_made₁ := h_move.made_of_followed h_move' h_made fun h_make => (h_next h_make).2
      obtain ⟨fin', h_run', h_fin⟩ := h_later h₁ h_made₁
      refine ⟨fin', ?_, h_fin⟩
      rw [Schedule.only, ← h_keyOf, h_keep, if_pos rfl, run?_cons, step?_eq_some_iff.2 h_move']
      exact h_run'
    | false =>
      rw [h_keep] at h_next
      have h_made₁ := h_move.made_of_deleted h_made fun h_make => (h_next h_make).2
      obtain ⟨fin', h_run', h_fin⟩ := h_later (h.drop h_move h_keep) h_made₁
      refine ⟨fin', ?_, h_fin⟩
      rw [Schedule.only, ← h_keyOf, h_keep]
      exact h_run'

/-- What every schedule keeps of the threads and their calls. -/
theorem Keyed.of_run? {schedule : Schedule K} (h : Keyed keys s) (h_orderly : s.Orderly)
    (h_run : s.run? schedule = some s₁) :
    Keyed (schedule.keysAfter s.registry.selector keys) s₁ ∧ s₁.Orderly ∧
      s₁.registry.settings = s.registry.settings := by
  induction schedule generalizing s keys with
  | nil =>
    cases h_run
    exact ⟨h, h_orderly, rfl⟩
  | cons head rest ih =>
    obtain ⟨t, move⟩ := head
    rw [run?_cons, Option.bind_eq_some_iff] at h_run
    obtain ⟨s₂, h_head, h_rest⟩ := h_run
    have h_move : Transition s t move s₂ := step?_eq_some_iff.1 h_head
    have h_selector : s₂.registry.selector = s.registry.selector :=
      congrArg (·.2.2) h_move.settings_eq
    obtain ⟨h_keys, h_end, h_settings⟩ :=
      ih (h.transition h_orderly h_move) (h_orderly.transition h_move) h_rest
    rw [h_selector] at h_keys
    exact ⟨h_keys, h_end, h_settings.trans h_move.settings_eq⟩

end Step

/-! ### Changing places -/

/-- If both of two neighbouring moves make an instance, these change numbers with their places. -/
theorem exists_exchange {u : Nat} {move' : Move K} {s₂ : System K} (h : Transition s t move s₁)
    (h' : Transition s₁ u move' s₂) : ∃ f : Nat → Nat, Function.Injective f ∧
      (∀ n < s.registry.made, f n = n) ∧ (∀ n, s₂.registry.made ≤ n → f n = n) ∧
      (move = .make → f s.registry.made
        = s.registry.made + (s₂.registry.made - s₁.registry.made)) ∧
      (move' = .make → f s₁.registry.made = s.registry.made) := by
  obtain ⟨_, -, -, -, h_eq⟩ | ⟨h_other, h_eq⟩ := h.makes_eq <;>
    obtain ⟨_, -, -, -, h_eq'⟩ | ⟨h_other', h_eq'⟩ := h'.makes_eq
  · refine ⟨Equiv.swap s.registry.made s₁.registry.made, (Equiv.swap _ _).injective, ?_, ?_, ?_, ?_⟩
    · intro n h_lt
      exact Equiv.swap_apply_of_ne_of_ne (by omega) (by omega)
    · intro n h_le
      exact Equiv.swap_apply_of_ne_of_ne (by omega) (by omega)
    · intro _
      rw [Equiv.swap_apply_left]
      omega
    · exact fun _ => Equiv.swap_apply_right ..
  · refine ⟨id, Function.injective_id, fun _ _ => rfl, fun _ _ => rfl, fun _ => ?_, ?_⟩
    · rw [h_eq', Nat.sub_self, Nat.add_zero]
      rfl
    · exact fun h_make => absurd h_make h_other'
  · refine ⟨id, Function.injective_id, fun _ _ => rfl, fun _ _ => rfl, ?_, fun _ => h_eq⟩
    exact fun h_make => absurd h_make h_other
  · refine ⟨id, Function.injective_id, fun _ _ => rfl, fun _ _ => rfl, ?_, fun _ => h_eq⟩
    exact fun h_make => absurd h_make h_other

/-- How many instances a move makes does not depend on the system. -/
theorem Transition.made_sub_eq {s' s₁' : System K} (h : Transition s t move s₁) {u : Nat}
    (h' : Transition s' u move s₁') : s.registry.made ≤ s₁.registry.made ∧
      s₁'.registry.made = s'.registry.made + (s₁.registry.made - s.registry.made) := by
  obtain ⟨_, h_make, -, -, h_eq⟩ | ⟨h_other, h_eq⟩ := h.makes_eq <;>
    obtain ⟨_, h_make', -, -, h_eq'⟩ | ⟨h_other', h_eq'⟩ := h'.makes_eq
  · omega
  · exact absurd h_make h_other'
  · exact absurd h_make' h_other
  · omega

/-- **Neighbouring steps may change places**, if they are steps of different threads and not for the
same key: both orders lead to the same, up to the numbers of the instances. -/
theorem exists_swap {s₂ : System K} {u : Nat} {move' : Move K}
    (h : ∀ f : Nat → Nat, (∀ n < s.registry.made, f n = n) → Mirrors f (fun _ => true) s s)
    (h_move : Transition s t move s₁) (h_move' : Transition s₁ u move' s₂) (h_ne : t ≠ u)
    (h_keys : ∀ key, s.keyOf? t move = some key → s.keyOf? u move' ≠ some key) :
    ∃ (f : Nat → Nat) (s₁' s₂' : System K), Function.Injective f ∧
      (∀ n, s₂.registry.made ≤ n → f n = n) ∧ Transition s u move' s₁' ∧
      Transition s₁' t move s₂' ∧ Mirrors f (fun _ => true) s₂ s₂' ∧
      s₂'.registry.made = s₂.registry.made := by
  obtain ⟨f, h_injective, h_before, h_after, h_made, h_made'⟩ := exists_exchange h_move h_move'
  have h_self : Mirrors f (fun _ => true) s s := h f h_before
  have h_orderly₁ := h_self.orderly.transition h_move
  -- the first move leaves alone what the second is for, so the second can be made before it
  have h_keyOf' : s₁.keyOf? u move' = s.keyOf? u move' := by
    have h_stages : s₁.threads u = s.threads u :=
      congrArg ThreadView.stages (h_move.allOf_of_ne h_ne.symm)
    have h_selector : s₁.registry.selector = s.registry.selector :=
      congrArg (·.2.2) h_move.settings_eq
    rw [keyOf?, h_stages, h_selector, keyOf?]
  have h_agree' : Agree f (fun _ => true) u move' s₁ s := by
    refine ⟨rfl, h_move.settings_eq.symm, fun h_make => (h_made' h_make).symm, ?_, ?_⟩
    · rw [h_move.inThread_of_ne h_ne.symm]
      exact h_self.threads u
    · intro key h_mem
      have h_other : s.keyOf? t move ≠ some key := fun h_eq => h_keys key h_eq (h_keyOf' ▸ h_mem)
      rw [h_move.atKey_of_ne h_other]
      exact h_self.keys key rfl
  obtain ⟨s₁', h_first, -, h_thread', h_key'⟩ := h_move'.follow h_orderly₁ h_agree'
  -- it leaves alone what the first is for, so the first can be made after it
  have h_agree : Agree f (fun _ => true) t move s s₁' := by
    refine ⟨rfl, h_first.settings_eq, fun h_make => ?_, ?_, ?_⟩
    · rw [h_made h_make]
      exact (h_move'.made_sub_eq h_first).2
    · rw [h_first.allOf_of_ne h_ne]
      exact h_self.threads t
    · intro key h_mem
      rw [h_first.atKey_of_ne (h_keys key h_mem)]
      exact h_self.keys key rfl
  obtain ⟨s₂', h_second, h_secondKey, h_thread, h_key⟩ := h_move.follow h_self.orderly h_agree
  refine ⟨f, s₁', s₂', h_injective, h_after, h_first, h_second, ⟨?_, ?_, ?_, ?_⟩, ?_⟩
  · exact h_orderly₁.transition h_move'
  · rw [h_second.settings_eq, h_first.settings_eq, h_move'.settings_eq, h_move.settings_eq]
  · intro v
    by_cases h_t : v = t
    · rw [h_t, h_move'.inThread_of_ne h_ne]
      exact h_thread
    · rw [h_second.allOf_of_ne h_t]
      by_cases h_u : v = u
      · exact h_u ▸ h_thread'
      · rw [h_move'.inThread_of_ne h_u, h_move.inThread_of_ne h_t, h_first.allOf_of_ne h_u]
        exact h_self.threads v
  · intro key _
    by_cases h_own : s.keyOf? t move = some key
    · have h_other : s₁.keyOf? u move' ≠ some key := h_keyOf' ▸ h_keys key h_own
      rw [h_move'.atKey_of_ne h_other]
      exact h_key key h_own
    · rw [h_second.atKey_of_ne (h_secondKey ▸ h_own)]
      by_cases h_own' : s₁.keyOf? u move' = some key
      · exact h_key' key h_own'
      · rw [h_move'.atKey_of_ne h_own', h_move.atKey_of_ne h_own,
          h_first.atKey_of_ne (h_keyOf' ▸ h_own')]
        exact h_self.keys key rfl
  · have h_later := h_move.made_sub_eq h_second
    have h_sooner := h_move'.made_sub_eq h_first
    omega

/-- A run mirrors itself under any renumbering that spares the instances that it has made. -/
theorem Mirrors.self_of_run? {r : Registry K} (h_new : r.bindings = []) {schedule : Schedule K}
    (h_run : (System.idle r).run? schedule = some s) {f : Nat → Nat}
    (h_f : ∀ n < s.registry.made, f n = n) : Mirrors f (fun _ => true) s s := by
  have h_numbered := Numbered.of_run? h_run
  obtain ⟨s', h_run', h_mirrors, -⟩ := (Mirrors.idle h_new f fun _ => true).exists_run? (g := id)
    (Keyed.idle r) h_run rfl (fun b h_b _ => h_f _ (h_numbered.serial_lt h_b)) (fun _ _ _ => rfl)
  rw [Schedule.only_true, h_run] at h_run'
  cases h_run'
  exact h_mirrors

/-! ### The main theorem -/

/-- **Keys do not influence each other.** After any schedule of calls on a registry without bindings:

For every key, the steps of the calls for it can be run by themselves, and then there is the same to
say of the key and of the outcomes of these calls, up to the numbers of the instances; no two
instances for the key come to have the same number, be they made, found, handed out or bound, so
calls have the same instance if and only if they had.

And neighbouring steps of the schedule, of different threads and not for the same key, may change
places; then there is the same to say of every key and of the outcomes of all calls. -/
theorem keys_isolated {r : Registry K} (h_new : r.bindings = []) {schedule : Schedule K}
    {s : System K} (h_run : (idle r).run? schedule = some s) :
    (∀ key, ∃ (f : Nat → Nat) (s' : System K),
      (idle r).run? (schedule.stepsFor r.selector key) = some s' ∧
      (∀ b b', s.Shows b → s.Shows b' → b.key = key → b'.key = key →
        f b.serial = f b'.serial → b = b') ∧
      (∀ t, s'.outcomesOf t
        = ((s.outcomesOf t).filter (·.key? = some key)).map (Outcome.renumber f)) ∧
      s'.atKey key = (s.atKey key).renumber f) ∧
    ∀ (first rest : Schedule K) (t u : Nat) (move move' : Move K),
      schedule = first ++ (t, move) :: (u, move') :: rest → t ≠ u →
      (∀ key, move.key? r.selector (first.keysAfter r.selector (fun _ => []) t).head? = some key →
        move'.key? r.selector (first.keysAfter r.selector (fun _ => []) u).head? ≠ some key) →
      ∃ (f : Nat → Nat) (s' : System K),
        (idle r).run? (first ++ (u, move') :: (t, move) :: rest) = some s' ∧
        Function.Injective f ∧
        (∀ t, s'.outcomesOf t = (s.outcomesOf t).map (Outcome.renumber f)) ∧
        ∀ key, s'.atKey key = (s.atKey key).renumber f := by
  constructor
  · intro key
    have h_numbered := Numbered.of_run? h_run
    -- what is left numbers the instances for the key without gaps
    let f := s.rank r.made fun k => decide (some k = some key)
    obtain ⟨s', h_run', h_mirrors, -⟩ :=
      (Mirrors.idle h_new f fun k => decide (k = some key)).exists_run? (g := f) (Keyed.idle r) h_run
        (by simp [f, rank, idle]) (fun _ _ _ => rfl) (fun b h_b _ => h_numbered.rank_succ _ h_b)
    refine ⟨f, s', h_run', ?_, ?_, ?_⟩
    · intro b b' h_b h_b' h_key h_key' h_eq
      have h_sourced := Sourced.of_run? h_new h_run
      exact h_numbered.eq_of_rank_eq (h_sourced.mem_makes h_b) (h_sourced.mem_makes h_b')
        (by simp [h_key]) (by simp [h_key']) h_eq
    · exact fun t => (h_mirrors.threads t).outcomes
    · exact h_mirrors.keys key (decide_eq_true rfl)
  · rintro first rest t u move move' rfl h_ne h_keys
    simp only [run?_append, run?_cons, Option.bind_eq_some_iff, step?_eq_some_iff] at h_run
    obtain ⟨s₀, h_first, s₁, h_move, s₂, h_move', h_rest⟩ := h_run
    obtain ⟨h_keyed, h_orderly, h_settings⟩ := (Keyed.idle r).of_run? (.idle h_new) h_first
    have h_selector : s₀.registry.selector = r.selector := congrArg (·.2.2) h_settings
    have h_keyOf : ∀ v move, s₀.keyOf? v move
        = move.key? r.selector (first.keysAfter r.selector (fun _ => []) v).head? := by
      intro v move
      rw [h_keyed.keyOf?_eq, h_selector]
      rfl
    obtain ⟨f, s₁', s₂', h_injective, h_after, h_second, h_third, h_mirrors, h_made⟩ :=
      exists_swap (fun f h_f => Mirrors.self_of_run? h_new h_first h_f) h_move h_move' h_ne
        (by rw [h_keyOf, h_keyOf]; exact h_keys)
    have h_keyed₂ := (h_keyed.transition h_orderly h_move).transition
      (h_orderly.transition h_move) h_move'
    -- later instances keep their numbers
    obtain ⟨s', h_run', h_fin, -⟩ := h_mirrors.exists_run? (g := id) h_keyed₂ h_rest h_made
      (fun b _ h_le => h_after _ h_le) (fun _ _ _ => rfl)
    rw [Schedule.only_true] at h_run'
    refine ⟨f, s', ?_, h_injective, fun v => ?_, fun key => h_fin.keys key rfl⟩
    · simp only [run?_append, run?_cons, Option.bind_eq_some_iff, step?_eq_some_iff]
      exact ⟨s₀, h_first, s₁', h_second, s₂', h_third, h_run'⟩
    · have h_thread := h_fin.threads v
      rw [inThread_true] at h_thread
      exact h_thread.outcomes

/-- A registry of numbered keys, without metrics, that refuses calls without an operation. -/
def bench : Registry Nat where
  metered := false
  selector c := if c.operation = "" then .error .missingOperation else .ok 7

/-- A call of the given operation of a local socket. -/
def callOf (operation : String) : Call where
  target := Target.ofUrl { scheme := "unix", authority := none, path := .segments ["s"] }
  operation := operation

/-- Two threads race for the key 7, one of them by a call whose key is derived. In between the factory
fails for the key 8, makes a breaker for the key 9, and a call is refused. -/
def mixture : Schedule Nat :=
  [(0, .callKey 7), (1, .callKey 8), (1, .look), (0, .look), (2, .call (callOf "")),
    (3, .call (callOf "get")), (4, .callKey 9), (3, .look), (4, .look), (4, .make), (3, .make),
    (1, .fail "full"), (0, .make), (4, .settle), (0, .settle), (3, .settle), (1, .finish),
    (3, .finish), (4, .finish), (0, .finish)]

/-- The race for the key 7 by itself has the same winner and the same loser; and the first two factory
calls that succeed, which are for different keys, may change places. -/
theorem keys_isolated_mixture : ∃ s, bench.bindings = [] ∧ (idle bench).run? mixture = some s ∧
    mixture.stepsFor bench.selector 7 = [(0, .callKey 7), (0, .look), (3, .call (callOf "get")),
      (3, .look), (3, .make), (0, .make), (0, .settle), (3, .settle), (3, .finish), (0, .finish)] ∧
    (∃ (f : Nat → Nat) (s' : System Nat),
      (idle bench).run? (mixture.stepsFor bench.selector 7) = some s' ∧
      (∀ b b', s.Shows b → s.Shows b' → b.key = 7 → b'.key = 7 →
        f b.serial = f b'.serial → b = b') ∧
      (∀ t, s'.outcomesOf t
        = ((s.outcomesOf t).filter (·.key? = some 7)).map (Outcome.renumber f)) ∧
      s'.atKey 7 = (s.atKey 7).renumber f) ∧
    ∃ (f : Nat → Nat) (s' : System Nat),
      (idle bench).run? (mixture.take 9 ++ (3, .make) :: (4, .make) :: mixture.drop 11) = some s' ∧
      (∀ t, s'.outcomesOf t = (s.outcomesOf t).map (Outcome.renumber f)) ∧
      ∀ key, s'.atKey key = (s.atKey key).renumber f := by
  have h_run : (idle bench).run? mixture = some _ := rfl
  obtain ⟨h_alone, h_places⟩ := keys_isolated rfl h_run
  obtain ⟨f, s', h_run', h_one, h_outcomes, h_key⟩ := h_alone 7
  obtain ⟨f₂, s₂, h_run₂, -, h_outcomes₂, h_keys₂⟩ :=
    h_places (mixture.take 9) (mixture.drop 11) 4 3 .make .make rfl (by decide) fun key h_eq => by
      obtain rfl : 9 = key := Option.some.inj h_eq
      decide
  exact ⟨_, rfl, h_run, rfl, ⟨f, s', h_run', h_one, h_outcomes, h_key⟩, f₂, s₂, h_run₂, h_outcomes₂,
    h_keys₂⟩

end System

end KeyedBreakers
