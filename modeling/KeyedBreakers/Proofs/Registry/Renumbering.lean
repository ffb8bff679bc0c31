import KeyedBreakers.Proofs.Registry.Agenda
import Mathlib.Data.List.Count
import Mathlib.Data.List.Forall2
import Mathlib.Data.List.TakeDrop

/-!
# Instances under other numbers

A registry numbers its instances in the order in which they are made, for whatever key. Two runs in
which a key fares the same may therefore number its instances differently. They are compared up to a
renumbering, which is one-to-one on the instances of the key, so that two calls have the same instance
in one run exactly if they have in the other.

* `Breaker.renumber`, `Outcome.renumber`, `Signal.renumber` — the same under other numbers;
* `Stage.Alike` — the same stage of a call, under other numbers; the size that is about to be published
  is not compared, because it counts all keys;
* `Outcome.key?`, `Signal.key?`, `Stage.key?` — the key that something is about;
* `System.makes` — all instances in the order of their numbers;
* `System.Shows`, `System.Sourced` — the instances that can be seen; all of them have been made;
* `System.rank` — the number that an instance has if only the instances of some keys are made.
-/

namespace KeyedBreakers

variable {K : Type}

/-! ### Renumbering -/

/-- The instance under another number. -/
def Breaker.renumber (f : Nat → Nat) (b : Breaker K) : Breaker K := ⟨f b.serial, b.key⟩

/-- The outcome with its instance under another number. -/
def Outcome.renumber (f : Nat → Nat) (outcome : Outcome K) : Outcome K :=
  outcome.map (Breaker.renumber f)

/-- The signal with its instances under other numbers. -/
def Signal.renumber (f : Nat → Nat) : Signal K → Signal K
  | .looked found => .looked (found.map (Breaker.renumber f))
  | .left product => .left (product.map (Breaker.renumber f))
  | .settled found => .settled (found.map (Breaker.renumber f))
  | .occurred (.returned outcome) => .occurred (.returned (Outcome.renumber f outcome))
  | .ended outcome => .ended (Outcome.renumber f outcome)
  | .peeked key found => .peeked key (found.map (Breaker.renumber f))
  | signal => signal

@[simp] theorem Breaker.renumber_key (f : Nat → Nat) (b : Breaker K) :
    (b.renumber f).key = b.key := rfl

/-- The same stage under other numbers, up to the size that is about to be published. -/
inductive Stage.Alike (f : Nat → Nat) : Stage K → Stage K → Prop
  | looking (key : K) : Alike f (.looking key) (.looking key)
  | creating (key : K) : Alike f (.creating key) (.creating key)
  | settling (b : Breaker K) : Alike f (.settling b) (.settling (b.renumber f))
  | measuring (b : Breaker K) : Alike f (.measuring b) (.measuring (b.renumber f))
  | publishing (b : Breaker K) (n m : Nat) :
      Alike f (.publishing b n) (.publishing (b.renumber f) m)
  | returning (outcome : Outcome K) :
      Alike f (.returning outcome) (.returning (Outcome.renumber f outcome))

/-! ### What it is about -/

/-- The key of the call that has ended with the outcome; none if the call has no key. -/
def Outcome.key? : Outcome K → Option K
  | .ok b => some b.key
  | .error (.creation key _) => some key
  | .error (.keyDerivation _) => none

/-- The key that the signal itself names: a call for it has started or ended, the factory is called
for it or has made an instance for it, an event tells of it, or it has been asked for. -/
def Signal.key? : Signal K → Option K
  | .began key | .peeked key _ | .occurred (.entered key) => some key
  | .left (.ok b) => some b.key
  | .occurred (.logged event) => event.key?
  | .ended outcome => outcome.key?
  | _ => none

/-- The key of the call that is in the stage. -/
def Stage.key? : Stage K → Option K
  | .looking key | .creating key => some key
  | .settling b | .measuring b | .publishing b _ => some b.key
  | .returning outcome => outcome.key?

@[simp] theorem Outcome.key?_renumber (f : Nat → Nat) (outcome : Outcome K) :
    (outcome.renumber f).key? = outcome.key? := by
  cases outcome <;> rfl

@[simp] theorem Signal.key?_renumber (f : Nat → Nat) (signal : Signal K) :
    (signal.renumber f).key? = signal.key? := by
  cases signal with
  | left product => cases product <;> rfl
  | occurred occurrence => cases occurrence <;> rfl
  | ended outcome => exact Outcome.key?_renumber f outcome
  | _ => rfl

theorem Signal.outcome?_renumber (f : Nat → Nat) (signal : Signal K) :
    (signal.renumber f).outcome? = signal.outcome?.map (Outcome.renumber f) := by
  cases signal with
  | occurred occurrence => cases occurrence <;> rfl
  | _ => rfl

theorem Stage.Alike.key?_eq {f : Nat → Nat} {stage stage' : Stage K} (h : stage.Alike f stage') :
    stage'.key? = stage.key? := by
  cases h with
  | returning outcome => exact Outcome.key?_renumber f outcome
  | _ => rfl

/-! ### What is told under other numbers -/

section Retold

variable [DecidableEq K]

/-- The same has been told of every key and of the outcomes of the calls. -/
structure Retold (f : Nat → Nat) (signals signals' : List (Signal K)) : Prop where
  outcomes : signals'.filterMap Signal.outcome?
    = (signals.filterMap Signal.outcome?).map (Outcome.renumber f)
  signals : ∀ key, signals'.filter (·.key? = some key)
    = (signals.filter (·.key? = some key)).map (Signal.renumber f)

theorem Retold.map (f : Nat → Nat) (signals : List (Signal K)) :
    Retold f signals (signals.map (Signal.renumber f)) where
  outcomes := by
    rw [List.filterMap_map, List.map_filterMap]
    exact congrArg (List.filterMap · signals) (funext (Signal.outcome?_renumber f))
  signals key := by
    rw [List.filter_map]
    congr 2
    funext signal
    rw [Function.comp_apply, Signal.key?_renumber]

/-- An event with its count tells of the key that the event names only. -/
theorem filter_key?_told {event : Event K} {key : K} (h : event.key? ≠ some key) (r : Registry K)
    (metric : Metric) : ((.logged event :: r.counted metric).map Signal.occurred).filter
      (·.key? = some key) = [] := by
  rw [List.map_cons, List.filter_cons_of_neg (by simp [Signal.key?, h]), Registry.counted]
  split <;> rfl

theorem filter_key?_gauged (r : Registry K) (n : Nat) (key : K) :
    ((r.gauged n).map Signal.occurred).filter (·.key? = some key) = [] := by
  rw [Registry.gauged]
  split <;> rfl

/-- Only the first signal has an instance in it; an event with its count has none. -/
theorem Retold.told (f : Nat → Nat) (signal : Signal K) (event : Event K) (r : Registry K)
    (metric : Metric) :
    Retold f (signal :: (.logged event :: r.counted metric).map .occurred)
      (signal.renumber f :: (.logged event :: r.counted metric).map .occurred) := by
  have h_same : ((.logged event :: r.counted metric).map Signal.occurred).map (Signal.renumber f)
      = (.logged event :: r.counted metric).map .occurred := by
    rw [Registry.counted]
    split <;> rfl
  have h_map := Retold.map f (signal :: (.logged event :: r.counted metric).map .occurred)
  rw [List.map_cons (f := Signal.renumber f), h_same] at h_map
  exact h_map

/-- The size of a registry tells of no key and of no outcome. -/
theorem Retold.gauged (f : Nat → Nat) (r r' : Registry K) (n m : Nat) :
    Retold f ((r.gauged n).map .occurred) ((r'.gauged m).map .occurred) where
  outcomes := by
    rw [System.filterMap_outcome?_occurred, System.filterMap_outcome?_occurred, List.map_nil]
  signals key := by rw [filter_key?_gauged, filter_key?_gauged, List.map_nil]

section Settling

variable {f : Nat → Nat} {r r' : Registry K} {b : Breaker K}

/-- Where the key has the same breaker, the same instance wins. -/
theorem Registry.winner_settle_renumber
    (h_get : r'.get? b.key = (r.get? b.key).map (Breaker.renumber f)) :
    (r'.settle (b.renumber f)).winner = (r.settle b).winner.renumber f := by
  rw [winner_settle, winner_settle, Breaker.renumber_key, h_get]
  cases r.get? b.key <;> rfl

/-- Where the key has the same breaker, the same is told of an instance that is settled. -/
theorem Retold.settle (h_counted : ∀ metric, r'.counted metric = r.counted metric)
    (h_get : r'.get? b.key = (r.get? b.key).map (Breaker.renumber f)) :
    Retold f (.settled (r.get? b.key) :: (r.settle b).trace.map .occurred)
      (.settled (r'.get? (b.renumber f).key) :: (r'.settle (b.renumber f)).trace.map .occurred) := by
  rw [Breaker.renumber_key, h_get]
  cases h : r.get? b.key with
  | none =>
    have h' : r'.get? (b.renumber f).key = none := by rw [Breaker.renumber_key, h_get, h]; rfl
    rw [Registry.settle_of_unbound h, Registry.settle_of_unbound h', h_counted]
    exact .told f (.settled none) (.created b.key) r .created
  | some winner =>
    have h' : r'.get? (b.renumber f).key = some (winner.renumber f) := by
      rw [Breaker.renumber_key, h_get, h]
      rfl
    rw [Registry.settle_of_bound h, Registry.settle_of_bound h', h_counted]
    exact .told f (.settled (some winner)) (.lostRace b.key) r .raceLosses

end Settling

end Retold

/-! ### The numbers of a run -/

/-- The instance that the factory has made. -/
def Signal.made? : Signal K → Option (Breaker K)
  | .left (.ok b) => some b
  | _ => none

@[simp] theorem filterMap_made?_occurred (told : List (Occurrence K)) :
    (told.map Signal.occurred).filterMap Signal.made? = [] := by
  rw [List.filterMap_eq_nil_iff]
  intro signal h_mem
  obtain ⟨o, -, rfl⟩ := List.mem_map.1 h_mem
  rfl

/-- The instance that has been found, made, or handed out. -/
def Signal.instance? : Signal K → Option (Breaker K)
  | .looked found | .settled found | .peeked _ found => found
  | .left product => product.toOption
  | .ended outcome | .occurred (.returned outcome) => outcome.toOption
  | _ => none

/-- The instance that a call is about to settle, to measure with, or to return. -/
def Stage.instance? : Stage K → Option (Breaker K)
  | .settling b | .measuring b | .publishing b _ => some b
  | .returning outcome => outcome.toOption
  | .looking _ | .creating _ => none

theorem filterMap_instance?_told (event : Event K) (r : Registry K) (metric : Metric) :
    ((.logged event :: r.counted metric).map Signal.occurred).filterMap Signal.instance? = [] := by
  rw [Registry.counted]
  split <;> rfl

theorem filterMap_instance?_gauged (r : Registry K) (n : Nat) :
    ((r.gauged n).map Signal.occurred).filterMap Signal.instance? = [] := by
  rw [Registry.gauged]
  split <;> rfl

theorem filterMap_instance?_settled [DecidableEq K] (r : Registry K) (b : Breaker K) :
    (.settled (r.get? b.key) :: (r.settle b).trace.map .occurred).filterMap Signal.instance?
      = (r.get? b.key).toList := by
  cases h_get : r.get? b.key with
  | none =>
    rw [Registry.settle_of_unbound h_get, List.filterMap_cons_none rfl, filterMap_instance?_told]
    rfl
  | some winner =>
    have h_some : (Signal.settled (some winner)).instance? = some winner := rfl
    rw [Registry.settle_of_bound h_get, List.filterMap_cons_some h_some, filterMap_instance?_told]
    rfl

namespace System

/-- All instances that have been made, in order. -/
def makes (s : System K) : List (Breaker K) := s.trace.filterMap (·.2.made?)

theorem makes_put (s : System K) (t : Nat) (r : Registry K) (stages : List (Stage K))
    (signals : List (Signal K)) :
    (s.put t r stages signals).makes = s.makes ++ signals.filterMap Signal.made? := by
  rw [makes, trace_put, List.filterMap_append, List.filterMap_map]
  rfl

/-- The instances are numbered in the order in which they have been made since `r`. -/
structure Numbered (r : Registry K) (s : System K) : Prop where
  made : s.registry.made = r.made + s.makes.length
  serial : ∀ i b, s.makes[i]? = some b → b.serial = r.made + i

variable {r : Registry K} {s s' : System K}

/-- A move that makes no instance changes no number. -/
theorem Numbered.put (h : Numbered r s) (t : Nat) {r' : Registry K}
    (h_made : r'.made = s.registry.made) (stages : List (Stage K)) {signals : List (Signal K)}
    (h_none : signals.filterMap Signal.made? = []) : Numbered r (s.put t r' stages signals) := by
  have h_makes : (s.put t r' stages signals).makes = s.makes := by
    rw [makes_put, h_none, List.append_nil]
  refine ⟨?_, ?_⟩ <;> rw [h_makes]
  · rw [registry_put, h_made, h.made]
  · exact h.serial

variable [DecidableEq K]

theorem Numbered.transition {t : Nat} {move : Move K} (h : Numbered r s)
    (h_move : Transition s t move s') : Numbered r s' := by
  cases h_move with
  | @make key outer h_at =>
    have h_makes : (s.put t (s.registry.make key).2 (.settling (s.registry.make key).1 :: outer)
        [.left (.ok (s.registry.make key).1)]).makes = s.makes ++ [⟨s.registry.made, key⟩] :=
      makes_put ..
    refine ⟨?_, ?_⟩ <;> rw [h_makes]
    · rw [List.length_append, List.length_singleton, ← Nat.add_assoc, ← h.made]
      rfl
    · intro i b h_b
      rw [List.getElem?_append] at h_b
      split at h_b
      · exact h.serial i b h_b
      · -- the new instance has the next number
        obtain ⟨h_i, rfl⟩ : i - s.makes.length = 0 ∧ ⟨s.registry.made, key⟩ = b := by
          rwa [List.getElem?_singleton, Option.ite_none_right_eq_some, Option.some.injEq] at h_b
        have h_made := h.made
        show s.registry.made = r.made + i
        omega
  | refuse => exact h.put t rfl _ (by simp [Registry.toldUnderivable, Signal.made?])
  | settle => exact h.put t (Registry.made_settle ..) _ (by simp [Signal.made?])
  | publish => exact h.put t rfl _ (filterMap_made?_occurred _)
  | fail => exact h.put t rfl _ (by simp [Signal.made?])
  | _ => exact h.put t rfl _ rfl

theorem Numbered.of_run? {schedule : Schedule K} (h_run : (idle r).run? schedule = some s) :
    Numbered r s :=
  run?_invariant Numbered.transition h_run ⟨rfl, fun _ _ h => by cases h⟩

omit [DecidableEq K] in
theorem Numbered.serial_lt (h : Numbered r s) {b : Breaker K} (h_b : b ∈ s.makes) :
    b.serial < s.registry.made := by
  obtain ⟨i, h_i⟩ := List.getElem?_of_mem h_b
  have h_lt := (List.getElem?_eq_some_iff.1 h_i).1
  rw [h.serial i b h_i, h.made]
  omega

/-! ### Instances that show -/

/-- All instances that have been found, made, or handed out, as often as they have. -/
def shown (s : System K) : List (Breaker K) := s.trace.filterMap (·.2.instance?)

omit [DecidableEq K] in
theorem shown_put (s : System K) (t : Nat) (r : Registry K) (stages : List (Stage K))
    (signals : List (Signal K)) :
    (s.put t r stages signals).shown = s.shown ++ signals.filterMap Signal.instance? := by
  rw [shown, trace_put, List.filterMap_append, List.filterMap_map]
  rfl

/-- The instance can be seen: in what has happened, or as the breaker of its key. -/
def Shows (s : System K) (b : Breaker K) : Prop :=
  b ∈ s.shown ∨ s.registry.get? b.key = some b

/-- **Every instance comes from the factory.** What is bound, what a call has come to and what has been
shown has been made. -/
structure Sourced (s : System K) : Prop where
  bound : ∀ key b, s.registry.get? key = some b → b ∈ s.makes
  staged : ∀ t, ∀ stage ∈ s.threads t, ∀ b ∈ stage.instance?, b ∈ s.makes
  shown : s.shown ⊆ s.makes

theorem Sourced.mem_makes (h : Sourced s) {b : Breaker K} (h_b : s.Shows b) : b ∈ s.makes :=
  h_b.elim (fun h_shown => h.shown h_shown) (h.bound b.key b)

/-- A move that uses and shows only what has been made, by this move at the latest. -/
theorem Sourced.put (h : Sourced s) {t : Nat} {r' : Registry K} {stages : List (Stage K)}
    {signals : List (Signal K)} (h_bound : ∀ key b, r'.get? key = some b → b ∈ s.makes)
    (h_staged : ∀ stage ∈ stages, ∀ b ∈ stage.instance?,
      b ∈ s.makes ++ signals.filterMap Signal.made?)
    (h_shown : signals.filterMap Signal.instance? ⊆ s.makes ++ signals.filterMap Signal.made?) :
    Sourced (s.put t r' stages signals) where
  bound key b h_get := by
    rw [makes_put]
    exact List.mem_append_left _ (h_bound key b h_get)
  staged u := by
    rw [makes_put]
    by_cases h_u : u = t
    · rw [h_u, threads_put_self]
      exact h_staged
    · rw [threads_put_of_ne _ _ _ _ _ h_u]
      exact fun stage h_stage b h_b => List.mem_append_left _ (h.staged u stage h_stage b h_b)
  shown := by
    rw [makes_put, shown_put]
    exact List.append_subset.2 ⟨List.Subset.trans h.shown (List.subset_append_left _ _), h_shown⟩

theorem Sourced.transition {t : Nat} {move : Move K} (h : Sourced s)
    (h_move : Transition s t move s') : Sourced s' := by
  have h_same : ∀ {new : List (Breaker K)}, ∀ stage ∈ s.threads t, ∀ b ∈ stage.instance?,
      b ∈ s.makes ++ new :=
    fun stage h_stage b h_b => List.mem_append_left _ (h.staged t stage h_stage b h_b)
  -- the innermost call has come to an instance that has been made, the others are where they were
  have h_next : ∀ {stage : Stage K} {outer : List (Stage K)}, s.threads t = stage :: outer →
      ∀ {next : Stage K} {new : List (Breaker K)}, (∀ b ∈ next.instance?, b ∈ s.makes ++ new) →
      ∀ stage' ∈ next :: outer, ∀ b ∈ stage'.instance?, b ∈ s.makes ++ new := by
    intro stage outer h_at next new h_b stage' h_stage'
    rcases List.mem_cons.1 h_stage' with rfl | h_stage'
    · exact h_b
    · exact h_same stage' (h_at ▸ List.mem_cons_of_mem _ h_stage')
  have h_top : ∀ {stage : Stage K} {outer : List (Stage K)}, s.threads t = stage :: outer →
      ∀ {new : List (Breaker K)}, ∀ b ∈ stage.instance?, b ∈ s.makes ++ new := by
    intro stage outer h_at new
    exact h_same stage (h_at ▸ List.mem_cons_self)
  cases h_move with
  | refuse => exact h.put h.bound h_same (List.nil_subset _)
  | @start move key =>
    refine h.put h.bound (fun stage h_stage => ?_) (List.nil_subset _)
    rcases List.mem_cons.1 h_stage with rfl | h_stage
    · nofun
    · exact h_same stage h_stage
  | @peek key =>
    refine h.put h.bound h_same fun b h_b => ?_
    obtain ⟨signal, h_signal, h_get⟩ := List.mem_filterMap.1 h_b
    obtain rfl := List.mem_singleton.1 h_signal
    exact List.mem_append_left _ (h.bound key b h_get)
  | @hit key outer b h_at h_get =>
    have h_b : b ∈ s.makes ++ [] := List.mem_append_left _ (h.bound key b h_get)
    refine h.put h.bound (h_next h_at ?_) (List.cons_subset.2 ⟨h_b, List.nil_subset _⟩)
    rintro _ ⟨⟩
    exact h_b
  | miss h_at => exact h.put h.bound (h_next h_at nofun) (List.nil_subset _)
  | make h_at =>
    -- this is where instances come from
    refine h.put h.bound (h_next h_at ?_) (List.subset_append_right _ _)
    rintro _ ⟨⟩
    exact List.mem_append_right _ (List.mem_singleton_self _)
  | fail h_at =>
    refine h.put h.bound (h_next h_at nofun) ?_
    rw [List.filterMap_cons_none rfl, Registry.toldFailure, filterMap_instance?_told]
    exact List.nil_subset _
  | @settle b outer h_at =>
    have h_b : b ∈ s.makes := h.staged t (.settling b) (h_at ▸ List.mem_cons_self) b rfl
    -- the winner is this instance, or the breaker that the key has
    have h_found : ∀ winner ∈ s.registry.get? b.key, winner ∈ s.makes := h.bound b.key
    have h_winner : (s.registry.settle b).winner ∈ s.makes := by
      rw [Registry.winner_settle]
      cases h_get : s.registry.get? b.key with
      | none => exact h_b
      | some winner => exact h_found winner h_get
    refine h.put (fun key b' h_get => ?_) (h_next h_at ?_) ?_
    · rcases Registry.get?_settle_eq_some_iff.1 h_get with h_get | ⟨-, -, rfl⟩
      · exact h.bound key b' h_get
      · exact h_b
    · split
      · rintro _ ⟨⟩
        exact List.mem_append_left _ h_winner
      · rintro _ ⟨⟩
        exact List.mem_append_left _ h_winner
    · rw [filterMap_instance?_settled]
      exact fun winner h_w => List.mem_append_left _ (h_found winner (Option.mem_toList.1 h_w))
  | measure h_at => exact h.put h.bound (h_next h_at (h_top h_at)) (List.nil_subset _)
  | publish h_at =>
    refine h.put h.bound (h_next h_at (h_top h_at)) ?_
    rw [filterMap_instance?_gauged]
    exact List.nil_subset _
  | @finish outcome outer h_at =>
    refine h.put h.bound (fun stage h_stage => h_same stage ?_) fun b h_b => ?_
    · exact h_at ▸ List.mem_cons_of_mem _ h_stage
    · obtain ⟨signal, h_signal, h_b⟩ := List.mem_filterMap.1 h_b
      obtain rfl := List.mem_singleton.1 h_signal
      exact h_top h_at b h_b

theorem Sourced.of_run? (h_new : r.bindings = []) {schedule : Schedule K}
    (h_run : (idle r).run? schedule = some s) : Sourced s := by
  refine run?_invariant Sourced.transition h_run ⟨fun key b h_get => ?_, ?_, List.nil_subset _⟩
  · rw [System.idle, Registry.get?, h_new] at h_get
    cases h_get
  · exact fun _ _ h_stage => by cases h_stage

/-! ### The numbers of a part of a run -/

/-- The number that the `n`-th instance has if only the instances of some keys are made, where the
first has the number `first`. -/
def rank (s : System K) (first : Nat) (keep : K → Bool) (n : Nat) : Nat :=
  first + (s.makes.take (n - first)).countP fun b => keep b.key

omit [DecidableEq K] in
theorem rank_mono (s : System K) (first : Nat) (keep : K → Bool) {n m : Nat} (h_le : n ≤ m) :
    s.rank first keep n ≤ s.rank first keep m :=
  Nat.add_le_add_left ((List.take_prefix_take_left (by omega)).sublist.countP_le) first

omit [DecidableEq K] in
/-- An instance takes up a number if its key is one of those. -/
theorem Numbered.rank_succ (h : Numbered r s) (keep : K → Bool) {b : Breaker K}
    (h_b : b ∈ s.makes) : s.rank r.made keep (b.serial + 1)
      = s.rank r.made keep b.serial + if keep b.key then 1 else 0 := by
  obtain ⟨i, h_i⟩ := List.getElem?_of_mem h_b
  have h_serial := h.serial i b h_i
  have h_next : b.serial + 1 - r.made = i + 1 := by omega
  have h_this : b.serial - r.made = i := by omega
  rw [rank, rank, h_next, h_this, List.take_add_one, h_i, List.countP_append, Option.toList_some,
    List.countP_singleton, Nat.add_assoc]

omit [DecidableEq K] in
/-- Instances of these keys keep their order. -/
theorem Numbered.rank_lt (h : Numbered r s) {keep : K → Bool} {b : Breaker K} (h_b : b ∈ s.makes)
    (h_keep : keep b.key = true) {n : Nat} (h_lt : b.serial < n) :
    s.rank r.made keep b.serial < s.rank r.made keep n := by
  have h_succ := h.rank_succ keep h_b
  rw [if_pos h_keep] at h_succ
  have h_le : s.rank r.made keep (b.serial + 1) ≤ s.rank r.made keep n := s.rank_mono _ _ h_lt
  omega

omit [DecidableEq K] in
/-- An instance is known by its number. -/
theorem Numbered.eq_of_serial_eq (h : Numbered r s) {b b' : Breaker K} (h_b : b ∈ s.makes)
    (h_b' : b' ∈ s.makes) (h_serial : b.serial = b'.serial) : b = b' := by
  obtain ⟨i, h_i⟩ := List.getElem?_of_mem h_b
  obtain ⟨j, h_j⟩ := List.getElem?_of_mem h_b'
  have h_ij : i = j := by
    have h_at := h.serial i b h_i
    have h_at' := h.serial j b' h_j
    omega
  rw [h_ij, h_j] at h_i
  exact (Option.some.inj h_i).symm

omit [DecidableEq K] in
/-- No two instances of these keys have the same number. -/
theorem Numbered.eq_of_rank_eq (h : Numbered r s) {keep : K → Bool} {b b' : Breaker K}
    (h_b : b ∈ s.makes) (h_b' : b' ∈ s.makes) (h_keep : keep b.key = true)
    (h_keep' : keep b'.key = true)
    (h_eq : s.rank r.made keep b.serial = s.rank r.made keep b'.serial) : b = b' := by
  refine h.eq_of_serial_eq h_b h_b' ?_
  rcases Nat.lt_trichotomy b.serial b'.serial with h_lt | h_same | h_lt
  · exact absurd h_eq (Nat.ne_of_lt (h.rank_lt h_b h_keep h_lt))
  · exact h_same
  · exact absurd h_eq.symm (Nat.ne_of_lt (h.rank_lt h_b' h_keep' h_lt))

end System

end KeyedBreakers
