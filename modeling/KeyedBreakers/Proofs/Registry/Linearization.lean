import KeyedBreakers.Proofs.Registry.Coherence
import Mathlib.Logic.Function.Basic

/-!
# Concurrent calls as calls one after another

What a call for a key does is simple to say if calls never overlap: it returns the breaker of the
key; if there is none, it fails as its factory call failed, or binds what the factory made
(`getOrCreate?`). Here the calls of any schedule are put in an order in which this is what they did.

A call takes effect when it last consults the bindings. For a call that finds a breaker, or whose
factory call fails, this is its look-up; for any other it is the settling of its instance. The
invariant `Coherent` says of each call that it then found what had been bound before. So in the
order of these times each call finds what the calls before it leave (`explains_of_sorted`), and since
the time lies between the beginning and the end of the call, the order keeps calls apart that did not
overlap.
-/

namespace KeyedBreakers

variable {K : Type} [DecidableEq K]

/-! ### The sequential map -/

/-- **The atomic map.** The outcome of a call for a key and the bindings after it, where `product` is
what the call comes out of the factory with. None if the factory is needed and was not called. -/
def getOrCreate? (m : K → Option (Breaker K)) (key : K)
    (product : Option (Except String (Breaker K))) :
    Option (Outcome K × (K → Option (Breaker K))) :=
  match m key, product with
  | some b, _ => some (.ok b, m)
  | none, some (.ok b) => some (.ok b, Function.update m key (some b))
  | none, some (.error cause) => some (.error (.creation key cause), m)
  | none, none => none

/-- The calls of a list have ended, each with the outcome that it has when they are made one after
another on the atomic map; the first map is the one before them, the second the one after. -/
inductive Explains : (K → Option (Breaker K)) → List (Episode K) → (K → Option (Breaker K)) → Prop
  | nil (m : K → Option (Breaker K)) : Explains m [] m
  | cons {m m' m'' : K → Option (Breaker K)} {e : Episode K} {es : List (Episode K)} {time : Nat}
      {outcome : Outcome K} (h_ending : e.ending = some (time, outcome))
      (h_atomic : getOrCreate? m e.key e.product = some (outcome, m'))
      (h_rest : Explains m' es m'') : Explains m (e :: es) m''

/-! ### The order of consultation -/

/-- When a call last consulted the bindings. -/
def Episode.effect (e : Episode K) : Nat :=
  (e.consulted.map (·.1)).getD 0

omit [DecidableEq K] in
theorem Episode.effect_of_consulted {e : Episode K} {time : Nat} {found : Option (Breaker K)}
    (h : e.consulted = some (time, found)) : e.effect = time := by
  rw [effect, h]
  rfl

omit [DecidableEq K] in
/-- A call with a verdict has consulted the bindings. -/
theorem Episode.exists_consulted {e : Episode K} {outcome : Outcome K}
    (h : e.verdict? = some outcome) : ∃ found, e.consulted = some (e.effect, found) := by
  cases h_c : e.consulted with
  | none => simp [verdict?, h_c] at h
  | some x => exact ⟨x.2, by rw [effect_of_consulted h_c]⟩

/-- A call that finds what the map holds for its key has the outcome of the atomic map, and leaves
what it binds. -/
theorem exists_getOrCreate? {m : K → Option (Breaker K)} {e : Episode K} {outcome : Outcome K}
    {time : Nat} (h_verdict : e.verdict? = some outcome) (h_found : e.consulted = some (time, m e.key)) :
    ∃ m', getOrCreate? m e.key e.product = some (outcome, m') ∧
      ∀ key b, m' key = some b ↔ m key = some b ∨ e.key = key ∧ e.BindsAt time b := by
  rw [Episode.verdict?, h_found] at h_verdict
  unfold Episode.BindsAt
  rw [h_found]
  cases h_get : m e.key with
  | some b =>
    -- found: the map stays
    refine ⟨m, ?_, fun key b' => by simp⟩
    simp [h_get] at h_verdict
    simp [getOrCreate?, h_get, h_verdict]
  | none =>
    cases h_product : e.product with
    | none => simp [h_get, h_product] at h_verdict
    | some product =>
      cases product with
      | error cause =>
        refine ⟨m, ?_, fun key b' => by simp⟩
        simp [h_get, h_product] at h_verdict
        simp [getOrCreate?, h_get, h_verdict]
      | ok b =>
        refine ⟨Function.update m e.key (some b), ?_, fun key b' => ?_⟩
        · simp [h_get, h_product] at h_verdict
          simp [getOrCreate?, h_get, h_verdict]
        · by_cases h_key : e.key = key
          · subst h_key
            simp [h_get]
          · rw [Function.update_of_ne (Ne.symm h_key)]
            simp [h_key]

section Order

variable {r : Registry K} {s : System K}

/-- The calls in the order in which they took effect. -/
def effectOrder (es : List (Episode K)) : List (Episode K) :=
  es.mergeSort fun a b => a.effect ≤ b.effect

omit [DecidableEq K] in
theorem effectOrder_perm (es : List (Episode K)) : (effectOrder es).Perm es :=
  List.mergeSort_perm es _

/-- Calls that have a verdict took effect at different times. -/
theorem Coherent.pairwise_effectOrder (h : Coherent r s)
    (h_done : ∀ e ∈ episodes s.trace, ∃ outcome, e.verdict? = some outcome) :
    (effectOrder (episodes s.trace)).Pairwise fun a b => a.effect < b.effect := by
  have h_le : (effectOrder (episodes s.trace)).Pairwise fun a b => decide (a.effect ≤ b.effect) :=
    List.pairwise_mergeSort (fun a b c => by simp; omega) (fun a b => by simp; omega) _
  have h_apart : (effectOrder (episodes s.trace)).Pairwise Episode.Apart :=
    (effectOrder_perm _).symm.pairwise h.apart Episode.Apart.symm
  refine (h_le.and h_apart).imp_of_mem ?_
  rintro a b h_a h_b ⟨h_ab, h_apart⟩
  obtain ⟨outcome, h_verdict⟩ := h_done a ((effectOrder_perm _).mem_iff.1 h_a)
  obtain ⟨outcome', h_verdict'⟩ := h_done b ((effectOrder_perm _).mem_iff.1 h_b)
  obtain ⟨found, h_found⟩ := Episode.exists_consulted h_verdict
  obtain ⟨found', h_found'⟩ := Episode.exists_consulted h_verdict'
  exact Nat.lt_of_le_of_ne (of_decide_eq_true h_ab) fun h_eq => h_apart h_found (h_eq ▸ h_found')

/-- **Each call finds what the calls before it leave.** `pre` and `rest` are all calls of the trace
in the order in which they took effect, and `m` is the atomic map after `pre`. -/
theorem Coherent.explains_of_sorted (h : Coherent r s)
    (h_done : ∀ e ∈ episodes s.trace, ∃ time outcome, e.ending = some (time, outcome))
    (pre : List (Episode K)) {rest : List (Episode K)} (h_perm : (pre ++ rest).Perm (episodes s.trace))
    (h_sorted : (pre ++ rest).Pairwise fun a b => a.effect < b.effect)
    {m : K → Option (Breaker K)}
    (h_m : ∀ key b, m key = some b ↔ BoundBefore r pre s.trace.length key b) :
    ∃ m', Explains m rest m' ∧
      ∀ key b, m' key = some b ↔ BoundBefore r (pre ++ rest) s.trace.length key b := by
  induction rest generalizing pre m with
  | nil => exact ⟨m, .nil m, by rwa [List.append_nil]⟩
  | cons e rest ih =>
    have h_mem : e ∈ episodes s.trace := h_perm.mem_iff.1 (by simp)
    obtain ⟨time, outcome, h_ending⟩ := h_done e h_mem
    have h_verdict := h.verdict e h_mem h_ending
    obtain ⟨found, h_found⟩ := Episode.exists_consulted h_verdict
    -- what had been bound when the call took effect is what the calls before it bind
    have h_before : ∀ key b, BoundBefore r (episodes s.trace) e.effect key b ↔
        BoundBefore r pre s.trace.length key b := by
      intro key b
      rw [List.pairwise_append, List.pairwise_cons] at h_sorted
      obtain ⟨-, ⟨h_after, -⟩, h_cross⟩ := h_sorted
      refine or_congr_right ⟨?_, ?_⟩
      · rintro ⟨x, h_x, h_key, time, h_lt, h_b⟩
        refine ⟨x, ?_, h_key, time, h_b.lt (h.timely x h_x), h_b⟩
        rw [← Episode.effect_of_consulted h_b.1] at h_lt
        rcases List.mem_append.1 (h_perm.mem_iff.2 h_x) with h_x | h_x
        · exact h_x
        · -- the call itself and the calls after it took effect no earlier
          rcases List.mem_cons.1 h_x with rfl | h_x
          · exact absurd h_lt (Nat.lt_irrefl _)
          · exact absurd h_lt (Nat.lt_asymm (h_after x h_x))
      · rintro ⟨x, h_x, h_key, time, -, h_b⟩
        have h_lt := h_cross x h_x e (List.mem_cons_self ..)
        rw [Episode.effect_of_consulted h_b.1] at h_lt
        exact ⟨x, h_perm.mem_iff.1 (List.mem_append_left _ h_x), h_key, time, h_lt, h_b⟩
    have h_map : found = m e.key := by
      refine Option.ext fun b => ?_
      rw [h.found e h_mem h_found b, h_before, h_m]
    obtain ⟨m₁, h_atomic, h_m₁⟩ := exists_getOrCreate? h_verdict (h_map ▸ h_found)
    have h_next : ∀ key b, m₁ key = some b ↔
        BoundBefore r (pre ++ [e]) s.trace.length key b := by
      intro key b
      rw [h_m₁, h_m, boundBefore_insert, List.append_nil]
      -- a call that binds does so when it takes effect
      refine or_congr_right (and_congr_right fun _ => ?_)
      constructor
      · exact fun h_b => ⟨_, h_b.lt (h.timely e h_mem), h_b⟩
      · rintro ⟨time, -, h_b⟩
        rwa [Episode.effect_of_consulted h_b.1]
    rw [List.append_cons] at h_perm h_sorted ⊢
    obtain ⟨m', h_explains, h_m'⟩ := ih _ h_perm h_sorted h_next
    exact ⟨m', .cons h_ending h_atomic h_explains, h_m'⟩

/-- A call takes effect while it is open, so an order of effects keeps calls apart that did not
overlap. -/
theorem Coherent.not_precedes_of_effect_lt (h : Coherent r s) {e e' : Episode K}
    (h_mem : e ∈ episodes s.trace) (h_mem' : e' ∈ episodes s.trace) {outcome outcome' : Outcome K}
    (h_verdict : e.verdict? = some outcome) (h_verdict' : e'.verdict? = some outcome')
    (h_lt : e.effect < e'.effect) : ¬ e'.precedes e := by
  rintro ⟨time, outcome'', h_ending, h_began⟩
  obtain ⟨found, h_found⟩ := Episode.exists_consulted h_verdict
  obtain ⟨found', h_found'⟩ := Episode.exists_consulted h_verdict'
  have h_open := ((h.timely e h_mem).consulted_lt h_found).1
  have h_closed := (h.timely e' h_mem').consulted_lt_ending h_found' h_ending
  omega

end Order

/-! ### The main theorem -/

namespace System

variable {r : Registry K} {s : System K}

/-- **Calls are linearizable.** When all calls of a schedule have ended, there is an order of all the
calls that began in it, and so of all that returned, in which no call comes before one that had ended
when it began, and in which they have, one after another on the atomic map, the outcomes that they
returned with, and leave the bindings that they left. -/
theorem exists_linear_order {schedule : Schedule K} (h_run : (idle r).run? schedule = some s)
    (h_done : ∀ t, s.threads t = []) :
    ∃ order : List (Episode K), order.Perm (episodes s.trace) ∧
      (∀ n t key, s.trace[n]? = some (t, .began key) →
        ∃ e ∈ order, e.began = n ∧ e.thread = t ∧ e.key = key) ∧
      (∀ n t outcome, s.trace[n]? = some (t, .ended outcome) →
        ∃ e ∈ order, e.thread = t ∧ e.ending = some (n, outcome)) ∧
      order.Pairwise (fun e e' => ¬ e'.precedes e) ∧
      Explains r.get? order s.registry.get? := by
  have h := Coherent.of_run? h_run
  -- no thread is in a call, so no call is open
  have h_ended : ∀ e ∈ episodes s.trace, ∃ time outcome, e.ending = some (time, outcome) := by
    intro e h_mem
    have h_stages := h.stages e.thread
    rw [h_done, List.forall₂_nil_right_iff, List.filter_eq_nil_iff] at h_stages
    have h_closed := h_stages e h_mem
    cases h_ending : e.ending with
    | none => simp [Episode.isOpen, h_ending] at h_closed
    | some x => exact ⟨x.1, x.2, rfl⟩
  have h_verdict : ∀ e ∈ episodes s.trace, ∃ outcome, e.verdict? = some outcome := by
    intro e h_mem
    obtain ⟨time, outcome, h_ending⟩ := h_ended e h_mem
    exact ⟨outcome, h.verdict e h_mem h_ending⟩
  have h_perm := effectOrder_perm (episodes s.trace)
  have h_sorted := h.pairwise_effectOrder h_verdict
  obtain ⟨m', h_explains, h_m'⟩ := h.explains_of_sorted h_ended [] h_perm h_sorted (m := r.get?)
    (by simp [BoundBefore])
  refine ⟨effectOrder (episodes s.trace), h_perm, ?_, ?_, h_sorted.imp_of_mem ?_, ?_⟩
  · intro n t key h_began
    obtain ⟨e, h_mem, h_e⟩ := exists_episode_of_began h_began
    exact ⟨e, h_perm.mem_iff.2 h_mem, h_e⟩
  · intro n t outcome h_return
    obtain ⟨e, h_mem, h_e⟩ := exists_episode_of_ended h_run h_return
    exact ⟨e, h_perm.mem_iff.2 h_mem, h_e⟩
  · intro e e' h_e h_e' h_lt
    obtain ⟨outcome, h_v⟩ := h_verdict e (h_perm.mem_iff.1 h_e)
    obtain ⟨outcome', h_v'⟩ := h_verdict e' (h_perm.mem_iff.1 h_e')
    exact h.not_precedes_of_effect_lt (h_perm.mem_iff.1 h_e) (h_perm.mem_iff.1 h_e') h_v h_v' h_lt
  -- the last map holds what all calls have bound, and so does the registry
  · have h_final : m' = s.registry.get? := by
      funext key
      refine Option.ext fun b => ?_
      rw [h_m', h.bound]
      simp [BoundBefore]
    exact h_final ▸ h_explains

/-- A registry in which the key 1 has a breaker, which no thread is calling. -/
def seasoned : Registry Nat :=
  { selector := fun _ => .ok 1, bindings := [(1, ⟨0, 1⟩)], made := 1 }

/-- Thread 0 misses the key 2 and fails after thread 1 has bound it; between the two, the factory of
thread 1 has resolved the key 1, which was bound, and the key 2, which binds. -/
def overlap : Schedule Nat :=
  [(0, .callKey 2), (0, .look), (1, .callKey 2), (1, .look), (1, .callKey 1), (1, .look),
    (1, .finish), (1, .callKey 2), (1, .look), (1, .make), (1, .settle), (1, .measure),
    (1, .publish), (1, .finish), (1, .make), (1, .settle), (1, .measure), (1, .publish),
    (1, .finish), (0, .fail "full"), (0, .finish)]

theorem exists_linear_order_overlap :
    ∃ s, (idle seasoned).run? overlap = some s ∧ (∀ t, s.threads t = []) ∧
      s.outcomesOf 0 = [.error (.creation 2 "full")] ∧
      s.outcomesOf 1 = [.ok ⟨0, 1⟩, .ok ⟨1, 2⟩, .ok ⟨1, 2⟩] ∧
      ∃ order : List (Episode Nat), order.Perm (episodes s.trace) ∧
        (∀ n t key, s.trace[n]? = some (t, .began key) →
          ∃ e ∈ order, e.began = n ∧ e.thread = t ∧ e.key = key) ∧
        (∀ n t outcome, s.trace[n]? = some (t, .ended outcome) →
          ∃ e ∈ order, e.thread = t ∧ e.ending = some (n, outcome)) ∧
        order.Pairwise (fun e e' => ¬ e'.precedes e) ∧
        Explains seasoned.get? order s.registry.get? := by
  have h_done : ∀ s, (idle seasoned).run? overlap = some s → ∀ t, s.threads t = [] := by
    intro s h_run t
    obtain rfl := Option.some.inj (h_run.symm.trans rfl)
    rcases t with _ | _ | t <;> rfl
  have h_run : (idle seasoned).run? overlap = some _ := rfl
  exact ⟨_, h_run, h_done _ h_run, rfl, rfl, exists_linear_order h_run (h_done _ h_run)⟩

end System

end KeyedBreakers
