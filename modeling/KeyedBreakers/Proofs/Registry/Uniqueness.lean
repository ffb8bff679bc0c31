import KeyedBreakers.Proofs.Registry.Coherence
import Mathlib.Data.List.Pairwise

/-!
# One breaker for each key, for good

Many threads may find a key unbound at the same time and all make an instance for it, and a factory
may resolve keys on the registry that called it. Still a key has one breaker for all callers:

* `get?_of_transition`, `get?_of_run?` — a binding is never removed or replaced;
* `Coherent.get?_of_verdict` — the breaker that a call has as its verdict is bound to its key;
* `get?_of_peeked` — so is the breaker with which a question was answered;
* `Provenance` — an instance is made by a factory call for its key, and has a number of its own;
* `oneBreakerPerKey_of_run?` — all of it, for every schedule.
-/

namespace KeyedBreakers

variable {K : Type} [DecidableEq K] {r : Registry K} {s s' : System K} {t : Nat}

namespace System

/-! ### Bindings are permanent -/

/-- No move removes or replaces a binding. -/
theorem get?_of_transition {move : Move K} (h_move : Transition s t move s') {key : K}
    {b : Breaker K} (h : s.registry.get? key = some b) : s'.registry.get? key = some b := by
  cases h_move with
  | settle h_at =>
    rw [registry_put, Registry.get?_settle_eq_some_iff]
    exact .inl h
  | _ => exact h

theorem get?_of_run? {schedule : Schedule K} (h_run : s.run? schedule = some s') {key : K}
    {b : Breaker K} (h : s.registry.get? key = some b) : s'.registry.get? key = some b :=
  run?_invariant (P := fun s => s.registry.get? key = some b)
    (fun h h_move => get?_of_transition h_move h) h_run h

/-! ### What callers are given -/

/-- A breaker with which a question for a key was answered is bound to the key. -/
theorem get?_of_peeked {schedule : Schedule K} (h_run : (idle r).run? schedule = some s)
    {key : K} {b : Breaker K} (h : (t, .peeked key (some b)) ∈ s.trace) :
    s.registry.get? key = some b := by
  refine run?_invariant (P := fun s => ∀ u, (u, .peeked key (some b)) ∈ s.trace →
    s.registry.get? key = some b) ?_ h_run ?_ t h
  · intro s u move s' ih h_move v h_mem
    -- an answer given before is still right; the only new one is a look at the bindings
    have h_old : (v, .peeked key (some b)) ∈ s.trace → s'.registry.get? key = some b :=
      fun h_mem => get?_of_transition h_move (ih v h_mem)
    cases h_move with
    | peek h_free =>
      rw [trace_put, List.mem_append] at h_mem
      rcases h_mem with h_mem | h_mem
      · exact h_old h_mem
      · simp only [List.map_cons, List.map_nil, List.mem_singleton, Prod.mk.injEq,
          Signal.peeked.injEq] at h_mem
        obtain ⟨-, rfl, h_get⟩ := h_mem
        exact h_get.symm
    | _ =>
      rw [trace_put, List.mem_append] at h_mem
      rcases h_mem with h_mem | h_mem
      · exact h_old h_mem
      · simp at h_mem
  · intro u h_mem
    exact absurd h_mem List.not_mem_nil

end System

/-- The breaker that a call has as its verdict is bound to its key: the call found it bound, or
bound it. -/
theorem Coherent.get?_of_verdict (h : Coherent r s) {e : Episode K} (h_mem : e ∈ episodes s.trace)
    {b : Breaker K} (h_verdict : e.verdict? = some (.ok b)) :
    s.registry.get? e.key = some b := by
  obtain ⟨thread, key, began, consulted, product, ending⟩ := e
  rw [h.bound]
  match consulted, product, h_verdict with
  | some (time, some b'), _, h_verdict =>
    obtain rfl : b' = b := by simpa [Episode.verdict?] using h_verdict
    have h_lt := ((h.timely _ h_mem).consulted_lt rfl).2
    -- found: it had been bound, and nothing is unbound later
    rcases (h.found _ h_mem rfl b').1 rfl with h_get | ⟨e', h_mem', h_key, at_, h_at, h_b⟩
    · exact .inl h_get
    · exact .inr ⟨e', h_mem', h_key, at_, Nat.lt_trans h_at h_lt, h_b⟩
  | some (time, none), some (.ok b'), h_verdict =>
    obtain rfl : b' = b := by simpa [Episode.verdict?] using h_verdict
    -- not found: the call bound its own instance
    exact .inr ⟨_, h_mem, rfl, time, ((h.timely _ h_mem).consulted_lt rfl).2, rfl, rfl⟩

/-! ### Where instances come from -/

/-- What a call and its factory call say of an instance: the key it was asked for, and what came out
of the factory. -/
def Episode.delivery (e : Episode K) : K × Option (Except String (Breaker K)) :=
  (e.key, e.product)

/-- The two calls did not make instances with the same number. -/
def Unshared (d d' : K × Option (Except String (Breaker K))) : Prop :=
  ∀ {b b'}, d.2 = some (.ok b) → d'.2 = some (.ok b') → b.serial ≠ b'.serial

omit [DecidableEq K] in
theorem map_delivery_consult (u time : Nat) (found : Option (Breaker K)) (es : List (Episode K)) :
    (amend u (Episode.consult time found) es).map Episode.delivery = es.map Episode.delivery := by
  refine map_amend ?_ es
  exact fun _ => rfl

omit [DecidableEq K] in
theorem map_delivery_finish (u time : Nat) (outcome : Outcome K) (es : List (Episode K)) :
    (amend u (Episode.finish time outcome) es).map Episode.delivery = es.map Episode.delivery := by
  refine map_amend ?_ es
  exact fun _ => rfl

/-- **Instances are told apart.** An instance was made for the key of the call that made it, and no
other call made one with the same number. -/
structure Provenance (s : System K) : Prop where
  made : ∀ d ∈ (episodes s.trace).map Episode.delivery, ∀ {b}, d.2 = some (.ok b) →
    b.key = d.1 ∧ b.serial < s.registry.made
  unshared : ((episodes s.trace).map Episode.delivery).Pairwise Unshared

omit [DecidableEq K] in
theorem Unshared.symm {d d' : K × Option (Except String (Breaker K))} (h : Unshared d d') :
    Unshared d' d :=
  fun h_d h_d' => (h h_d' h_d).symm

omit [DecidableEq K] in
/-- A move that makes no instance and leaves alone what calls were delivered. -/
theorem Provenance.of_same (h : Provenance s)
    (h_es : (episodes s'.trace).map Episode.delivery = (episodes s.trace).map Episode.delivery)
    (h_made : s'.registry.made = s.registry.made) : Provenance s' where
  made := by rw [h_es, h_made]; exact h.made
  unshared := by rw [h_es]; exact h.unshared

omit [DecidableEq K] in
/-- A move after which one call is new or delivered anew; an instance that it has now is numbered
after all older ones. -/
theorem Provenance.of_new (h : Provenance s) {pre post : List (Episode K)} {new : Episode K}
    (h_sub : (pre ++ post).Sublist (episodes s.trace))
    (h_es : episodes s'.trace = pre ++ new :: post)
    (h_le : s.registry.made ≤ s'.registry.made)
    (h_new : ∀ {b}, new.product = some (.ok b) →
      b.key = new.key ∧ s.registry.made ≤ b.serial ∧ b.serial < s'.registry.made) :
    Provenance s' := by
  have h_map := h_sub.map Episode.delivery
  rw [List.map_append] at h_map
  refine ⟨?made, ?unshared⟩ <;> rw [h_es, List.map_append, List.map_cons]
  case made =>
    intro d h_d b h_b
    rw [List.mem_append, List.mem_cons, or_left_comm, ← List.mem_append] at h_d
    rcases h_d with rfl | h_d
    · exact ⟨(h_new h_b).1, (h_new h_b).2.2⟩
    · obtain ⟨h_key, h_lt⟩ := h.made d (h_map.subset h_d) h_b
      exact ⟨h_key, Nat.lt_of_lt_of_le h_lt h_le⟩
  case unshared =>
    rw [List.pairwise_middle Unshared.symm, List.pairwise_cons]
    refine ⟨fun d h_d b b' h_b h_b' => ?_, h.unshared.sublist h_map⟩
    -- old instances have numbers below all new ones
    have h_lt := (h.made d (h_map.subset h_d) h_b').2
    exact Nat.ne_of_gt (Nat.lt_of_lt_of_le h_lt (h_new h_b).2.1)

theorem Provenance.transition {move : Move K} (h_coh : Coherent r s) (h : Provenance s)
    (h_move : System.Transition s t move s') : Provenance s' := by
  cases h_move with
  | refuse h_free h_key =>
    refine h.of_same (congrArg _ ?_) rfl
    rw [System.trace_put, List.map_append, ← List.append_assoc, List.map_singleton, episodes_snoc,
      episodes_append_occurred]
    rfl
  | @start move key h_free h_key =>
    refine h.of_new (List.Sublist.refl ([] ++ episodes s.trace))
      (episodes_put s t s.registry _ (.began key) []) (Nat.le_refl _) ?_
    rintro b ⟨⟩
  | peek h_free =>
    exact h.of_same (congrArg _ (episodes_put s t s.registry _ (.peeked _ _) [])) rfl
  | @hit key outer b h_at h_get =>
    have h_es := episodes_put s t s.registry (.returning (.ok b) :: outer) (.looked (some b)) []
    exact h.of_same ((congrArg _ h_es).trans (map_delivery_consult ..)) rfl
  | @miss key outer h_at h_get =>
    have h_es := episodes_put s t s.registry (.creating key :: outer) (.looked none) [.entered key]
    exact h.of_same ((congrArg _ h_es).trans (map_delivery_consult ..)) rfl
  | @make key outer h_at =>
    obtain ⟨pre, e, post, h_es, h_pre, h_open, h_e, -⟩ := h_coh.exists_innermost h_at
    have h_es' := episodes_put s t (s.registry.make key).2
      (.settling (s.registry.make key).1 :: outer) (.left (.ok (s.registry.make key).1)) []
    rw [note, h_es, amend_of_isOpen _ h_pre h_open] at h_es'
    refine h.of_new ?_ h_es' (Nat.le_succ _) ?_
    · rw [h_es]
      exact (List.sublist_cons_self e post).append_left pre
    · rintro b ⟨⟩
      cases h_e
      exact ⟨rfl, Nat.le_refl _, Nat.lt_succ_self _⟩
  | @fail key outer cause h_at =>
    obtain ⟨pre, e, post, h_es, h_pre, h_open, -, -⟩ := h_coh.exists_innermost h_at
    have h_es' := episodes_put s t s.registry (.returning (.error (.creation key cause)) :: outer)
      (.left (.error cause)) (s.registry.toldFailure key cause)
    rw [note, h_es, amend_of_isOpen _ h_pre h_open] at h_es'
    refine h.of_new ?_ h_es' (Nat.le_refl _) ?_
    · rw [h_es]
      exact (List.sublist_cons_self e post).append_left pre
    · rintro b ⟨⟩
  | settle h_at =>
    exact h.of_same ((congrArg _ (episodes_put ..)).trans (map_delivery_consult ..))
      (Registry.made_settle ..)
  | measure h_at => exact h.of_same (congrArg _ (episodes_append_occurred _ t [])) rfl
  | publish h_at => exact h.of_same (congrArg _ (episodes_append_occurred _ t _)) rfl
  | @finish outcome outer h_at =>
    have h_es := episodes_put s t s.registry outer (.ended outcome) []
    exact h.of_same ((congrArg _ h_es).trans (map_delivery_finish ..)) rfl

theorem Provenance.of_run? {schedule : System.Schedule K}
    (h_run : (System.idle r).run? schedule = some s) : Provenance s := by
  refine (System.run?_invariant (P := fun s => Coherent r s ∧ Provenance s) ?_ h_run
    ⟨.idle r, ⟨fun _ h_mem => absurd h_mem List.not_mem_nil, List.Pairwise.nil⟩⟩).2
  rintro s t move s' ⟨h_coh, h⟩ h_move
  exact ⟨h_coh.transition h_move, h.transition h_coh h_move⟩

/-! ### The main theorem -/

namespace System

/-- **One breaker for each key, for good.** -/
structure OneBreakerPerKey (s : System K) : Prop where
  /-- A binding is still there after every further schedule. -/
  permanent : ∀ later s' key b, s.run? later = some s' → s.registry.get? key = some b →
    s'.registry.get? key = some b
  /-- Every call that returned a breaker returned the one that is bound to its key. -/
  returned : ∀ n t b, s.trace[n]? = some (t, .ended (.ok b)) → ∃ e ∈ episodes s.trace,
    e.thread = t ∧ e.ending = some (n, .ok b) ∧ s.registry.get? e.key = some b
  /-- Every question for a key that was answered with a breaker was answered with the bound one. -/
  answered : ∀ t key b, (t, .peeked key (some b)) ∈ s.trace → s.registry.get? key = some b
  /-- A bound breaker was made for its key, in the factory call of a call for that key. -/
  made_for_key : ∀ key b, s.registry.get? key = some b →
    b.key = key ∧ ∃ e ∈ episodes s.trace, e.key = key ∧ e.product = some (.ok b)
  /-- No two keys share an instance. -/
  unshared : ∀ key key' b b', s.registry.get? key = some b → s.registry.get? key' = some b' →
    b.serial = b'.serial → key = key'

/-- From a registry without bindings, every schedule keeps one breaker for each key: schedules of
calls, of calls for keys and of questions, in any number of threads, with factories that fail or
call the registry back. -/
theorem oneBreakerPerKey_of_run? (h_new : r.bindings = []) {schedule : Schedule K}
    (h_run : (idle r).run? schedule = some s) : OneBreakerPerKey s := by
  have h_coh := Coherent.of_run? h_run
  have h_prov := Provenance.of_run? h_run
  -- a bound breaker is the product of a call for its key, since nothing was bound at the start
  have h_made : ∀ {key b}, s.registry.get? key = some b →
      ∃ e ∈ episodes s.trace, e.key = key ∧ e.product = some (.ok b) := by
    intro key b h_get
    rcases (h_coh.bound key b).1 h_get with h_start | ⟨e, h_mem, h_key, _, _, h_b⟩
    · rw [Registry.get?, h_new] at h_start
      cases h_start
    · exact ⟨e, h_mem, h_key, h_b.2⟩
  refine ⟨?permanent, ?returned, ?answered, ?made_for_key, ?unshared⟩
  case permanent => exact fun later s' key b h_later h_get => get?_of_run? h_later h_get
  case returned =>
    intro n t b h_ended
    obtain ⟨e, h_mem, h_thread, h_ending⟩ := exists_episode_of_ended h_run h_ended
    exact ⟨e, h_mem, h_thread, h_ending,
      h_coh.get?_of_verdict h_mem (h_coh.verdict e h_mem h_ending)⟩
  case answered => exact fun t key b h_mem => get?_of_peeked h_run h_mem
  case made_for_key =>
    intro key b h_get
    obtain ⟨e, h_mem, rfl, h_product⟩ := h_made h_get
    exact ⟨(h_prov.made _ (List.mem_map_of_mem h_mem) h_product).1, e, h_mem, rfl, h_product⟩
  case unshared =>
    intro key key' b b' h_get h_get' h_serial
    obtain ⟨e, h_mem, rfl, h_product⟩ := h_made h_get
    obtain ⟨e', h_mem', rfl, h_product'⟩ := h_made h_get'
    -- calls for different keys are different calls, so their instances have different numbers
    by_contra h_ne
    have : Std.Symm (Unshared (K := K)) := ⟨fun _ _ h => h.symm⟩
    exact h_prov.unshared.forall (List.mem_map_of_mem h_mem) (List.mem_map_of_mem h_mem')
      (fun h_eq => h_ne (congrArg Prod.fst h_eq)) h_product h_product' h_serial

/-- A registry of numbered keys, without bindings. -/
def rivals : Registry Nat := { selector := fun _ => .ok 7 }

/-- Two threads miss the key 7. The factory of the first calls the registry back for the same key,
and that call binds; the other two lose. -/
def rivalry : Schedule Nat :=
  [(0, .callKey 7), (1, .callKey 7), (0, .look), (1, .look), (0, .callKey 7), (0, .look), (0, .make),
    (1, .make), (0, .settle), (0, .measure), (1, .settle), (0, .publish), (0, .finish), (0, .make),
    (0, .settle), (1, .measure), (1, .publish), (1, .finish), (0, .measure), (0, .publish),
    (0, .finish), (2, .peek 7)]

theorem oneBreakerPerKey_rivalry :
    ∃ s, rivals.bindings = [] ∧ (idle rivals).run? rivalry = some s ∧ OneBreakerPerKey s ∧
      s.outcomesOf 0 = [.ok ⟨0, 7⟩, .ok ⟨0, 7⟩] ∧ s.outcomesOf 1 = [.ok ⟨0, 7⟩] ∧
      s.registry.made = 3 :=
  have h_run : (idle rivals).run? rivalry = some _ := rfl
  ⟨_, rfl, h_run, oneBreakerPerKey_of_run? rfl h_run, rfl, rfl, rfl⟩

end System

end KeyedBreakers
