import KeyedBreakers.Proofs.Registry.Agenda
import KeyedBreakers.Proofs.Registry.Locality
import KeyedBreakers.Proofs.Registry.Nesting
import KeyedBreakers.Proofs.Registry.Thinning
import KeyedBreakers.Proofs.Registry.Uniqueness

/-!
# What a registry shows of itself

A registry answers questions about its bindings in five ways: it looks a key up, says whether a key
has a breaker, lists its keys, counts them, and shows the count to developers. The five answers agree,
and they are a matter of history alone: the keys that have a breaker are those for which some call has
returned one, and the breaker is the one returned. It does not matter whether that call stood by itself
or was made by a factory, nor how the calls around it ended.

Between the look-up of a call and its return the bindings may be ahead of what has been returned, so
the answers are compared with history when no thread is in the middle of a call: each is in no call, or
in the factory and free to ask.

* `Registry.Shows` — the five views agree with a relation between keys and breakers;
* `System.Returned`, `Registry.successes` — what calls have returned, in a run of threads and in a run
  of steps;
* `Coherent.get?_iff_of_rest`, `Registry.get?_afterAll_iff` — what is bound is what was bound at the
  start and what has been returned;
* `Registry.views_exact` — the main theorem.
-/

namespace KeyedBreakers

variable {K : Type} [DecidableEq K]

/-! ### The views -/

namespace Registry

variable {r r' : Registry K}

/-- **The views of a registry agree with `given`**, which says what breakers its keys have been given;
and to look is to change nothing. -/
structure Shows [RegistryKey K] (r : Registry K) (given : K → Breaker K → Prop) : Prop where
  nodup : r.keys.Nodup
  /-- The keys are listed in order, none left out and none twice. -/
  sorted : r.sortedKeys.Perm r.keys
  keys : ∀ key, key ∈ r.keys ↔ ∃ b, given key b
  get : ∀ key b, r.get? key = some b ↔ given key b
  contains : ∀ key, r.contains key = true ↔ key ∈ r.keys
  size : r.size = r.keys.length
  isEmpty : r.isEmpty = true ↔ r.size = 0
  described : r.described = "KeyedBreakerRegistry \x7b name: " ++ Text.Quoted.encode r.name ++
    ", breakers: " ++ String.ofList (Text.decimal r.keys.length) ++
    ", metrics_enabled: " ++ (if r.metered then "true" else "false") ++ " \x7d"
  inert : ∀ step : Step K, step.inspects = true → ∃ answer, r.perform step = ⟨answer, r, []⟩

omit [DecidableEq K] in
theorem length_keys (r : Registry K) : r.keys.length = r.size :=
  List.length_map _

theorem contains_eq_true_iff (r : Registry K) (key : K) :
    r.contains key = true ↔ key ∈ r.keys := by
  rw [contains, List.any_eq_true, keys, List.mem_map]
  exact exists_congr fun binding => and_congr_right fun _ => decide_eq_true_iff

/-- Of the views only the look-up has to be compared with what has been given. -/
theorem Shows.of_get? [RegistryKey K] {given : K → Breaker K → Prop} (h_nodup : r.keys.Nodup)
    (h_get : ∀ key b, r.get? key = some b ↔ given key b) : r.Shows given where
  nodup := h_nodup
  sorted := List.mergeSort_perm ..
  keys key := by simp only [mem_keys_iff, h_get]
  get := h_get
  contains := r.contains_eq_true_iff
  size := r.length_keys.symm
  isEmpty := by rw [Registry.isEmpty, Registry.size, List.isEmpty_iff, List.length_eq_zero_iff]
  described := by
    rw [length_keys]
    rfl
  inert step h_inspects := by
    cases step with
    | resolve | resolveKey | race => cases h_inspects
    | _ => exact ⟨_, rfl⟩

end Registry

/-! ### Runs of threads -/

namespace System

variable {r : Registry K} {s s' : System K}

/-- A call for the key has ended and has returned the breaker. -/
def Returned (s : System K) (key : K) (b : Breaker K) : Prop :=
  ∃ e ∈ episodes s.trace, e.key = key ∧ ∃ time, e.ending = some (time, .ok b)

/-- No schedule binds a key twice. -/
theorem nodup_keys_of_run? {schedule : Schedule K} (h_run : s.run? schedule = some s')
    (h : s.registry.keys.Nodup) : s'.registry.keys.Nodup := by
  refine run?_invariant (P := fun s => s.registry.keys.Nodup) ?_ h_run h
  intro s t move s' h h_move
  cases h_move with
  | settle => exact Registry.nodup_keys_settle h _
  | _ => exact h

/-- A question is answered at any time between the calls of a thread, with what is bound, and is not
noticed by anyone. -/
theorem exists_step?_peek {t : Nat} (h_free : canStart (s.threads t) = true) (key : K) :
    ∃ s', s.step? t (.peek key) = some s' ∧ s'.registry = s.registry ∧ s'.threads = s.threads ∧
      s'.occurrences = s.occurrences ∧
      s'.trace = s.trace ++ [(t, .peeked key (s.registry.get? key))] := by
  refine ⟨_, step?_eq_some_iff.2 (.peek h_free), rfl, threads_put_threads .., ?_, rfl⟩
  rw [occurrences_put]
  exact List.append_nil _

end System

omit [DecidableEq K] in
/-- An open call of a thread is tracked by one of its stages. -/
theorem exists_tracked {es : List (Episode K)} {stages : List (Stage K)}
    (h : List.Forall₂ Tracks es stages) {e : Episode K} (h_mem : e ∈ es) :
    ∃ stage ∈ stages, Tracks e stage := by
  induction h with
  | nil => cases h_mem
  | @cons e' stage es stages h_tracks h_rest ih =>
    rcases List.mem_cons.1 h_mem with rfl | h_mem
    · exact ⟨stage, List.mem_cons_self, h_tracks⟩
    · obtain ⟨stage', h_stage', h_tracks'⟩ := ih h_mem
      exact ⟨stage', List.mem_cons_of_mem _ h_stage', h_tracks'⟩

/-- **What is bound is what was bound at the start and what calls have returned**, when every thread
could start a call. -/
theorem Coherent.get?_iff_of_rest {r : Registry K} {s : System K} (h : Coherent r s)
    (h_orderly : s.Orderly) (h_rest : ∀ t, System.canStart (s.threads t) = true) (key : K)
    (b : Breaker K) : s.registry.get? key = some b ↔ r.get? key = some b ∨ s.Returned key b := by
  constructor
  · -- what is bound has been bound by a call; it is over, or it could not have bound anything
    intro h_get
    rcases (h.bound key b).1 h_get with h_start | ⟨e, h_mem, h_key, time, -, h_binds⟩
    · exact .inl h_start
    refine .inr ⟨e, h_mem, h_key, ?_⟩
    have h_verdict : e.verdict? = some (.ok b) := by
      rw [Episode.verdict?, h_binds.1, h_binds.2]
    cases h_ending : e.ending with
    | some ending =>
      obtain ⟨ended, outcome⟩ := ending
      have h_outcome := (h.verdict e h_mem h_ending).symm.trans h_verdict
      exact ⟨ended, by rw [Option.some.inj h_outcome]⟩
    | none =>
      -- a call that is still open is in the factory, and has made no instance that it could bind
      have h_open : e ∈ (episodes s.trace).filter (·.isOpen e.thread) := by
        simp [List.mem_filter, h_mem, Episode.isOpen, h_ending]
      obtain ⟨stage, h_stage, h_tracks⟩ := exists_tracked (h.stages e.thread) h_open
      obtain ⟨key', rfl⟩ := h_orderly.creating_of_canStart (h_rest e.thread) stage h_stage
      have h_product := h_binds.2
      cases h_tracks with
      | creating h_consulted h_none => simp [h_none] at h_product
  · rintro (h_start | ⟨e, h_mem, rfl, time, h_ending⟩)
    · exact (h.bound key b).2 (.inl h_start)
    · exact h.get?_of_verdict h_mem (h.verdict e h_mem h_ending)

/-! ### Runs of steps -/

namespace Registry

variable {r r' : Registry K}

/-- The calls that a step makes, in the order in which they end: its own and those inside factories.
The calls of a race are those of its threads and do not end in one order. -/
def callsOf (r : Registry K) : Step K → List (Visit K)
  | .resolve call plans =>
    match r.selector call with
    | .ok key => visits plans r key
    | .error _ => []
  | .resolveKey key plans => visits plans r key
  | _ => []

/-- What the calls of a run of steps have got, with their keys. -/
def successes [RegistryKey K] (r : Registry K) : List (Step K) → List (K × Breaker K)
  | [] => []
  | step :: steps =>
    (r.callsOf step).filterMap Visit.success? ++ successes (r.perform step).registry steps

omit [DecidableEq K] in
/-- The calls that have got a breaker are the successes. -/
theorem mem_filterMap_success?_iff {calls : List (Visit K)} {key : K} {b : Breaker K} :
    (key, b) ∈ calls.filterMap Visit.success? ↔ ∃ v ∈ calls, v.key = key ∧ v.outcome = .ok b := by
  rw [List.mem_filterMap]
  refine exists_congr fun v => and_congr_right fun _ => ?_
  cases h : v.outcome with
  | ok b' => simp [Visit.success?_of_ok h]
  | error e => simp [Visit.success?_of_error h]

/-- After calls that have ended one after another, what is bound is what was bound before and what they
have got. -/
theorem Ending.get?_iff {calls : List (Visit K)} (h : Ending r calls r') (key : K) (b : Breaker K) :
    r'.get? key = some b ↔ r.get? key = some b ∨ (key, b) ∈ calls.filterMap Visit.success? := by
  rw [mem_filterMap_success?_iff]
  constructor
  · intro h_get
    refine (h.exists_winner h_get).imp_right ?_
    rintro ⟨v, h_v, -, h_key, h_ok⟩
    exact ⟨v, h_v, h_key, h_ok⟩
  · rintro (h_get | ⟨v, h_v, rfl, h_ok⟩)
    · exact h.get?_mono h_get
    · exact h.get?_of_ok h_v h_ok

theorem nodup_keys_leave (h : r.keys.Nodup) (key : K) (failure : Option String)
    (plans : List (Plan K)) : (r.leave key failure plans).registry.keys.Nodup := by
  cases failure with
  | some cause => exact h
  | none => exact nodup_keys_settle (r := (r.make key).2) h ⟨r.made, key⟩

theorem nodup_keys_resolveKey (h : r.keys.Nodup) (plans : List (Plan K)) (key : K) :
    (resolveKey plans r key).registry.keys.Nodup := by
  induction plans, key using resolveKey_induction r with
  | h_hit plans key b h_get => rwa [resolveKey_of_bound h_get]
  | h_plain plans key h_get h_plain =>
    rw [resolveKey_of_plain h_get h_plain]
    exact nodup_keys_leave h ..
  | h_reenter plan plans key inner h_get h_inner ih =>
    rw [resolveKey_of_reenter h_get h_inner rfl]
    exact nodup_keys_leave ih ..

variable [RegistryKey K]

/-- **One step**: it binds what its calls get, and no key twice. -/
theorem perform_of_not_race {step : Step K} (h_race : step.isRace = false) (h : r.keys.Nodup) :
    (r.perform step).registry.keys.Nodup ∧ ∀ key b, (r.perform step).registry.get? key = some b ↔
      r.get? key = some b ∨ (key, b) ∈ (r.callsOf step).filterMap Visit.success? := by
  -- both steps that call end in a call for a key
  have h_resolveKey : ∀ plans k, (resolveKey plans r k).registry.keys.Nodup ∧
      ∀ key b, (resolveKey plans r k).registry.get? key = some b ↔
        r.get? key = some b ∨ (key, b) ∈ (visits plans r k).filterMap Visit.success? := by
    intro plans k
    refine ⟨nodup_keys_resolveKey h plans k, ?_⟩
    rw [← afterVisits_visits]
    exact (ending_visits plans r k).get?_iff
  cases step with
  | resolveKey k plans => exact h_resolveKey plans k
  | resolve call plans =>
    simp only [perform, resolve, callsOf, Report.performance]
    cases r.selector call with
    | ok k => exact h_resolveKey plans k
    | error cause => exact ⟨h, by simp⟩
  | race => cases h_race
  | _ => exact ⟨h, fun key b => by simp [callsOf, perform, look]⟩

/-- **A run of steps**, by induction on the run. -/
theorem afterAll_of_not_race {steps : List (Step K)}
    (h_race : ∀ step ∈ steps, step.isRace = false) (h : r.keys.Nodup) :
    (r.afterAll steps).keys.Nodup ∧ ∀ key b, (r.afterAll steps).get? key = some b ↔
      r.get? key = some b ∨ (key, b) ∈ r.successes steps := by
  induction steps generalizing r with
  | nil => exact ⟨h, fun key b => by simp [afterAll, successes]⟩
  | cons step steps ih =>
    obtain ⟨h_first, h_get⟩ := perform_of_not_race (h_race step List.mem_cons_self) h
    obtain ⟨h_nodup, h_rest⟩ := ih (fun s h_s => h_race s (List.mem_cons_of_mem _ h_s)) h_first
    refine ⟨h_nodup, fun key b => ?_⟩
    calc (r.afterAll (step :: steps)).get? key = some b
        ↔ (r.perform step).registry.get? key = some b ∨
            (key, b) ∈ (r.perform step).registry.successes steps := h_rest key b
      _ ↔ (r.get? key = some b ∨ (key, b) ∈ (r.callsOf step).filterMap Visit.success?) ∨
            (key, b) ∈ (r.perform step).registry.successes steps := by rw [h_get]
      _ ↔ r.get? key = some b ∨ (key, b) ∈ r.successes (step :: steps) := by
          rw [successes, List.mem_append, or_assoc]

/-! ### The main theorem -/

/-- **Introspection is exact.** From a registry without bindings, whatever is called in whatever way:

* by threads at the same time, with factories that fail or call the registry back, whenever every
  thread could start a call, the views show what calls have returned, and a question does nothing but
  answer;
* by steps one after another, through the mapping or not, the views show after them what the calls of
  the steps have got, those inside factories among them. -/
theorem views_exact (h_new : r.bindings = []) :
    (∀ (schedule : System.Schedule K) s, (System.idle r).run? schedule = some s →
      (∀ t, System.canStart (s.threads t) = true) →
        s.registry.Shows s.Returned ∧
        ∀ t key, ∃ s', s.step? t (.peek key) = some s' ∧ s'.registry = s.registry ∧
          s'.threads = s.threads ∧ s'.occurrences = s.occurrences ∧
          s'.trace = s.trace ++ [(t, .peeked key (s.registry.get? key))]) ∧
    ∀ steps : List (Step K), (∀ step ∈ steps, step.isRace = false) →
      (r.afterAll steps).Shows fun key b => (key, b) ∈ r.successes steps := by
  have h_nodup : r.keys.Nodup := by
    rw [keys, h_new]
    exact List.nodup_nil
  have h_none : ∀ key b, r.get? key ≠ some b := by
    intro key b h_get
    rw [get?, h_new] at h_get
    cases h_get
  refine ⟨fun schedule s h_run h_rest => ⟨?_, fun t key => ?_⟩, fun steps h_race => ?_⟩
  · -- the registry starts without bindings, so all that is bound has been returned
    refine .of_get? (System.nodup_keys_of_run? h_run h_nodup) fun key b => ?_
    have h_orderly := System.run?_invariant System.Orderly.transition h_run (.idle h_new)
    rw [(Coherent.of_run? h_run).get?_iff_of_rest h_orderly h_rest, or_iff_right (h_none key b)]
  · exact System.exists_step?_peek (h_rest t) key
  · obtain ⟨h_keys, h_get⟩ := afterAll_of_not_race h_race h_nodup
    refine .of_get? h_keys fun key b => ?_
    rw [h_get, or_iff_right (h_none key b)]

/-- The factory of thread 0 binds "b" by a call of its own and fails then. Threads 1 and 2 both make an
instance for "c", and thread 1 loses. Thread 3 is still in the factory for "d". -/
def crossing : System.Schedule String :=
  [(0, .callKey "a"), (0, .look), (0, .callKey "b"), (0, .look), (0, .make), (0, .settle),
    (0, .measure), (0, .publish), (0, .finish), (0, .fail "full"), (0, .finish),
    (1, .callKey "c"), (2, .callKey "c"), (1, .look), (2, .look), (1, .make), (2, .make),
    (2, .settle), (2, .measure), (2, .publish), (2, .finish), (1, .settle), (1, .measure),
    (1, .publish), (1, .finish), (3, .callKey "d"), (3, .look)]

/-- The same keys by steps: the call inside the first step succeeds, and the last step has no key. -/
def crossingSteps : List (Step String) :=
  [.resolveKey "a" [{ reenter := some "b", failure := some "full" }], .contains "a",
    .resolveKey "c" [{ reenter := some "c" }], .keys, .resolve (callOf "") []]

theorem views_exact_crossing :
    edge.bindings = [] ∧
      (∃ s, (System.idle edge).run? crossing = some s ∧
        (∀ t, System.canStart (s.threads t) = true) ∧ s.registry.Shows s.Returned ∧
        s.registry.keys = ["b", "c"] ∧ s.registry.get? "c" = some ⟨2, "c"⟩ ∧
        s.registry.made = 3) ∧
      (∀ step ∈ crossingSteps, step.isRace = false) ∧
      (edge.afterAll crossingSteps).Shows
        (fun key b => (key, b) ∈ edge.successes crossingSteps) ∧
      edge.successes crossingSteps = [("b", ⟨0, "b"⟩), ("c", ⟨1, "c"⟩), ("c", ⟨1, "c"⟩)] := by
  have h_run : (System.idle edge).run? crossing = some _ := rfl
  have h_rest : ∀ s, (System.idle edge).run? crossing = some s →
      ∀ t, System.canStart (s.threads t) = true := by
    intro s h_run t
    obtain rfl := Option.some.inj (h_run.symm.trans rfl)
    rcases t with _ | _ | _ | _ | t <;> rfl
  have h_race : ∀ step ∈ crossingSteps, step.isRace = false := by decide
  obtain ⟨h_threads, h_steps⟩ := views_exact (r := edge) rfl
  exact ⟨rfl, ⟨_, h_run, h_rest _ h_run, (h_threads crossing _ h_run (h_rest _ h_run)).1, rfl, rfl,
    rfl⟩, h_race, h_steps crossingSteps h_race, rfl⟩

end Registry

end KeyedBreakers
