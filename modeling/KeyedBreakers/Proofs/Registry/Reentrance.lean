import KeyedBreakers.Proofs.Registry.Nesting

/-!
# Creation with factories that call back

A factory may resolve any key on the registry that called it, the key that is being created among them,
and so on as deep as the plans go. Then the look-up of the outer call is out of date when it comes to
bind its instance. This module says what a step with such factories comes to, in terms of its calls.

* `Registry.Follows`, `Registry.follows_visits` — which calls the plans ask for, by induction on how
  deep they go;
* `Registry.Ending.failed`, `Registry.Ending.lost`, `Registry.Ending.won` — how a call ends; whether it
  binds its instance is up to the calls inside it;
* `Registry.Unfolds` — which calls a step makes, how each of them ends, and what the step leaves;
* `Registry.reentrant_creation` — the main theorem: every step unfolds so.
-/

namespace KeyedBreakers

variable {K : Type} [DecidableEq K]

namespace Registry

variable {r r' : Registry K} {key : K} {plans : List (Plan K)} {calls : List (Visit K)}

/-! ### Which calls the plans ask for -/

/-- **The calls follow the plans.** From the outside in, the first call is for the key of the step and
each call after it for the key that the next plan has its factory resolve. -/
structure Follows (plans : List (Plan K)) (r : Registry K) (key : K) (calls : List (Visit K)) :
    Prop where
  nonempty : calls ≠ []
  keys : calls.reverse.map (fun v => some v.key) =
    (some key :: plans.map (·.reenter)).take calls.length
  /-- All look-ups are made before any of the calls binds a key. -/
  found : ∀ v ∈ calls, v.found = r.get? v.key
  /-- A call has a call inside it only if its own look-up finds nothing, -/
  nested : ∀ v ∈ calls.tail, v.found = none
  /-- and then it has one if its plan says so. -/
  innermost : ∀ v, calls.head? = some v → v.found = none →
    plans[calls.length - 1]?.bind (·.reenter) = none
  failures : ∀ (i : Nat) (v : Visit K), calls.reverse[i]? = some v → v.found = none →
    v.failure = plans[i]?.bind (·.failure)

/-- There is at most one call more than there are plans. -/
theorem Follows.length_le (h : Follows plans r key calls) : calls.length ≤ plans.length + 1 := by
  have h_length := congrArg List.length h.keys
  simp only [List.length_map, List.length_reverse, List.length_take, List.length_cons] at h_length
  omega

/-- A call with no call inside it. -/
theorem Follows.of_single {v : Visit K} (h_found : v.found = r.get? v.key)
    (h_plan : v.found = none → plans.head?.bind (·.reenter) = none ∧
      v.failure = plans.head?.bind (·.failure)) : Follows plans r v.key [v] where
  nonempty := List.cons_ne_nil v []
  keys := rfl
  found := by
    intro w h_w
    rw [List.mem_singleton.1 h_w, h_found]
  nested := fun w h_w => nomatch h_w
  innermost := by
    intro w h_w h_none
    obtain rfl : v = w := Option.some.inj h_w
    rw [List.length_singleton, ← List.head?_eq_getElem?]
    exact (h_plan h_none).1
  failures := by
    intro i w h_w h_none
    obtain ⟨rfl, rfl⟩ : i = 0 ∧ v = w := by simpa [List.getElem?_singleton] using h_w
    rw [← List.head?_eq_getElem?]
    exact (h_plan h_none).2

/-- A call around the calls that its factory leads to. -/
theorem Follows.around {plan : Plan K} {inner : K} (h : Follows plans r inner calls)
    (h_inner : plan.reenter = some inner) {v : Visit K} (h_get : r.get? v.key = none)
    (h_found : v.found = none) (h_failure : v.failure = plan.failure) :
    Follows (plan :: plans) r v.key (calls ++ [v]) where
  nonempty := List.append_ne_nil_of_right_ne_nil calls (List.cons_ne_nil v [])
  keys := by
    rw [List.reverse_append, List.length_append, List.reverse_singleton, List.singleton_append,
      List.map_cons, List.map_cons, h_inner, h.keys]
    rfl
  found := by
    intro w h_w
    rcases List.mem_append.1 h_w with h_w | h_w
    · exact h.found w h_w
    · rw [List.mem_singleton.1 h_w, h_found, h_get]
  nested := by
    intro w h_w
    rw [List.tail_append_of_ne_nil h.nonempty] at h_w
    rcases List.mem_append.1 h_w with h_w | h_w
    · exact h.nested w h_w
    · rw [List.mem_singleton.1 h_w, h_found]
  innermost := by
    intro w h_w h_none
    have h_head : calls.head? = some w := by
      rw [← h_w, List.head?_append_of_ne_nil _ h.nonempty]
    -- the innermost plan is the same one, one place further down
    have h_length : (calls ++ [v]).length - 1 = calls.length - 1 + 1 := by
      have h_pos := List.length_pos_iff.2 h.nonempty
      rw [List.length_append, List.length_singleton]
      omega
    rw [h_length, List.getElem?_cons_succ]
    exact h.innermost w h_head h_none
  failures := by
    intro i w h_w h_none
    rw [List.reverse_append, List.reverse_singleton, List.singleton_append] at h_w
    cases i with
    | zero =>
      obtain rfl : v = w := Option.some.inj h_w
      exact h_failure
    | succ i => exact h.failures i w h_w h_none

/-- The calls of a step follow its plans. -/
theorem follows_visits (plans : List (Plan K)) (r : Registry K) (key : K) :
    Follows plans r key (visits plans r key) := by
  induction plans, key using resolveKey_induction r with
  | h_hit plans key b h_get =>
    rw [visits_of_bound h_get]
    exact .of_single (v := ⟨key, _, _, _, _, _, _⟩) h_get.symm nofun
  | h_plain plans key h_get h_plain =>
    rw [visits_of_plain h_get h_plain]
    exact .of_single (v := r.visit key none _) h_get.symm fun _ => ⟨h_plain, rfl⟩
  | h_reenter plan plans key inner h_get h_inner ih =>
    rw [visits_of_reenter h_get h_inner]
    exact ih.around (v := Registry.visit _ key none _) h_inner h_get rfl rfl

/-! ### How a call ends, by the calls inside it -/

/-- A call whose factory fails tells so, and the calls inside it keep what they have got. -/
theorem Ending.failed {inside outside : List (Visit K)} {v : Visit K}
    (h : Ending r (inside ++ v :: outside) r') (h_found : v.found = none) {cause : String}
    (h_failure : v.failure = some cause) :
    v.outcome = .error (.creation v.key cause) ∧ v.after = v.before ∧
      v.told = .logged (.creationFailed v.key cause) ::
        if r.metered then [.updated ⟨.failures, r.name, 1⟩] else [] := by
  obtain ⟨h_inside, -, h_ends⟩ := h.split
  obtain ⟨h_outcome, h_after, h_told⟩ := h_ends.of_failure h_found h_failure
  rw [h_inside.counted_eq] at h_told
  exact ⟨h_outcome, h_after, h_told⟩

/-- **A call loses to a call inside it.** If a call that this one holds has bound the key, the instance
of this one is dropped, and it gets the instance of the other. -/
theorem Ending.lost {inside outside : List (Visit K)} {v w : Visit K}
    (h : Ending r (inside ++ v :: outside) r') (h_found : v.found = none)
    (h_failure : v.failure = none) (h_w : w ∈ inside) (h_wins : w.Wins) (h_key : w.key = v.key) :
    v.outcome = w.outcome ∧ v.after.bindings = v.before.bindings ∧
      v.told = .logged (.lostRace v.key) :: if r.metered then
        [.updated ⟨.raceLosses, r.name, 1⟩, .updated ⟨.size, r.name, v.after.size⟩] else [] := by
  obtain ⟨h_inside, -, h_ends⟩ := h.split
  obtain ⟨before, later, h_split⟩ := List.append_of_mem h_w
  -- the call that has bound the key has got the instance that it bound
  obtain ⟨b, h_ok⟩ : ∃ b, w.outcome = .ok b := by
    rw [h_split] at h_inside
    cases h_inside.split.2.2 with
    | hit h_hit => simp [h_wins.found] at h_hit
    | fail h_none h_fails => simp [h_wins.failure] at h_fails
    | lose h_none h_fails h_bound => simp [h_wins.unbound] at h_bound
    | win h_wins h_new h_outcome => exact ⟨_, h_outcome⟩
  have h_bound : v.before.get? v.key = some b := by
    rw [← h_key]
    exact h_inside.get?_of_ok h_w h_ok
  -- so of the four ways in which this call can end only one is left
  cases h_ends with
  | hit h_hit => simp [h_found] at h_hit
  | fail h_none h_fails => simp [h_failure] at h_fails
  | @lose winner h_none h_fails h_winner h_outcome h_after h_told =>
    obtain rfl : winner = b := Option.some.inj (h_winner.symm.trans h_bound)
    rw [h_outcome, h_ok, h_told, h_inside.counted_eq, h_inside.gauged_eq, List.cons_append,
      Registry.counted_append_gauged, h_after]
    exact ⟨rfl, rfl, rfl⟩
  | win h_wins => simp [h_wins.unbound] at h_bound

/-- **A call wins if no call inside it has.** -/
theorem Ending.won {inside outside : List (Visit K)} {v : Visit K}
    (h : Ending r (inside ++ v :: outside) r') (h_found : v.found = none)
    (h_failure : v.failure = none) (h_none : ∀ w ∈ inside, w.Wins → w.key ≠ v.key) :
    v.Wins ∧ v.outcome = .ok ⟨v.before.made, v.key⟩ ∧
      v.after.bindings = v.before.bindings ++ [(v.key, ⟨v.before.made, v.key⟩)] ∧
      v.told = .logged (.created v.key) :: if r.metered then
        [.updated ⟨.created, r.name, 1⟩, .updated ⟨.size, r.name, v.after.size⟩] else [] := by
  obtain ⟨h_inside, h_look, h_ends⟩ := h.split
  cases h_ends with
  | hit h_hit => simp [h_found] at h_hit
  | fail h_absent h_fails => simp [h_failure] at h_fails
  | @lose winner h_absent h_fails h_bound =>
    -- what is bound by now was bound before, or one of the calls inside has bound it
    rcases h_inside.exists_winner h_bound with h_old | ⟨w, h_w, h_wins, h_key, -⟩
    · simp [← h_look, h_found] at h_old
    · exact absurd h_key (h_none w h_w h_wins)
  | win h_wins h_new h_outcome h_after h_told =>
    rw [h_outcome, h_told, h_inside.counted_eq, h_inside.gauged_eq, List.cons_append,
      Registry.counted_append_gauged, h_after, h_new]
    exact ⟨h_wins, rfl, rfl, rfl⟩

/-! ### The step as a whole -/

theorem Ending.afterVisits_eq (h : Ending r calls r') : r.afterVisits calls = r' := by
  cases h with
  | start => rfl
  | next h_calls h_found h_ends => exact afterVisits_concat ..

/-- Every factory call uses up a plan. -/
theorem plans_resolveKey (plans : List (Plan K)) (r : Registry K) (key : K) :
    (resolveKey plans r key).plans
      = plans.drop ((visits plans r key).countP (·.found.isNone)) := by
  induction plans, key using resolveKey_induction r with
  | h_hit plans key b h_get =>
    rw [visits_of_bound h_get, resolveKey_of_bound h_get]
    rfl
  | h_plain plans key h_get h_plain =>
    rw [visits_of_plain h_get h_plain, resolveKey_of_plain h_get h_plain]
    exact (plans_leave ..).trans List.drop_one.symm
  | h_reenter plan plans key inner h_get h_inner ih =>
    rw [visits_of_reenter h_get h_inner, resolveKey_of_reenter h_get h_inner rfl,
      List.countP_append]
    exact (plans_leave ..).trans ih

/-- **How a step unfolds when factories call back.** `calls` are the calls of a step in the order in
which they end, which is from the inside out, and `report` is what comes of the step. -/
structure Unfolds (plans : List (Plan K)) (r : Registry K) (key : K) (calls : List (Visit K))
    (report : Report K) : Prop where
  follows : Follows plans r key calls
  /-- The step comes to an end after at most one call more than there are plans. -/
  bounded : calls.length ≤ plans.length + 1
  /-- The last call to end is the one that the step makes. -/
  outermost : ∃ v, calls.getLast? = some v ∧ v.key = key ∧ v.outcome = report.outcome ∧
    v.after = report.registry
  /-- Each call ends on what the calls inside it have left. -/
  before : ∀ inside v outside, calls = inside ++ v :: outside → v.before = r.afterVisits inside
  hit : ∀ v ∈ calls, ∀ b, v.found = some b → v.outcome = .ok b ∧ v.after = v.before ∧ v.told = []
  /-- A call whose factory fails takes back nothing of what the calls inside it have done. -/
  failed : ∀ v ∈ calls, v.found = none → ∀ cause, v.failure = some cause →
    v.outcome = .error (.creation v.key cause) ∧ v.after = v.before ∧
      v.told = .logged (.creationFailed v.key cause) ::
        if r.metered then [.updated ⟨.failures, r.name, 1⟩] else []
  /-- If a call inside it has bound the key, a call loses and gets the instance of that call. -/
  lost : ∀ inside v outside, calls = inside ++ v :: outside → v.found = none → v.failure = none →
    ∀ w ∈ inside, w.Wins → w.key = v.key →
      v.outcome = w.outcome ∧ v.after.bindings = v.before.bindings ∧
        v.told = .logged (.lostRace v.key) :: if r.metered then
          [.updated ⟨.raceLosses, r.name, 1⟩, .updated ⟨.size, r.name, v.after.size⟩] else []
  /-- Otherwise it wins, and its own instance is bound. -/
  won : ∀ inside v outside, calls = inside ++ v :: outside → v.found = none → v.failure = none →
    (∀ w ∈ inside, w.Wins → w.key ≠ v.key) →
      v.Wins ∧ v.outcome = .ok ⟨v.before.made, v.key⟩ ∧
        v.after.bindings = v.before.bindings ++ [(v.key, ⟨v.before.made, v.key⟩)] ∧
        v.told = .logged (.created v.key) :: if r.metered then
          [.updated ⟨.created, r.name, 1⟩, .updated ⟨.size, r.name, v.after.size⟩] else []
  /-- The first writer wins: the bindings are extended by what the calls have got, in order. -/
  bindings : report.registry.bindings
    = (calls.filterMap Visit.success?).foldl bindFirst r.bindings
  /-- What a call has got is bound at the end of the step. -/
  kept : ∀ v ∈ calls, ∀ b, v.outcome = .ok b → report.registry.get? v.key = some b
  trace : report.trace ++ [.returned report.outcome] = toldByVisits calls
  /-- The factory is called once for each call that has found nothing, and for no other. -/
  entered : report.trace.filterMap Occurrence.entered?
    = (calls.reverse.filter (·.found.isNone)).map (·.key)
  /-- Just as many events are logged: one at the end of each such call. -/
  events : report.trace.filterMap Occurrence.event?
    = calls.flatMap fun v => v.told.filterMap Occurrence.event?
  events_one : ∀ v ∈ calls, (v.told.filterMap Occurrence.event?).length
    = if v.found.isNone then 1 else 0
  /-- Plans that no factory call has used up are left over. -/
  left : report.plans = plans.drop (calls.countP (·.found.isNone))

omit [DecidableEq K] in
/-- A kind of occurrence in the trace of a step, call by call. -/
theorem filterMap_toldByVisits {α : Type} {f : Occurrence K → Option α}
    (h_returned : ∀ outcome, f (.returned outcome) = none) (calls : List (Visit K)) :
    (toldByVisits calls).filterMap f =
      ((calls.reverse.filter (·.found.isNone)).filterMap fun v => f (.entered v.key)) ++
        calls.flatMap fun v => v.told.filterMap f := by
  have h_call : (fun v : Visit K => (v.told ++ [Occurrence.returned v.outcome]).filterMap f)
      = fun v => v.told.filterMap f := by
    funext v
    rw [List.filterMap_append, List.filterMap_cons_none (h_returned _), List.filterMap_nil,
      List.append_nil]
  rw [toldByVisits, List.filterMap_append, List.filterMap_map, List.filterMap_flatMap, h_call]
  rfl

/-- **Creation with factories that call back.** Whatever the state of a registry, the key, and what
the factory is to do each time it is called, a step for the key comes to an end, and it unfolds so. -/
theorem reentrant_creation (plans : List (Plan K)) (r : Registry K) (key : K) :
    Unfolds plans r key (visits plans r key) (resolveKey plans r key) := by
  have h_ending := ending_visits plans r key
  have h_split : ∀ inside v outside, visits plans r key = inside ++ v :: outside →
      Ending r inside v.before ∧ v.Ends := by
    intro inside v outside h_calls
    rw [h_calls] at h_ending
    exact ⟨h_ending.split.1, h_ending.split.2.2⟩
  have h_ends : ∀ v ∈ visits plans r key, v.Ends := by
    intro v h_v
    obtain ⟨inside, outside, h_calls⟩ := List.append_of_mem h_v
    exact (h_split inside v outside h_calls).2
  -- the end of the step itself is neither a factory call nor an event
  have h_trace : ∀ {α : Type} {f : Occurrence K → Option α}, (∀ outcome, f (.returned outcome) = none) →
      (resolveKey plans r key).trace.filterMap f = (toldByVisits (visits plans r key)).filterMap f := by
    intro α f h_returned
    rw [← trace_eq_toldByVisits, List.filterMap_append, List.filterMap_cons_none (h_returned _),
      List.filterMap_nil, List.append_nil]
  refine
    { follows := follows_visits plans r key
      bounded := (follows_visits plans r key).length_le
      outermost := getLast?_visits plans r key
      before := fun inside v outside h_calls =>
        (h_split inside v outside h_calls).1.afterVisits_eq.symm
      hit := ?_
      failed := ?_
      lost := ?_
      won := ?_
      bindings := ?_
      kept := ?_
      trace := trace_eq_toldByVisits plans r key
      entered := ?_
      events := ?_
      events_one := fun v h_v => (h_ends v h_v).length_filterMap_event?
      left := plans_resolveKey plans r key }
  · intro v h_v b h_found
    exact (h_ends v h_v).of_found h_found
  · intro v h_v h_found cause h_failure
    obtain ⟨inside, outside, h_calls⟩ := List.append_of_mem h_v
    rw [h_calls] at h_ending
    exact h_ending.failed h_found h_failure
  · -- whether a call wins or loses is read off the calls inside it, which end before it
    intro inside v outside h_calls h_found h_failure w h_w h_wins h_key
    rw [h_calls] at h_ending
    exact h_ending.lost h_found h_failure h_w h_wins h_key
  · intro inside v outside h_calls h_found h_failure h_none
    rw [h_calls] at h_ending
    exact h_ending.won h_found h_failure h_none
  · rw [← afterVisits_visits]
    exact h_ending.bindings_eq
  · intro v h_v b h_ok
    rw [← afterVisits_visits]
    exact h_ending.get?_of_ok h_v h_ok
  · -- a factory call is told of on the way in and at no end of a call
    have h_none : (visits plans r key).flatMap (fun v => v.told.filterMap Occurrence.entered?) = [] :=
      List.flatMap_eq_nil_iff.2 fun v h_v => (h_ends v h_v).filterMap_entered?
    rw [h_trace fun _ => rfl, filterMap_toldByVisits fun _ => rfl, h_none, List.append_nil]
    exact congrFun List.filterMap_eq_map _
  · have h_none : ((visits plans r key).reverse.filter (·.found.isNone)).filterMap
        (fun v => Occurrence.event? (.entered v.key)) = [] :=
      List.filterMap_eq_nil_iff.2 fun v _ => rfl
    rw [h_trace fun _ => rfl, filterMap_toldByVisits fun _ => rfl, h_none, List.nil_append]

/-- The factory for a key resolves the same key first: the call inside binds its instance, and the call
outside drops its own. -/
example : ((resolveKey [{ reenter := some "k" }]
      ({ selector := Selector.byOperation } : Registry String) "k").trace.filterMap
        Occurrence.event?) = [.created "k", .lostRace "k"] := rfl

end Registry

end KeyedBreakers
