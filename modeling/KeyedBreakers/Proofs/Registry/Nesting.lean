import KeyedBreakers.Proofs.Registry.Resolution
import Mathlib.Data.List.Induction

/-!
# Calls that a factory makes

A factory may resolve a key on the registry that called it, and the factory call for that key may do the
same again. So one call can hold many, each inside the next. They look their keys up on the way in, when
nothing has been bound yet, and end on the way out, the innermost first; a call that has looked its key
up and found nothing may find it bound when it comes to bind its own instance.

* `Visit` — the record of one call, and `Registry.visits`, the calls of a step as they end;
* `Visit.Ends` — the four ways in which a call can end;
* `Registry.Ending` — calls that end one after another, each on the registry as the ones before it have
  left it;
* `Registry.Ending.bindings_eq`, `.exists_winner`, `.get?_of_ok` — what such a row of calls leaves
  behind, by induction on the row;
* `Registry.trace_eq_toldByVisits` — the trace of a step, call by call.
-/

namespace KeyedBreakers

variable {K : Type}

/-- One call of a step: the call that the step makes, or one that a factory makes in it. -/
structure Visit (K : Type) where
  key : K
  /-- What the look-up of the key finds. -/
  found : Option (Breaker K)
  /-- Why the factory call fails, if there is one and it does. -/
  failure : Option String
  /-- The registry when all calls inside this one have ended. -/
  before : Registry K
  outcome : Outcome K
  /-- The registry when this call has ended. -/
  after : Registry K
  /-- What is told when the call ends. -/
  told : List (Occurrence K)

namespace Visit

/-- The breaker that the call has got, with its key. -/
def success? (v : Visit K) : Option (K × Breaker K) :=
  v.outcome.toOption.map fun b => (v.key, b)

theorem success?_of_ok {v : Visit K} {b : Breaker K} (h : v.outcome = .ok b) :
    v.success? = some (v.key, b) := by
  rw [success?, h]
  rfl

theorem success?_of_error {v : Visit K} {e : ResolveError K} (h : v.outcome = .error e) :
    v.success? = none := by
  rw [success?, h]
  rfl

variable [DecidableEq K]

/-- The call has made the instance that is bound to its key. -/
structure Wins (v : Visit K) : Prop where
  found : v.found = none
  failure : v.failure = none
  unbound : v.before.get? v.key = none

/-- **The ways in which a call can end.** It hits, and nothing is told. Otherwise the factory has been
called, and one event tells how that ended: the factory fails, and nothing changes; the key is bound by
now, and the instance is dropped for that breaker; or the instance is bound. When an instance has been
bound or dropped, the size of the registry is published. -/
inductive Ends (v : Visit K) : Prop where
  | hit {b : Breaker K} (h_found : v.found = some b) (h_outcome : v.outcome = .ok b)
      (h_after : v.after = v.before) (h_told : v.told = [])
  | fail {cause : String} (h_found : v.found = none) (h_failure : v.failure = some cause)
      (h_outcome : v.outcome = .error (.creation v.key cause)) (h_after : v.after = v.before)
      (h_told : v.told = .logged (.creationFailed v.key cause) :: v.before.counted .failures)
  | lose {winner : Breaker K} (h_found : v.found = none) (h_failure : v.failure = none)
      (h_bound : v.before.get? v.key = some winner) (h_outcome : v.outcome = .ok winner)
      (h_after : v.after = { v.before with made := v.before.made + 1 })
      (h_told : v.told = .logged (.lostRace v.key) :: v.before.counted .raceLosses
        ++ v.before.gauged v.after.size)
  | win {b : Breaker K} (h_wins : v.Wins) (h_new : b = ⟨v.before.made, v.key⟩)
      (h_outcome : v.outcome = .ok b)
      (h_after : v.after = { v.before with
        made := v.before.made + 1, bindings := v.before.bindings ++ [(v.key, b)] })
      (h_told : v.told = .logged (.created v.key) :: v.before.counted .created
        ++ v.before.gauged v.after.size)

variable {v : Visit K}

/-- A call binds its key if it wins, and changes nothing else that is bound. -/
theorem Ends.get?_after_eq_some_iff (h : v.Ends) {k : K} {b : Breaker K} :
    v.after.get? k = some b ↔ v.before.get? k = some b ∨ v.Wins ∧ v.key = k ∧ v.outcome = .ok b := by
  cases h with
  | hit h_found h_outcome h_after =>
    have h_not : ¬ v.Wins := fun h_wins => by simp [h_wins.found] at h_found
    rw [h_after]
    simp only [h_not, false_and, or_false]
  | fail h_found h_failure h_outcome h_after =>
    have h_not : ¬ v.Wins := fun h_wins => by simp [h_wins.failure] at h_failure
    rw [h_after]
    simp only [h_not, false_and, or_false]
  | lose h_found h_failure h_bound h_outcome h_after =>
    have h_not : ¬ v.Wins := fun h_wins => by simp [h_wins.unbound] at h_bound
    have h_same : v.after.get? k = v.before.get? k := by rw [h_after]; rfl
    rw [h_same]
    simp only [h_not, false_and, or_false]
  | @win b' h_wins h_new h_outcome h_after =>
    have h_get : v.after.get? k = (v.before.get? k).or (if k = v.key then some b' else none) := by
      rw [h_after, Registry.get?, List.lookup_append, List.lookup_cons, List.lookup_nil]
      by_cases h_k : k = v.key
      · rw [if_pos h_k, beq_iff_eq.2 h_k]
        rfl
      · rw [if_neg h_k, beq_false_of_ne h_k]
        rfl
    rw [h_get, h_outcome]
    by_cases h_k : k = v.key
    · subst h_k
      simp [h_wins.unbound, h_wins]
    · simp [h_k, Ne.symm h_k]

/-- The key of a call that has got a breaker is bound to it. -/
theorem Ends.get?_of_ok (h : v.Ends) {b : Breaker K} (h_ok : v.outcome = .ok b)
    (h_found : ∀ b, v.found = some b → v.before.get? v.key = some b) :
    v.after.get? v.key = some b := by
  have h_after := h.get?_after_eq_some_iff (k := v.key) (b := b)
  cases h with
  | hit h_hit h_outcome =>
    obtain rfl : _ = b := Except.ok.inj (h_outcome.symm.trans h_ok)
    exact h_after.2 (.inl (h_found _ h_hit))
  | fail h_none h_failure h_outcome => simp [h_outcome] at h_ok
  | lose h_none h_failure h_bound h_outcome =>
    obtain rfl : _ = b := Except.ok.inj (h_outcome.symm.trans h_ok)
    exact h_after.2 (.inl h_bound)
  | win h_wins h_new h_outcome => exact h_after.2 (.inr ⟨h_wins, rfl, h_ok⟩)

/-- A call that found its key has got the breaker, and nothing happens at its end. -/
theorem Ends.of_found (h : v.Ends) {b : Breaker K} (h_found : v.found = some b) :
    v.outcome = .ok b ∧ v.after = v.before ∧ v.told = [] := by
  cases h with
  | hit h_hit h_outcome h_after h_told =>
    obtain rfl : _ = b := Option.some.inj (h_hit.symm.trans h_found)
    exact ⟨h_outcome, h_after, h_told⟩
  | fail h_none => simp [h_found] at h_none
  | lose h_none => simp [h_found] at h_none
  | win h_wins => simp [h_wins.found] at h_found

/-- A call whose factory fails has got an error, and the registry stays as the calls inside it have left
it. -/
theorem Ends.of_failure (h : v.Ends) (h_found : v.found = none) {cause : String}
    (h_failure : v.failure = some cause) :
    v.outcome = .error (.creation v.key cause) ∧ v.after = v.before ∧
      v.told = .logged (.creationFailed v.key cause) :: v.before.counted .failures := by
  cases h with
  | hit h_hit => simp [h_found] at h_hit
  | fail h_none h_fails h_outcome h_after h_told =>
    obtain rfl : _ = cause := Option.some.inj (h_fails.symm.trans h_failure)
    exact ⟨h_outcome, h_after, h_told⟩
  | lose h_none h_fails => simp [h_failure] at h_fails
  | win h_wins => simp [h_wins.failure] at h_failure

/-- A call that found its key tells nothing at its end; any other call tells one event, and after it
nothing but updates. -/
theorem Ends.told_cases (h : v.Ends) :
    v.found.isNone = false ∧ v.told = [] ∨
      v.found.isNone = true ∧ ∃ event, ∃ updates : List Update,
        v.told = .logged event :: updates.map .updated := by
  cases h with
  | hit h_found h_outcome h_after h_told => exact .inl ⟨by rw [h_found]; rfl, h_told⟩
  | @fail cause h_found h_failure h_outcome h_after h_told =>
    obtain ⟨count, h_count⟩ := v.before.exists_counted_eq .failures
    refine .inr ⟨by rw [h_found]; rfl, .creationFailed v.key cause, count, ?_⟩
    rw [h_told, h_count]
  | lose h_found h_failure h_bound h_outcome h_after h_told =>
    obtain ⟨count, h_count⟩ := v.before.exists_counted_eq .raceLosses
    obtain ⟨gauge, h_gauge⟩ := v.before.exists_gauged_eq v.after.size
    refine .inr ⟨by rw [h_found]; rfl, .lostRace v.key, count ++ gauge, ?_⟩
    rw [h_told, h_count, h_gauge, List.map_append, List.cons_append]
  | win h_wins h_new h_outcome h_after h_told =>
    obtain ⟨count, h_count⟩ := v.before.exists_counted_eq .created
    obtain ⟨gauge, h_gauge⟩ := v.before.exists_gauged_eq v.after.size
    refine .inr ⟨by rw [h_wins.found]; rfl, .created v.key, count ++ gauge, ?_⟩
    rw [h_told, h_count, h_gauge, List.map_append, List.cons_append]

/-- What is told at the end of a call is no factory call. -/
theorem Ends.filterMap_entered? (h : v.Ends) : v.told.filterMap Occurrence.entered? = [] := by
  rcases h.told_cases with ⟨-, h_told⟩ | ⟨-, event, updates, h_told⟩
  · rw [h_told, List.filterMap_nil]
  · rw [h_told, List.filterMap_cons_none rfl, List.filterMap_map]
    exact List.filterMap_eq_nil_iff.2 fun u _ => rfl

/-- A call that found its key logs nothing, and any other call logs one event. -/
theorem Ends.length_filterMap_event? (h : v.Ends) :
    (v.told.filterMap Occurrence.event?).length = if v.found.isNone then 1 else 0 := by
  rcases h.told_cases with ⟨h_found, h_told⟩ | ⟨h_found, event, updates, h_told⟩
  · rw [h_told, h_found]
    rfl
  · have h_updates : (updates.map .updated).filterMap (Occurrence.event? (K := K)) = [] := by
      rw [List.filterMap_map]
      exact List.filterMap_eq_nil_iff.2 fun u _ => rfl
    have h_event : Occurrence.event? (.logged event) = some event := rfl
    rw [h_told, h_found, List.filterMap_cons_some h_event, h_updates]
    rfl

end Visit

namespace Registry

variable [DecidableEq K]

/-! ### The calls of a step -/

/-- The record of a call that ends on `r`, by what its look-up has found and how its factory call ends. -/
def visit (r : Registry K) (key : K) (found : Option (Breaker K)) (failure : Option String) :
    Visit K :=
  match found with
  | some b => ⟨key, some b, none, r, .ok b, r, []⟩
  | none =>
    let last := r.leave key failure []
    ⟨key, none, failure, r, last.outcome, last.registry, last.trace⟩

/-- The registry after calls that have ended on it in order. -/
def afterVisits (r : Registry K) (calls : List (Visit K)) : Registry K :=
  calls.foldl (fun _ v => v.after) r

/-- The calls that a step for a key makes when the factory follows the plans, in the order in which they
end. -/
def visits : List (Plan K) → Registry K → K → List (Visit K)
  | [], r, key => [r.visit key (r.get? key) none]
  | plan :: plans, r, key =>
    match r.get? key, plan.reenter with
    | none, some inner =>
      let inside := visits plans r inner
      inside ++ [(r.afterVisits inside).visit key none plan.failure]
    | found, _ => [r.visit key found plan.failure]

variable {r r' : Registry K} {key : K} {plans : List (Plan K)}

theorem visits_of_bound {b : Breaker K} (h : r.get? key = some b) (plans : List (Plan K)) :
    visits plans r key = [⟨key, some b, none, r, .ok b, r, []⟩] := by
  cases plans with
  | nil => simp only [visits, h, visit]
  | cons plan plans => simp only [visits, h, visit]

theorem visits_of_plain (h : r.get? key = none) (h_plain : plans.head?.bind (·.reenter) = none) :
    visits plans r key = [r.visit key none (plans.head?.bind (·.failure))] := by
  cases plans with
  | nil => simp only [visits, h, List.head?_nil, Option.bind_none]
  | cons plan plans =>
    have h_none : plan.reenter = none := h_plain
    simp only [visits, h, h_none, List.head?_cons, Option.bind_some]

theorem visits_of_reenter {plan : Plan K} {inner : K} (h : r.get? key = none)
    (h_inner : plan.reenter = some inner) :
    visits (plan :: plans) r key = visits plans r inner
      ++ [(r.afterVisits (visits plans r inner)).visit key none plan.failure] := by
  simp only [visits, h, h_inner]

omit [DecidableEq K] in
theorem afterVisits_concat (r : Registry K) (calls : List (Visit K)) (v : Visit K) :
    r.afterVisits (calls ++ [v]) = v.after := by
  rw [afterVisits, List.foldl_append]
  rfl

/-- A call whose key was not found ends in one of three ways. -/
theorem ends_visit_none (r : Registry K) (key : K) (failure : Option String) :
    (r.visit key none failure).Ends := by
  cases failure with
  | some cause => exact .fail rfl rfl rfl rfl rfl
  | none =>
    cases h_get : r.get? key with
    | some winner =>
      have h_leave := leave_of_bound h_get []
      refine .lose rfl rfl h_get (congrArg (·.outcome) h_leave) (congrArg (·.registry) h_leave) ?_
      have h_size : (r.leave key none []).registry.size = r.size := by rw [h_leave]; rfl
      show (r.leave key none []).trace = _ ++ r.gauged (r.leave key none []).registry.size
      rw [h_size, h_leave]
      rfl
    | none =>
      have h_leave := leave_of_unbound h_get []
      refine .win ⟨rfl, rfl, h_get⟩ rfl (congrArg (·.outcome) h_leave)
        (congrArg (·.registry) h_leave) ?_
      have h_size : (r.leave key none []).registry.size = r.size + 1 := by
        rw [h_leave]
        exact List.length_append
      show (r.leave key none []).trace = _ ++ r.gauged (r.leave key none []).registry.size
      rw [h_size, h_leave]
      rfl

/-! ### Calls that end one after another -/

/-- Calls that end in order, each on the registry as the ones before it have left it. All have looked
their keys up on `r`, as it was when the first of them ended. -/
inductive Ending (r : Registry K) : List (Visit K) → Registry K → Prop where
  | start : Ending r [] r
  | next {calls : List (Visit K)} {v : Visit K} (h_calls : Ending r calls v.before)
      (h_found : v.found = r.get? v.key) (h_ends : v.Ends) : Ending r (calls ++ [v]) v.after

theorem Ending.of_single {v : Visit K} (h_before : v.before = r) (h_found : v.found = r.get? v.key)
    (h_ends : v.Ends) : Ending r [v] v.after := by
  have h_start : Ending r [] v.before := h_before ▸ .start
  exact h_start.next h_found h_ends

/-- The calls of a step end one after another. -/
theorem ending_visits (plans : List (Plan K)) (r : Registry K) (key : K) :
    Ending r (visits plans r key) (r.afterVisits (visits plans r key)) := by
  induction plans, key using resolveKey_induction r with
  | h_hit plans key b h_get =>
    rw [visits_of_bound h_get]
    exact .of_single rfl h_get.symm (.hit rfl rfl rfl rfl)
  | h_plain plans key h_get h_plain =>
    rw [visits_of_plain h_get h_plain]
    exact .of_single rfl h_get.symm (ends_visit_none ..)
  | h_reenter plan plans key inner h_get h_inner ih =>
    rw [visits_of_reenter h_get h_inner, afterVisits_concat]
    exact .next ih h_get.symm (ends_visit_none ..)

/-! ### What a row of calls leaves behind -/

variable {calls : List (Visit K)}

/-- No binding is lost. -/
theorem Ending.get?_mono (h : Ending r calls r') {k : K} {b : Breaker K} (h_get : r.get? k = some b) :
    r'.get? k = some b := by
  induction h with
  | start => exact h_get
  | next h_calls h_found h_ends ih => exact h_ends.get?_after_eq_some_iff.2 (.inl ih)

/-- **Every new binding has a winner.** What is bound and was not bound before has been bound by one of
the calls. -/
theorem Ending.exists_winner (h : Ending r calls r') {k : K} {b : Breaker K}
    (h_get : r'.get? k = some b) :
    r.get? k = some b ∨ ∃ w ∈ calls, w.Wins ∧ w.key = k ∧ w.outcome = .ok b := by
  induction h with
  | start => exact .inl h_get
  | @next calls v h_calls h_found h_ends ih =>
    rcases h_ends.get?_after_eq_some_iff.1 h_get with h_before | h_wins
    · rcases ih h_before with h_old | ⟨w, h_w, h_wins⟩
      · exact .inl h_old
      · exact .inr ⟨w, List.mem_append_left _ h_w, h_wins⟩
    · exact .inr ⟨v, List.mem_append_right _ (List.mem_singleton_self v), h_wins⟩

/-- **What a call has got stays bound**, whatever the calls around it end with. -/
theorem Ending.get?_of_ok (h : Ending r calls r') {v : Visit K} (h_v : v ∈ calls) {b : Breaker K}
    (h_ok : v.outcome = .ok b) : r'.get? v.key = some b := by
  induction h with
  | start => cases h_v
  | @next calls last h_calls h_found h_ends ih =>
    rcases List.mem_append.1 h_v with h_v | h_v
    · exact h_ends.get?_after_eq_some_iff.2 (.inl (ih h_v))
    · obtain rfl := List.mem_singleton.1 h_v
      refine h_ends.get?_of_ok h_ok fun b h_b => h_calls.get?_mono ?_
      rw [← h_found, h_b]

/-- A row of calls may be cut at any of them. -/
theorem Ending.split {earlier later : List (Visit K)} {v : Visit K}
    (h : Ending r (earlier ++ v :: later) r') :
    Ending r earlier v.before ∧ v.found = r.get? v.key ∧ v.Ends := by
  generalize h_row : earlier ++ v :: later = row at h
  induction h generalizing later with
  | start => simp at h_row
  | @next calls last h_calls h_found h_ends ih =>
    rcases List.eq_nil_or_concat' later with rfl | ⟨later, last', rfl⟩
    · obtain ⟨rfl, h_last⟩ := List.append_inj' h_row rfl
      obtain rfl := List.singleton_inj.1 h_last
      exact ⟨h_calls, h_found, h_ends⟩
    · rw [← List.cons_append, ← List.append_assoc] at h_row
      exact ih (List.append_inj' h_row rfl).1

/-- One more binding, if the key has none. -/
def bindFirst (bindings : List (K × Breaker K)) (new : K × Breaker K) : List (K × Breaker K) :=
  if (bindings.lookup new.1).isSome then bindings else bindings ++ [new]

/-- **The first writer wins.** The bindings are those from before and, in order, what the calls have
got, as far as the key was unbound. -/
theorem Ending.bindings_eq (h : Ending r calls r') :
    r'.bindings = (calls.filterMap Visit.success?).foldl bindFirst r.bindings := by
  induction h with
  | start => rfl
  | @next calls v h_calls h_found h_ends ih =>
    -- a call that finds its key bound adds nothing
    have h_bound : ∀ {b}, v.before.get? v.key = some b → ∀ new : Breaker K,
        bindFirst v.before.bindings (v.key, new) = v.before.bindings := by
      intro b h_get new
      have h_lookup : v.before.bindings.lookup v.key = some b := h_get
      rw [bindFirst, h_lookup, Option.isSome_some, if_pos rfl]
    have h_last : (([v].filterMap Visit.success?).foldl bindFirst v.before.bindings)
        = v.after.bindings := by
      cases h_ends with
      | @hit b h_hit h_outcome h_after =>
        have h_get : v.before.get? v.key = some b := h_calls.get?_mono (by rw [← h_found, h_hit])
        rw [List.filterMap_cons_some (Visit.success?_of_ok h_outcome), h_after]
        exact h_bound h_get b
      | fail h_none h_failure h_outcome h_after =>
        rw [List.filterMap_cons_none (Visit.success?_of_error h_outcome), h_after]
        rfl
      | @lose winner h_none h_failure h_get h_outcome h_after =>
        rw [List.filterMap_cons_some (Visit.success?_of_ok h_outcome), h_after]
        exact h_bound h_get winner
      | @win b h_wins h_new h_outcome h_after =>
        have h_lookup : v.before.bindings.lookup v.key = none := h_wins.unbound
        rw [List.filterMap_cons_some (Visit.success?_of_ok h_outcome), h_after]
        simp [bindFirst, h_lookup]
    rw [List.filterMap_append, List.foldl_append, ← ih, h_last]

/-- A row of calls changes no settings. -/
theorem Ending.settings_eq (h : Ending r calls r') : r'.settings = r.settings := by
  induction h with
  | start => rfl
  | @next calls v h_calls h_found h_ends ih =>
    refine Eq.trans ?_ ih
    cases h_ends with
    | hit h_hit h_outcome h_after => rw [h_after]
    | fail h_none h_failure h_outcome h_after => rw [h_after]
    | lose h_none h_failure h_get h_outcome h_after => rw [h_after]; rfl
    | win h_wins h_new h_outcome h_after => rw [h_after]; rfl

/-- What is told of metrics on the way is told as the registry would tell it at the start. -/
theorem Ending.counted_eq (h : Ending r calls r') (metric : Metric) :
    r'.counted metric = r.counted metric :=
  counted_congr (congrArg (·.1) h.settings_eq) (congrArg (·.2.1) h.settings_eq) metric

theorem Ending.gauged_eq (h : Ending r calls r') (size : Nat) : r'.gauged size = r.gauged size :=
  gauged_congr (congrArg (·.1) h.settings_eq) (congrArg (·.2.1) h.settings_eq) size

/-! ### What the step tells of its calls -/

/-- The plans that are left over say nothing of how a call ends. -/
theorem leave_eq_leave_nil (r : Registry K) (key : K) (failure : Option String)
    (plans : List (Plan K)) :
    r.leave key failure plans = { r.leave key failure [] with plans := plans } := by
  cases failure <;> rfl

/-- The trace of a step, with its own end at the end: the factory calls on the way in, and on the way
out for each call what is told of it. -/
def toldByVisits (calls : List (Visit K)) : List (Occurrence K) :=
  ((calls.reverse.filter (·.found.isNone)).map fun v => .entered v.key) ++
    calls.flatMap fun v => v.told ++ [.returned v.outcome]

omit [DecidableEq K] in
theorem toldByVisits_concat (calls : List (Visit K)) {v : Visit K} (h : v.found = none) :
    toldByVisits (calls ++ [v]) =
      .entered v.key :: toldByVisits calls ++ (v.told ++ [.returned v.outcome]) := by
  simp [toldByVisits, h]

/-- What comes of a step is what comes of its outermost call. -/
theorem getLast?_visits (plans : List (Plan K)) (r : Registry K) (key : K) :
    ∃ v, (visits plans r key).getLast? = some v ∧ v.key = key ∧
      v.outcome = (resolveKey plans r key).outcome ∧
      v.after = (resolveKey plans r key).registry := by
  induction plans, key using resolveKey_induction r with
  | h_hit plans key b h_get =>
    rw [visits_of_bound h_get, resolveKey_of_bound h_get]
    exact ⟨_, rfl, rfl, rfl, rfl⟩
  | h_plain plans key h_get h_plain =>
    rw [visits_of_plain h_get h_plain, resolveKey_of_plain h_get h_plain, leave_eq_leave_nil]
    exact ⟨_, rfl, rfl, rfl, rfl⟩
  | h_reenter plan plans key inner h_get h_inner ih =>
    obtain ⟨w, h_w, h_key, h_outcome, h_after⟩ := ih
    obtain ⟨calls, h_calls⟩ := List.getLast?_eq_some_iff.1 h_w
    rw [visits_of_reenter h_get h_inner, resolveKey_of_reenter h_get h_inner rfl,
      leave_eq_leave_nil]
    refine ⟨_, List.getLast?_concat, rfl, ?_⟩
    rw [h_calls, afterVisits_concat, h_after]
    exact ⟨rfl, rfl⟩

/-- The registry after the calls of a step is the registry after the step. -/
theorem afterVisits_visits (plans : List (Plan K)) (r : Registry K) (key : K) :
    r.afterVisits (visits plans r key) = (resolveKey plans r key).registry := by
  obtain ⟨v, h_v, -, -, h_after⟩ := getLast?_visits plans r key
  obtain ⟨calls, h_calls⟩ := List.getLast?_eq_some_iff.1 h_v
  rw [h_calls, afterVisits_concat, h_after]

/-- The trace of a step, call by call. -/
theorem trace_eq_toldByVisits (plans : List (Plan K)) (r : Registry K) (key : K) :
    (resolveKey plans r key).trace ++ [.returned (resolveKey plans r key).outcome]
      = toldByVisits (visits plans r key) := by
  induction plans, key using resolveKey_induction r with
  | h_hit plans key b h_get =>
    rw [visits_of_bound h_get, resolveKey_of_bound h_get]
    rfl
  | h_plain plans key h_get h_plain =>
    rw [visits_of_plain h_get h_plain, resolveKey_of_plain h_get h_plain, leave_eq_leave_nil]
    rw [← List.nil_append [r.visit _ _ _], toldByVisits_concat _ rfl]
    rfl
  | h_reenter plan plans key inner h_get h_inner ih =>
    rw [visits_of_reenter h_get h_inner, toldByVisits_concat _ rfl, ← ih, afterVisits_visits,
      resolveKey_of_reenter h_get h_inner rfl, leave_eq_leave_nil]
    simp [visit]

end Registry

end KeyedBreakers
