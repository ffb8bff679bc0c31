import KeyedBreakers.Proofs.Registry.MeteredRace
import KeyedBreakers.Proofs.Registry.Steps

/-!
# A registry in a session and a lone copy of it

What a registry does in a session is what a copy of it does that is all alone and makes the same steps,
with its metrics on or off. The switch shows in the updates, and in one answer: the text that describes
the registry to developers says how it is set.

* `Performance.Agree` — two performances of one step that differ in metrics only;
* `Registry.perform_withMeter`, `Registry.performAll_withMeter` — one step, and steps one after another;
* `Registry.labels_of_mem_perform` — the updates of a step are the registry's own;
* `Session.perform_elsewhere` — a step on another registry;
* `Session.copy_agrees` — the main theorem.
-/

namespace KeyedBreakers

variable {K : Type}

/-- The second performance of a step is the first one with the switch of the metrics set. -/
structure Performance.Agree (on : Bool) (step : Step K) (p q : Performance K) : Prop where
  answer : step ≠ .described → q.answer = p.answer
  /-- The description shows how the switch is set, and nothing else in it differs. -/
  described : step = .described → p.answer = .text p.registry.described ∧
    q.answer = .text (p.registry.withMeter on).described
  registry : q.registry = p.registry.withMeter on
  size : q.registry.size = p.registry.size
  events : q.trace.filterMap Occurrence.event? = p.trace.filterMap Occurrence.event?
  entered : q.trace.filterMap Occurrence.entered? = p.trace.filterMap Occurrence.entered?
  returned : q.trace.filterMap Occurrence.returned? = p.trace.filterMap Occurrence.returned?
  /-- These occur in the same order, too. -/
  trace : quiet q.trace = quiet p.trace

/-- All kinds of occurrences but updates are the same if the traces are but for updates. -/
theorem Performance.Agree.of_quiet {on : Bool} {step : Step K} {p q : Performance K}
    (h_step : step ≠ .described) (h_answer : q.answer = p.answer)
    (h_registry : q.registry = p.registry.withMeter on) (h_trace : quiet q.trace = quiet p.trace) :
    p.Agree on step q where
  answer := fun _ => h_answer
  described := fun h => absurd h h_step
  registry := h_registry
  size := by
    rw [h_registry]
    rfl
  events := filterMap_eq_of_quiet_eq (fun _ => rfl) h_trace
  entered := filterMap_eq_of_quiet_eq (fun _ => rfl) h_trace
  returned := filterMap_eq_of_quiet_eq (fun _ => rfl) h_trace
  trace := h_trace

variable [DecidableEq K] [RegistryKey K]

namespace Registry

/-! ### One step -/

/-- **A step is performed alike with and without metrics.** -/
theorem perform_withMeter (on : Bool) (r : Registry K) (step : Step K) :
    (r.perform step).Agree on step ((r.withMeter on).perform step) := by
  cases step with
  | resolve call plans =>
    have h := resolve_withMeter on plans r call
    exact .of_quiet nofun (congrArg Answer.outcome h.outcome) h.registry h.trace
  | resolveKey key plans =>
    have h := resolveKey_withMeter on plans r key
    exact .of_quiet nofun (congrArg Answer.outcome h.outcome) h.registry h.trace
  | race count call failure =>
    have h := race_withMeter on r count call failure
    refine .of_quiet nofun (congrArg Answer.outcomes ?_) h.registry h.occurrences
    exact congrArg (List.range count).flatMap (funext h.outcomes)
  | described => exact ⟨fun h => absurd rfl h, fun _ => ⟨rfl, rfl⟩, rfl, rfl, rfl, rfl, rfl, rfl⟩
  | _ => exact .of_quiet nofun rfl rfl rfl

omit [DecidableEq K] [RegistryKey K] in
/-- The description of a registry shows how the switch is set. -/
theorem described_withMeter_inj (r : Registry K) {on on' : Bool} :
    (r.withMeter on).described = (r.withMeter on').described ↔ on = on' := by
  refine ⟨fun h => ?_, fun h => by rw [h]⟩
  have h_flag : (if on then "true" else "false") = if on' then "true" else "false" := by
    have h_text := (String.append_left_inj _).1 h
    exact (String.append_right_inj _).1 h_text
  cases on <;> cases on' <;> simp_all

/-- A step changes no settings. -/
theorem settings_perform (r : Registry K) (step : Step K) :
    (r.perform step).registry.settings = r.settings := by
  cases step with
  | resolve call plans => exact settings_resolve plans r call
  | resolveKey key plans => exact settings_resolveKey plans r key
  | race count call failure =>
    exact System.race_invariant (P := fun s => s.registry.settings = r.settings)
      (fun h h_move => h_move.settings_eq.trans h) r count call failure rfl
  | _ => rfl

/-- All updates of a step are the registry's own. -/
theorem labels_of_mem_perform (r : Registry K) (step : Step K) :
    ∀ o ∈ (r.perform step).trace, r.Labels o := by
  cases step with
  | resolve call plans => exact labels_of_mem_resolve plans r call
  | resolveKey key plans => exact labels_of_mem_resolveKey plans r key
  | race count call failure => exact labels_of_mem_race r count call failure
  | _ => exact fun o h_o => nomatch h_o

/-! ### Steps one after another -/

/-- **Steps one after another are performed alike with and without metrics**, by induction on the
steps. -/
theorem performAll_withMeter (on : Bool) (steps : List (Step K)) (r : Registry K) :
    ∀ (k : Nat) (step : Step K) (p q : Performance K), steps[k]? = some step →
      (r.performAll steps)[k]? = some p → ((r.withMeter on).performAll steps)[k]? = some q →
      p.Agree on step q := by
  induction steps generalizing r with
  | nil => exact fun k step p q h_step => nomatch h_step
  | cons first steps ih =>
    have h_first := r.perform_withMeter on first
    intro k step p q h_step h_p h_q
    cases k with
    | zero =>
      obtain rfl := Option.some.inj h_step
      obtain rfl := Option.some.inj h_p
      obtain rfl := Option.some.inj h_q
      exact h_first
    | succ k =>
      -- the copy goes on from the registry with its switch set
      have h_rest : ((r.withMeter on).perform first).registry
          = (r.perform first).registry.withMeter on := h_first.registry
      rw [performAll, List.getElem?_cons_succ, h_rest] at h_q
      exact ih (r.perform first).registry k step p q h_step h_p h_q

theorem labels_of_mem_performAll (steps : List (Step K)) (r : Registry K) :
    ∀ p ∈ r.performAll steps, ∀ o ∈ p.trace, r.Labels o := by
  induction steps generalizing r with
  | nil => exact fun p h_p => nomatch h_p
  | cons step steps ih =>
    intro p h_p
    rcases List.mem_cons.1 h_p with rfl | h_p
    · exact r.labels_of_mem_perform step
    · rw [← labels_congr (r.settings_perform step)]
      exact ih _ p h_p

end Registry

namespace Session

variable {s s' : Session K} {i place : Nat} {r r' : Registry K}

/-- **A step on one registry leaves the others as they are.** -/
theorem perform_elsewhere {step : Step K} {p : Performance K} (h_place : place ≠ i)
    (h : s.perform place step = some (p, s')) : s'[i]? = s[i]? := by
  obtain ⟨r, -, h_pair⟩ := Option.map_eq_some_iff.1 h
  have h_set : s.set place (r.perform step).registry = s' := congrArg Prod.snd h_pair
  rw [← h_set]
  exact List.getElem?_set_ne h_place

omit [DecidableEq K] [RegistryKey K] in
theorem mem_atPlace {α : Type} {x : α} {xs : List (Nat × α)} (h : (place, x) ∈ xs) :
    x ∈ atPlace place xs := by
  refine List.mem_map.2 ⟨(place, x), ?_, rfl⟩
  exact List.mem_filter.2 ⟨h, decide_eq_true rfl⟩

/-- All updates of the steps on a registry are its own. -/
theorem labels_of_mem_run (h : s[place]? = some r) (steps : List (Nat × Step K))
    {p : Performance K} (h_p : (place, p) ∈ (s.run steps).1) {update : Update}
    (h_update : update ∈ p.trace.filterMap Occurrence.update?) :
    r.metered = true ∧ update.label = r.name := by
  have h_mem : p ∈ r.performAll (atPlace place steps) := by
    rw [← (run_at h steps).1]
    exact mem_atPlace h_p
  obtain ⟨o, h_o, h_some⟩ := List.mem_filterMap.1 h_update
  have h_labels := Registry.labels_of_mem_performAll (atPlace place steps) r p h_mem o h_o
  cases o with
  | updated u =>
    obtain rfl : u = update := Option.some.inj h_some
    exact h_labels
  | _ => exact nomatch h_some

/-! ### The main theorem -/

/-- The performances of steps on a registry that is alone in its session. -/
def alone (r : Registry K) (steps : List (Step K)) : List (Performance K) :=
  (Session.run [r] (steps.map fun step => (0, step))).1.map (·.2)

theorem alone_eq (r : Registry K) (steps : List (Step K)) : alone r steps = r.performAll steps := by
  rw [alone, run_singleton, List.map_map]
  exact List.map_id _

/-- What a registry does in a session is what a lone copy of it does, whose switch of the metrics is set
by `on`; and the other registries of the session leave it alone. -/
structure Separate (s : Session K) (steps : List (Nat × Step K)) (i : Nat) (r : Registry K)
    (on : Bool) : Prop where
  /-- Both perform every step on the registry. -/
  length : (atPlace i (s.run steps).1).length = (atPlace i steps).length ∧
    (alone (r.withMeter on) (atPlace i steps)).length = (atPlace i steps).length
  agree : ∀ (k : Nat) (step : Step K) (p q : Performance K), (atPlace i steps)[k]? = some step →
    (atPlace i (s.run steps).1)[k]? = some p →
    (alone (r.withMeter on) (atPlace i steps))[k]? = some q → p.Agree on step q
  /-- If the switch is set alike, the updates are the same as well. -/
  same : on = r.metered → ∀ (k : Nat) (p q : Performance K),
    (atPlace i (s.run steps).1)[k]? = some p →
    (alone (r.withMeter on) (atPlace i steps))[k]? = some q →
    q.trace.filterMap Occurrence.update? = p.trace.filterMap Occurrence.update?
  silent : on = false → ∀ q ∈ alone (r.withMeter on) (atPlace i steps),
    q.trace.filterMap Occurrence.update? = []
  /-- Wherever the run stands, a step on another registry does not touch this one, -/
  untouched : ∀ (before : List (Nat × Step K)) (place : Nat) (step : Step K) (p : Performance K)
    (s' : Session K), place ≠ i → (s.run before).2.perform place step = some (p, s') →
    s'[i]? = (s.run before).2[i]?
  /-- and its updates have that other registry's label. -/
  labels : ∀ (place : Nat) (r' : Registry K) (p : Performance K), s[place]? = some r' →
    (place, p) ∈ (s.run steps).1 → ∀ update ∈ p.trace.filterMap Occurrence.update?,
      r'.metered = true ∧ update.label = r'.name

/-- **Registries are separate, and metrics are observation only.** Whatever the registries of a session
and the steps on them, each registry does what a lone copy of it does that makes the steps on it, with
the switch of its metrics set either way. -/
theorem copy_agrees (h : s[i]? = some r) (steps : List (Nat × Step K)) (on : Bool) :
    s.Separate steps i r on := by
  have h_own : atPlace i (s.run steps).1 = r.performAll (atPlace i steps) := (run_at h steps).1
  have h_copy : alone (r.withMeter on) (atPlace i steps)
      = (r.withMeter on).performAll (atPlace i steps) := alone_eq ..
  constructor
  · rw [h_own, h_copy, Registry.length_performAll, Registry.length_performAll]
    exact ⟨rfl, rfl⟩
  · rw [h_own, h_copy]
    exact Registry.performAll_withMeter on (atPlace i steps) r
  · -- with the switch set alike the copy is the registry itself
    rintro rfl k p q h_p h_q
    rw [h_copy, Registry.withMeter_metered, ← h_own, h_p] at h_q
    rw [Option.some.inj h_q]
  · -- an update would be labelled by a registry that keeps metrics
    rintro rfl q h_q
    rw [h_copy] at h_q
    refine List.filterMap_eq_nil_iff.2 fun o h_o => ?_
    have h_labels := Registry.labels_of_mem_performAll _ _ q h_q o h_o
    cases o with
    | updated update => exact absurd h_labels.1 Bool.false_ne_true
    | _ => rfl
  · exact fun before place step p s' h_place h_perform => perform_elsewhere h_place h_perform
  · exact fun place r' p h_r' h_p update h_update => labels_of_mem_run h_r' steps h_p h_update

/-- A registry of text keys that keeps metrics. -/
def watched : Registry String := { name := "watched", selector := Selector.byOperation }

/-- A registry of text keys that keeps none. -/
def unwatched : Registry String :=
  { name := "unwatched", metered := false, selector := Selector.byOperation }

/-- Steps on both registries: a key whose factory resolves it first, the same key where no breaker can
be made, the description, and the same key again. -/
def traffic : List (Nat × Step String) :=
  [(0, .resolveKey "k" [{ reenter := some "k" }]),
   (1, .resolveKey "k" [{ failure := some "out of reach" }]),
   (0, .described),
   (0, .resolveKey "k" [])]

theorem copy_agrees_traffic :
    Session.Separate [watched, unwatched] traffic 0 watched false ∧
      (Session.atPlace 0 (Session.run [watched, unwatched] traffic).1).length = 3 := by
  have h_watched : ([watched, unwatched] : Session String)[0]? = some watched := rfl
  have h_separate := copy_agrees h_watched traffic false
  exact ⟨h_separate, h_separate.length.1⟩

/-- The answer that describes a registry is not the answer of a copy whose switch is set otherwise. -/
theorem described_withMeter_ne :
    (atPlace 0 (Session.run [watched, unwatched] [(0, .described), (1, .described)]).1).map (·.answer)
      ≠ (alone (watched.withMeter false) [.described]).map (·.answer) := by
  intro h
  have h_text : watched.described = (watched.withMeter false).described :=
    Answer.text.inj (List.cons.inj h).1
  exact absurd (watched.described_withMeter_inj.1 h_text) (by decide)

end Session

end KeyedBreakers
