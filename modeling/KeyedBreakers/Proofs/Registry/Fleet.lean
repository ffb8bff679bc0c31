import KeyedBreakers.Proofs.Registry.Balance
import Mathlib.Algebra.BigOperators.Group.Finset.Piecewise
import Mathlib.Data.Fintype.Basic
import Mathlib.Algebra.GroupWithZero.Nat

/-!
# Several registries that publish to one place

A program may have many registries, each with keys of its own type. They share no state, but the
metrics of all of them are kept in one place, where only the name of a registry tells them apart; two
registries of one name count together. A fleet is a family of registries that any threads call, with
all updates of metrics in the order in which they are published.

* `Fleet.step?`, `Fleet.run?` — one move on one registry, and a schedule of such moves;
* `Fleet.Accounted` — each registry is as its own schedule leaves it, and what is published is what
  the registries have published;
* `Fleet.creations_conserved` — the books balance: when no call is in progress, factory calls, events,
  sizes and counters agree.
-/

namespace KeyedBreakers

/-- Registries that are called at the same time, and the place to which all of them publish. -/
structure Fleet {ι : Type} (K : ι → Type) where
  systems : (i : ι) → System (K i)
  /-- All updates of metrics, in order. -/
  published : List Update

namespace Fleet

variable {ι : Type} {K : ι → Type}

/-- Registries that no thread is calling. -/
def idle (registries : (i : ι) → Registry (K i)) : Fleet K := ⟨fun i => .idle (registries i), []⟩

/-- What a counter shows under a label: the sum of its increments. -/
def counter (f : Fleet K) (metric : Metric) (label : String) : Nat :=
  (f.published.map (·.amountFor metric label)).sum

variable [DecidableEq ι]

/-- The fleet after a move on one registry that leads to the given system: the registry has moved, and
what it has published since is published. -/
def put (f : Fleet K) (i : ι) (s : System (K i)) : Fleet K where
  systems := Function.update f.systems i s
  published := f.published ++ (s.trace.drop (f.systems i).trace.length).filterMap (·.2.update?)

variable [∀ i, DecidableEq (K i)]

/-- The fleet after a thread has made a move on a registry; none if it cannot make it. -/
def step? (f : Fleet K) (i : ι) (t : Nat) (move : Move (K i)) : Option (Fleet K) :=
  ((f.systems i).step? t move).map (f.put i)

/-- On which registry which thread moves next, and how, in order. -/
abbrev Schedule (K : ι → Type) := List ((i : ι) × Nat × Move (K i))

/-- The fleet after a schedule; none if some thread cannot make its move. -/
def run? (f : Fleet K) (schedule : Schedule K) : Option (Fleet K) :=
  schedule.foldlM (fun f step => f.step? step.1 step.2.1 step.2.2) f

/-! ### What a schedule keeps -/

/-- What every move on every registry keeps, every schedule keeps. -/
theorem run?_invariant {P : Fleet K → Prop}
    (h_step : ∀ {f i t move s}, P f → (f.systems i).step? t move = some s → P (f.put i s))
    {f f' : Fleet K} {schedule : Schedule K} (h_run : f.run? schedule = some f') (h : P f) :
    P f' := by
  induction schedule generalizing f with
  | nil => cases h_run; exact h
  | cons head rest ih =>
    obtain ⟨i, t, move⟩ := head
    rw [run?, List.foldlM_cons] at h_run
    obtain ⟨f₁, h_head, h_rest⟩ := Option.bind_eq_some_iff.1 h_run
    obtain ⟨s, h_move, rfl⟩ := Option.map_eq_some_iff.1 h_head
    exact ih h_rest (h_step h h_move)

variable [Fintype ι]

/-- Each registry is as a schedule of its own leaves it, and what is published is what the registries
have published. -/
structure Accounted (registries : (i : ι) → Registry (K i)) (f : Fleet K) : Prop where
  reached : ∀ i, ∃ schedule, (System.idle (registries i)).run? schedule = some (f.systems i)
  published : ∀ metric label, f.counter metric label = ∑ i, (f.systems i).counted metric label

/-- A move on one registry adds to what is published what it adds to what the registry has. -/
theorem counter_put {f : Fleet K} {i : ι} {s : System (K i)} {t : Nat} {move : Move (K i)}
    (h_move : System.Transition (f.systems i) t move s)
    (h : ∀ metric label, f.counter metric label = ∑ i, (f.systems i).counted metric label)
    (metric : Metric) (label : String) :
    (f.put i s).counter metric label
      = ∑ j, ((f.put i s).systems j).counted metric label := by
  obtain ⟨new, h_new⟩ := h_move.exists_trace_eq
  have h_grown : s.counted metric label = (f.systems i).counted metric label
      + ((new.filterMap (·.2.update?)).map (·.amountFor metric label)).sum := by
    rw [System.counted, h_new, List.filterMap_append, List.map_append, List.sum_append]
    rfl
  have h_put : (fun j => ((f.put i s).systems j).counted metric label) =
      Function.update (fun j => (f.systems j).counted metric label) i (s.counted metric label) := by
    funext j
    by_cases h_j : j = i
    · subst h_j
      simp [put]
    · simp [put, h_j]
  have h_before := h metric label
  rw [← Finset.add_sum_erase _ _ (Finset.mem_univ i)] at h_before
  rw [h_put, Finset.sum_update_of_mem (Finset.mem_univ i), ← Finset.erase_eq, h_grown]
  rw [counter, put, h_new, List.drop_left, List.map_append, List.sum_append]
  rw [counter] at h_before
  omega

theorem Accounted.put {registries : (i : ι) → Registry (K i)} {f : Fleet K}
    (h : Accounted registries f) {i : ι} {s : System (K i)} {t : Nat} {move : Move (K i)}
    (h_move : (f.systems i).step? t move = some s) : Accounted registries (f.put i s) where
  reached j := by
    by_cases h_j : j = i
    · subst h_j
      obtain ⟨schedule, h_run⟩ := h.reached j
      refine ⟨schedule ++ [(t, move)], ?_⟩
      rw [System.run?_append, h_run, Option.bind_some, System.run?_cons, h_move]
      simp [Fleet.put]
    · obtain ⟨schedule, h_run⟩ := h.reached j
      refine ⟨schedule, ?_⟩
      simp [Fleet.put, h_j, h_run]
  published := counter_put (System.step?_eq_some_iff.1 h_move) h.published

theorem Accounted.of_run? {registries : (i : ι) → Registry (K i)} {schedule : Schedule K}
    {f : Fleet K} (h_run : (idle registries).run? schedule = some f) : Accounted registries f := by
  refine run?_invariant (fun h h_move => h.put h_move) h_run
    ⟨fun _ => ⟨[], rfl⟩, fun metric label => ?_⟩
  simp [counter, idle, System.counted, System.idle]

/-! ### The books balance -/

/-- **Creations are conserved.** From registries without bindings, whatever calls any threads have
made on them in whatever order, with factories that fail or call their registry back: when no call is
in progress, each registry has called its factory once for each event that tells how a creation
ended, and holds as many breakers as it has told to be created. Each counter shows, under each label,
how often the registries of that name that keep metrics have told the event that it counts; so the
breakers counted as created are those that these registries hold. -/
theorem creations_conserved {registries : (i : ι) → Registry (K i)}
    (h_new : ∀ i, (registries i).bindings = []) {schedule : Schedule K} {f : Fleet K}
    (h_run : (idle registries).run? schedule = some f)
    (h_quiet : ∀ i t, (f.systems i).threads t = []) :
    (∀ i, (f.systems i).tally Signal.isEntry = (f.systems i).tally Signal.isCreation
        + (f.systems i).tally Signal.isLoss + (f.systems i).tally Signal.isFailure ∧
      (f.systems i).tally Signal.isCreation = (f.systems i).registry.size) ∧
    (∀ label,
      f.counter .created label = ∑ i with (registries i).name = label ∧ (registries i).metered,
        (f.systems i).tally Signal.isCreation ∧
      f.counter .raceLosses label = ∑ i with (registries i).name = label ∧ (registries i).metered,
        (f.systems i).tally Signal.isLoss ∧
      f.counter .failures label = ∑ i with (registries i).name = label ∧ (registries i).metered,
        (f.systems i).tally Signal.isFailure) ∧
    ∀ label, f.counter .created label =
      ∑ i with (registries i).name = label ∧ (registries i).metered,
        (f.systems i).registry.size := by
  have h := Accounted.of_run? h_run
  have h_recorded : ∀ i, (f.systems i).Recorded (registries i) := by
    intro i
    obtain ⟨schedule, h_own⟩ := h.reached i
    exact System.Recorded.of_run? h_own
  have h_size : ∀ i, (f.systems i).tally Signal.isCreation = (f.systems i).registry.size := by
    intro i
    rw [(h_recorded i).size, Registry.size, h_new i, List.length_nil, Nat.zero_add]
  -- a registry without metrics, or of another name, adds nothing
  have h_counter : ∀ {metric} (kind : ∀ {K}, Signal K → Bool),
      (∀ {K}, metric.kind? = some (kind (K := K))) → ∀ label, f.counter metric label =
        ∑ i with (registries i).name = label ∧ (registries i).metered,
          (f.systems i).tally kind := by
    intro metric kind h_kind label
    rw [h.published, Finset.sum_filter]
    exact Finset.sum_congr rfl fun i _ => (h_recorded i).counted h_kind label
  refine ⟨fun i => ⟨?_, h_size i⟩, fun label => ⟨?_, ?_, ?_⟩, fun label => ?_⟩
  · obtain ⟨schedule, h_own⟩ := h.reached i
    exact System.factoryCalls_eq_of_quiet h_own (h_quiet i)
  · exact h_counter Signal.isCreation rfl label
  · exact h_counter Signal.isLoss rfl label
  · exact h_counter Signal.isFailure rfl label
  · rw [h_counter Signal.isCreation rfl label]
    exact Finset.sum_congr rfl fun i _ => h_size i

/-- Two registries of numbered keys with one name; only the first keeps metrics. -/
def namesakes (i : Bool) : Registry Nat := { name := "edge", metered := i, selector := fun _ => .ok 7 }

/-- On the first registry two threads miss the key 7, and the factory of one calls the registry back
for the key 8; then a third thread fails for the key 9. In between, the second registry makes a
breaker for the key 7. -/
def rounds : Schedule fun _ : Bool => Nat :=
  [⟨true, 0, .callKey 7⟩, ⟨true, 1, .callKey 7⟩, ⟨true, 0, .look⟩, ⟨true, 1, .look⟩,
    ⟨false, 0, .callKey 7⟩, ⟨true, 0, .callKey 8⟩, ⟨true, 0, .look⟩, ⟨true, 0, .make⟩,
    ⟨true, 0, .settle⟩, ⟨false, 0, .look⟩, ⟨true, 0, .measure⟩, ⟨true, 0, .publish⟩,
    ⟨true, 0, .finish⟩, ⟨true, 1, .make⟩, ⟨true, 0, .make⟩, ⟨true, 1, .settle⟩,
    ⟨true, 0, .settle⟩, ⟨false, 0, .make⟩, ⟨false, 0, .settle⟩, ⟨true, 0, .measure⟩,
    ⟨true, 1, .measure⟩, ⟨true, 1, .publish⟩, ⟨true, 0, .publish⟩, ⟨true, 2, .callKey 9⟩,
    ⟨true, 2, .look⟩, ⟨true, 2, .fail "full"⟩, ⟨true, 0, .finish⟩, ⟨true, 1, .finish⟩,
    ⟨true, 2, .finish⟩, ⟨false, 0, .finish⟩]

theorem creations_conserved_rounds :
    ∃ f : Fleet fun _ : Bool => Nat, (∀ i, (namesakes i).bindings = []) ∧
      (idle namesakes).run? rounds = some f ∧ (∀ i t, (f.systems i).threads t = []) ∧
      (f.systems true).tally Signal.isEntry = 4 ∧ (f.systems true).registry.size = 2 ∧
      (f.systems false).registry.size = 1 ∧ f.counter .created "edge" = 2 ∧
      f.counter .raceLosses "edge" = 1 ∧ f.counter .failures "edge" = 1 ∧
      f.counter .created "edge" = ∑ i with (namesakes i).name = "edge" ∧ (namesakes i).metered,
        (f.systems i).registry.size := by
  have h_run : (idle namesakes).run? rounds = some _ := rfl
  have h_quiet : ∀ f, (idle namesakes).run? rounds = some f →
      ∀ i t, (f.systems i).threads t = [] := by
    intro f h_run i t
    obtain rfl := Option.some.inj (h_run.symm.trans rfl)
    rcases i with _ | _ <;> rcases t with _ | _ | _ | t <;> rfl
  have h := creations_conserved (fun _ => rfl) h_run (h_quiet _ h_run)
  exact ⟨_, fun _ => rfl, h_run, h_quiet _ h_run, rfl, rfl, rfl, rfl, rfl, rfl, h.2.2 "edge"⟩

end Fleet

end KeyedBreakers
