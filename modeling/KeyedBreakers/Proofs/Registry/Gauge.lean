import KeyedBreakers.Proofs.Registry.Fleet
import KeyedBreakers.Proofs.Registry.MeteredRace

/-!
# The gauge and the size of a registry

A call that has settled its instance reads the size of the registry and publishes it in two steps.
In between, a call for another key may bind a breaker and publish the larger size, so the size that
is published last need not be the size of the registry: the gauge shows how large the registry was
when the last publisher read it. That is the only way in which it can be wrong. Whoever binds a
breaker publishes a size afterwards, so when no call is in progress the true size has been
published, no published size is larger, and none has been bound since the last publication.

* `Fleet.gauge` — what is shown under a label: the size published last;
* `System.Publishes` — what a move does to sizes, read or published;
* `System.Measured` — the invariant on all sizes that are published or about to be;
* `System.LastPublication` — where in a schedule the last size is published;
* `Fleet.sizes_eq` — a label that one metered registry has to itself shows that registry only;
* `Fleet.gauge_of_quiet` — the main theorem; `Fleet.gauge_lags` — a gauge that lags behind.
-/

namespace KeyedBreakers

variable {K : Type}

/-! ### Sizes -/

/-- The size that an update publishes under a label. -/
def Update.size? (label : String) (u : Update) : Option Nat :=
  if u.metric = .size ∧ u.label = label then some u.amount else none

/-- Whether a call has settled its instance and not published the size yet. -/
def Stage.isPublishing : Stage K → Bool
  | .measuring _ | .publishing .. => true
  | _ => false

theorem Stage.mem_cons_iff_of_isPublishing {stage head : Stage K} {outer : List (Stage K)}
    (h : stage.isPublishing = true) (h_head : head.isPublishing = false) :
    stage ∈ head :: outer ↔ stage ∈ outer := by
  refine ⟨fun h_mem => (List.mem_cons.1 h_mem).resolve_left ?_, List.mem_cons_of_mem _⟩
  rintro rfl
  rw [h] at h_head
  cases h_head

namespace Registry

theorem filterMap_size?_counted (r : Registry K) {metric : Metric} (h : metric ≠ .size)
    (label : String) :
    ((r.counted metric).map Signal.occurred).filterMap
      (fun signal => signal.update?.bind (Update.size? label)) = [] := by
  unfold counted
  split <;> simp [Update.size?, h]

theorem filterMap_size?_gauged {r : Registry K} (h : r.metered = true) (size : Nat) :
    ((r.gauged size).map Signal.occurred).filterMap
      (fun signal => signal.update?.bind (Update.size? r.name)) = [size] := by
  simp [gauged, h, Update.size?]

variable [DecidableEq K]

/-- A registry holds a breaker after an instance has been settled, and none less than before. -/
theorem size_settle (r : Registry K) (b : Breaker K) :
    r.size ≤ (r.settle b).registry.size ∧ 0 < (r.settle b).registry.size := by
  cases h_get : r.get? b.key with
  | some winner =>
    rw [settle_of_bound h_get]
    refine ⟨Nat.le_refl _, List.length_pos_iff.2 fun h_nil => ?_⟩
    rw [get?, h_nil] at h_get
    cases h_get
  | none => simp [settle_of_unbound h_get, size]

/-- Settling an instance publishes no size. -/
theorem filterMap_size?_settle (r : Registry K) (b : Breaker K) (label : String) :
    ((r.settle b).trace.map Signal.occurred).filterMap
      (fun signal => signal.update?.bind (Update.size? label)) = [] := by
  cases h_get : r.get? b.key with
  | some winner =>
    rw [settle_of_bound h_get, List.map_cons, List.filterMap_cons_none rfl]
    have h_ne : Metric.raceLosses ≠ .size := by decide
    exact r.filterMap_size?_counted h_ne label
  | none =>
    rw [settle_of_unbound h_get, List.map_cons, List.filterMap_cons_none rfl]
    have h_ne : Metric.created ≠ .size := by decide
    exact r.filterMap_size?_counted h_ne label

end Registry

namespace System

/-- The sizes that have been published under a label, in order. -/
def sizes (s : System K) (label : String) : List Nat :=
  s.trace.filterMap fun x => x.2.update?.bind (Update.size? label)

theorem sizes_put (s : System K) (t : Nat) (r : Registry K) (stages : List (Stage K))
    (signals : List (Signal K)) (label : String) :
    (s.put t r stages signals).sizes label = s.sizes label ++
      signals.filterMap fun signal => signal.update?.bind (Update.size? label) := by
  rw [sizes, trace_put, List.filterMap_append, List.filterMap_map]
  rfl

variable [DecidableEq K]

/-! ### What a move does -/

/-- **What a move does to sizes**, in a registry that keeps metrics. -/
inductive Publishes (s : System K) (t : Nat) : Move K → System K → Prop
  /-- Nothing is bound or published, and as many calls are about to publish. -/
  | silent {move : Move K} {s' : System K} (h_move : move ≠ .publish)
      (h_size : s'.registry.size = s.registry.size)
      (h_sizes : s'.sizes s.registry.name = s.sizes s.registry.name)
      (h_stages : ∀ u stage, stage.isPublishing = true →
        (stage ∈ s'.threads u ↔ stage ∈ s.threads u)) : Publishes s t move s'
  /-- A call settles its instance, which may be bound. -/
  | settle {winner : Breaker K} {s' : System K} (h_le : s.registry.size ≤ s'.registry.size)
      (h_pos : 0 < s'.registry.size)
      (h_sizes : s'.sizes s.registry.name = s.sizes s.registry.name)
      (h_stages : ∀ u stage, stage.isPublishing = true →
        (stage ∈ s'.threads u ↔ stage ∈ s.threads u ∨ u = t ∧ stage = .measuring winner)) :
      Publishes s t .settle s'
  /-- A call reads the size. -/
  | measure {winner : Breaker K} {outer : List (Stage K)} {s' : System K}
      (h_at : s.threads t = .measuring winner :: outer)
      (h_at' : s'.threads t = .publishing winner s.registry.size :: outer)
      (h_others : ∀ u ≠ t, s'.threads u = s.threads u)
      (h_size : s'.registry.size = s.registry.size)
      (h_sizes : s'.sizes s.registry.name = s.sizes s.registry.name) : Publishes s t .measure s'
  /-- A call publishes the size that it has read. -/
  | publish {winner : Breaker K} {size : Nat} {outer : List (Stage K)} {s' : System K}
      (h_at : s.threads t = .publishing winner size :: outer)
      (h_at' : s'.threads t = .returning (.ok winner) :: outer)
      (h_others : ∀ u ≠ t, s'.threads u = s.threads u)
      (h_size : s'.registry.size = s.registry.size)
      (h_sizes : s'.sizes s.registry.name = s.sizes s.registry.name ++ [size]) :
      Publishes s t .publish s'

variable {s s' : System K} {t : Nat} {move : Move K}

omit [DecidableEq K] in
/-- A move is silent if it changes the head of one stack only, from and to stages that publish
nothing. -/
theorem mem_threads_put_iff {r : Registry K} {stages : List (Stage K)} {signals : List (Signal K)}
    (h : ∀ stage : Stage K, stage.isPublishing = true → (stage ∈ stages ↔ stage ∈ s.threads t))
    (u : Nat) (stage : Stage K) (h_stage : stage.isPublishing = true) :
    stage ∈ (s.put t r stages signals).threads u ↔ stage ∈ s.threads u := by
  by_cases h_u : u = t
  · subst h_u
    rw [threads_put_self]
    exact h stage h_stage
  · rw [threads_put_of_ne _ _ _ _ _ h_u]

omit [DecidableEq K] in
/-- A move is silent if it tells of no size and moves no call into or out of publishing. -/
theorem Publishes.of_put {r : Registry K} {stages : List (Stage K)} {signals : List (Signal K)}
    (h_move : move ≠ .publish) (h_size : r.size = s.registry.size)
    (h_none : signals.filterMap (fun signal =>
      signal.update?.bind (Update.size? s.registry.name)) = [])
    (h_stages : ∀ stage : Stage K, stage.isPublishing = true →
      (stage ∈ stages ↔ stage ∈ s.threads t)) :
    Publishes s t move (s.put t r stages signals) := by
  refine .silent h_move h_size ?_ (mem_threads_put_iff h_stages)
  rw [sizes_put, h_none, List.append_nil]

theorem Transition.publishes (h : Transition s t move s') (h_metered : s.registry.metered = true) :
    Publishes s t move s' := by
  -- a stage that publishes nothing may come, go or be replaced by another one
  have h_head : ∀ {head head' : Stage K} {outer : List (Stage K)}, head.isPublishing = false →
      head'.isPublishing = false → s.threads t = head :: outer →
      ∀ stage : Stage K, stage.isPublishing = true →
        (stage ∈ head' :: outer ↔ stage ∈ s.threads t) := by
    intro head head' outer h_head h_head' h_at stage h_stage
    rw [h_at, Stage.mem_cons_iff_of_isPublishing h_stage h_head,
      Stage.mem_cons_iff_of_isPublishing h_stage h_head']
  cases h with
  | refuse h_free h_key => exact .of_put (by simp) rfl rfl fun _ _ => Iff.rfl
  | start h_free h_key =>
    refine .of_put ?_ rfl rfl fun stage h_stage => Stage.mem_cons_iff_of_isPublishing h_stage rfl
    rintro rfl
    exact h_key
  | peek h_free => exact .of_put (by simp) rfl rfl fun _ _ => Iff.rfl
  | hit h_at h_get => exact .of_put (by simp) rfl rfl (h_head rfl rfl h_at)
  | miss h_at h_get => exact .of_put (by simp) rfl rfl (h_head rfl rfl h_at)
  | make h_at => exact .of_put (by simp) rfl rfl (h_head rfl rfl h_at)
  | fail h_at =>
    have h_ne : Metric.failures ≠ .size := by decide
    have h_none := s.registry.filterMap_size?_counted h_ne s.registry.name
    refine .of_put (by simp) rfl ?_ (h_head rfl rfl h_at)
    rw [Registry.toldFailure, List.map_cons, List.filterMap_cons_none rfl,
      List.filterMap_cons_none rfl, h_none]
  | @settle b outer h_at =>
    obtain ⟨h_le, h_pos⟩ := s.registry.size_settle b
    refine @Publishes.settle _ _ _ (s.registry.settle b).winner _ h_le h_pos ?_
      fun u stage h_stage => ?_
    · rw [sizes_put, List.filterMap_cons_none rfl, Registry.filterMap_size?_settle,
        List.append_nil]
    -- the thread is about to read the size, and no other has moved
    · rw [h_metered, if_pos rfl]
      by_cases h_u : u = t
      · subst h_u
        have h_settling : (Stage.settling b).isPublishing = false := rfl
        rw [threads_put_self, h_at, Stage.mem_cons_iff_of_isPublishing h_stage h_settling,
          List.mem_cons, or_comm, and_iff_right rfl]
      · rw [threads_put_of_ne _ _ _ _ _ h_u]
        exact (or_iff_left fun h => h_u h.1).symm
  | measure h_at =>
    refine .measure h_at (threads_put_self ..) (fun u h_u => threads_put_of_ne _ _ _ _ _ h_u) rfl ?_
    rw [sizes_put]
    exact List.append_nil _
  | publish h_at =>
    refine .publish h_at (threads_put_self ..) (fun u h_u => threads_put_of_ne _ _ _ _ _ h_u) rfl ?_
    rw [sizes_put, Registry.filterMap_size?_gauged h_metered]
  | finish h_at =>
    refine .of_put (by simp) rfl rfl fun stage h_stage => ?_
    rw [h_at]
    exact (Stage.mem_cons_iff_of_isPublishing h_stage rfl).symm

/-! ### What has been published -/

/-- The sizes that have been published or read are sizes that the registry has had since something
was bound, and its size has been published or will be. -/
structure Measured (r : Registry K) (s : System K) : Prop where
  settings : s.registry.settings = r.settings
  published : ∀ size ∈ s.sizes r.name, 0 < size ∧ size ≤ s.registry.size
  measuring : ∀ t winner, .measuring winner ∈ s.threads t → 0 < s.registry.size
  publishing : ∀ t winner size, .publishing winner size ∈ s.threads t →
    0 < size ∧ size ≤ s.registry.size
  told : s.registry.size = 0 ∨ s.registry.size ∈ s.sizes r.name ∨
    ∃ t winner, .measuring winner ∈ s.threads t ∨ .publishing winner s.registry.size ∈ s.threads t

variable {r : Registry K} {schedule : Schedule K}

omit [DecidableEq K] in
/-- Where one stage takes the place of another, no other stage appears. -/
theorem eq_or_mem_of_replaced {head head' stage : Stage K} {outer : List (Stage K)} {u : Nat}
    (h_at : s.threads t = head :: outer) (h_at' : s'.threads t = head' :: outer)
    (h_others : ∀ u ≠ t, s'.threads u = s.threads u) (h_mem : stage ∈ s'.threads u) :
    stage = head' ∨ stage ∈ s.threads u := by
  by_cases h_u : u = t
  · rw [h_u, h_at'] at h_mem
    rw [h_u, h_at]
    exact (List.mem_cons.1 h_mem).imp_right (List.mem_cons_of_mem _)
  · exact .inr (h_others u h_u ▸ h_mem)

omit [DecidableEq K] in
theorem Measured.silent (h : Measured r s) (h_settings : s'.registry.settings = r.settings)
    (h_size : s'.registry.size = s.registry.size) (h_sizes : s'.sizes r.name = s.sizes r.name)
    (h_stages : ∀ u stage, stage.isPublishing = true →
      (stage ∈ s'.threads u ↔ stage ∈ s.threads u)) : Measured r s' := by
  refine ⟨h_settings, ?_, fun u winner h_mem => ?_, fun u winner size h_mem => ?_, ?_⟩
  · rw [h_sizes, h_size]
    exact h.published
  · rw [h_size]
    exact h.measuring u winner ((h_stages u _ rfl).1 h_mem)
  · rw [h_size]
    exact h.publishing u winner size ((h_stages u _ rfl).1 h_mem)
  · rw [h_sizes, h_size]
    refine h.told.imp_right (Or.imp_right ?_)
    rintro ⟨u, winner, h_mem⟩
    exact ⟨u, winner, h_mem.imp (h_stages u _ rfl).2 (h_stages u _ rfl).2⟩

omit [DecidableEq K] in
/-- When a thread publishes what it has read, the size of the registry is either that or still to be
published, unless it has been published before. -/
theorem Measured.publish {winner : Breaker K} {size : Nat} {outer : List (Stage K)}
    (h : Measured r s) (h_settings : s'.registry.settings = r.settings)
    (h_at : s.threads t = .publishing winner size :: outer)
    (h_at' : s'.threads t = .returning (.ok winner) :: outer)
    (h_others : ∀ u ≠ t, s'.threads u = s.threads u)
    (h_size : s'.registry.size = s.registry.size)
    (h_sizes : s'.sizes r.name = s.sizes r.name ++ [size]) : Measured r s' := by
  have h_held := h.publishing t winner size (h_at ▸ List.mem_cons_self)
  refine ⟨h_settings, fun size' h_mem => ?_, fun u winner' h_mem => ?_,
    fun u winner' size' h_mem => ?_, ?_⟩
  · rw [h_sizes, List.mem_append, List.mem_singleton] at h_mem
    rw [h_size]
    rcases h_mem with h_mem | rfl
    · exact h.published size' h_mem
    · exact h_held
  · rw [h_size]
    rcases eq_or_mem_of_replaced h_at h_at' h_others h_mem with h_eq | h_mem
    · cases h_eq
    · exact h.measuring u winner' h_mem
  · rw [h_size]
    rcases eq_or_mem_of_replaced h_at h_at' h_others h_mem with h_eq | h_mem
    · cases h_eq
    · exact h.publishing u winner' size' h_mem
  · have h_forth : ∀ {u : Nat} {stage : Stage K}, stage ∈ s.threads u →
        stage = .publishing winner size ∨ stage ∈ s'.threads u :=
      eq_or_mem_of_replaced h_at' h_at fun u h_u => (h_others u h_u).symm
    rw [h_size, h_sizes, List.mem_append, List.mem_singleton]
    rcases h.told with h_zero | h_told | ⟨u, winner', h_mem | h_mem⟩
    · exact .inl h_zero
    · exact .inr (.inl (.inl h_told))
    · rcases h_forth h_mem with h_eq | h_mem
      · cases h_eq
      · exact .inr (.inr ⟨u, winner', .inl h_mem⟩)
    · rcases h_forth h_mem with h_eq | h_mem
      · cases h_eq
        exact .inr (.inl (.inr rfl))
      · exact .inr (.inr ⟨u, winner', .inr h_mem⟩)

omit [DecidableEq K] in
/-- Every move keeps the invariant. -/
theorem Measured.step (h : Measured r s) (h_move : Publishes s t move s')
    (h_settings : s'.registry.settings = s.registry.settings) : Measured r s' := by
  have h_name : s.registry.name = r.name := congrArg (·.1) h.settings
  have h_kept : s'.registry.settings = r.settings := h_settings.trans h.settings
  cases h_move with
  | silent _ h_size h_sizes h_stages =>
    rw [h_name] at h_sizes
    exact h.silent h_kept h_size h_sizes h_stages
  | @settle winner _ h_le h_pos h_sizes h_stages =>
    rw [h_name] at h_sizes
    refine ⟨h_kept, ?_, fun _ _ _ => h_pos, fun u winner' size h_mem => ?_, .inr (.inr ?_)⟩
    · rw [h_sizes]
      intro size h_mem
      obtain ⟨h_size_pos, h_size_le⟩ := h.published size h_mem
      exact ⟨h_size_pos, h_size_le.trans h_le⟩
    · rcases (h_stages u _ rfl).1 h_mem with h_mem | ⟨-, h_eq⟩
      · obtain ⟨h_size_pos, h_size_le⟩ := h.publishing u winner' size h_mem
        exact ⟨h_size_pos, h_size_le.trans h_le⟩
      · cases h_eq
    · -- whoever has settled an instance will read the size
      exact ⟨t, winner, .inl ((h_stages t _ rfl).2 (.inr ⟨rfl, rfl⟩))⟩
  | @measure winner outer _ h_at h_at' h_others h_size h_sizes =>
    rw [h_name] at h_sizes
    have h_pos : 0 < s.registry.size := h.measuring t winner (h_at ▸ List.mem_cons_self)
    refine ⟨h_kept, ?_, fun _ _ _ => h_size ▸ h_pos, fun u winner' size h_mem => ?_,
      .inr (.inr ⟨t, winner, .inr ?_⟩)⟩
    · rw [h_sizes, h_size]
      exact h.published
    · rw [h_size]
      rcases eq_or_mem_of_replaced h_at h_at' h_others h_mem with h_eq | h_mem
      · cases h_eq
        exact ⟨h_pos, Nat.le_refl _⟩
      · exact h.publishing u winner' size h_mem
    · rw [h_at', h_size]
      exact List.mem_cons_self
  | publish h_at h_at' h_others h_size h_sizes =>
    rw [h_name] at h_sizes
    exact h.publish h_kept h_at h_at' h_others h_size h_sizes

theorem Measured.of_run? (h_new : r.bindings = []) (h_metered : r.metered = true)
    (h_run : (idle r).run? schedule = some s) : Measured r s := by
  refine run?_invariant (fun {s t move s'} h h_move => ?_) h_run ?_
  · have h_metered' : s.registry.metered = true :=
      (congrArg (·.2.1) h.settings : s.registry.metered = r.metered).trans h_metered
    exact h.step (h_move.publishes h_metered') h_move.settings_eq
  · have h_size : (idle r).registry.size = 0 := by
      show r.bindings.length = 0
      rw [h_new, List.length_nil]
    exact ⟨rfl, nofun, nofun, nofun, .inl h_size⟩

/-! ### The last publication -/

/-- In the schedule, the last size to be published is `size`, and `before` is the system when a
thread that has read it is about to publish it. -/
def LastPublication (r : Registry K) (schedule : Schedule K) (before : System K) (size : Nat) :
    Prop :=
  ∃ first t last, schedule = first ++ (t, .publish) :: last ∧ (idle r).run? first = some before ∧
    (∃ winner outer, before.threads t = .publishing winner size :: outer) ∧
    ∀ step ∈ last, step.2 ≠ .publish

theorem LastPublication.concat {before : System K} {size : Nat}
    (h : LastPublication r schedule before size) (h_move : move ≠ .publish) :
    LastPublication r (schedule ++ [(t, move)]) before size := by
  obtain ⟨first, u, last, rfl, h_run, h_at, h_last⟩ := h
  refine ⟨first, u, last ++ [(t, move)], List.append_assoc .., h_run, h_at, ?_⟩
  intro step h_step
  rcases List.mem_append.1 h_step with h_step | h_step
  · exact h_last step h_step
  · rw [List.mem_singleton.1 h_step]
    exact h_move

/-- **Since the last publication nothing has been bound**, unless some call has still to publish: by
induction on the schedule. A call that has bound a breaker publishes before it returns. -/
theorem exists_lastPublication (h_new : r.bindings = []) (h_metered : r.metered = true)
    (h_run : (idle r).run? schedule = some s) :
    s.registry.size = 0 ∨ (∃ t stage, stage.isPublishing = true ∧ stage ∈ s.threads t) ∨
      ∃ before size, LastPublication r schedule before size ∧
        (s.sizes r.name).getLast? = some size ∧ before.registry.size = s.registry.size := by
  induction schedule using List.reverseRecOn generalizing s with
  | nil =>
    cases h_run
    refine .inl ?_
    show r.bindings.length = 0
    rw [h_new, List.length_nil]
  | append_singleton schedule step ih =>
    obtain ⟨t, move⟩ := step
    rw [run?_append, Option.bind_eq_some_iff] at h_run
    obtain ⟨s₁, h_first, h_step⟩ := h_run
    rw [run?_cons, Option.bind_eq_some_iff] at h_step
    obtain ⟨s₂, h_step, h_nil⟩ := h_step
    cases h_nil
    have h_move := step?_eq_some_iff.1 h_step
    have h_settings := (Measured.of_run? h_new h_metered h_first).settings
    have h_name : s₁.registry.name = r.name := congrArg (·.1) h_settings
    have h_metered₁ : s₁.registry.metered = true :=
      (congrArg (·.2.1) h_settings : s₁.registry.metered = r.metered).trans h_metered
    have h_publishes := h_move.publishes h_metered₁
    cases h_publishes with
    | silent h_silent h_size h_sizes h_stages =>
      rw [h_name] at h_sizes
      rw [h_size, h_sizes]
      refine (ih h_first).imp_right (Or.imp ?_ ?_)
      · rintro ⟨u, stage, h_stage, h_mem⟩
        exact ⟨u, stage, h_stage, (h_stages u stage h_stage).2 h_mem⟩
      · rintro ⟨before, size, h_last, h_rest⟩
        exact ⟨before, size, h_last.concat h_silent, h_rest⟩
    | settle _ _ _ h_stages =>
      exact .inr (.inl ⟨t, _, rfl, (h_stages t (.measuring _) rfl).2 (.inr ⟨rfl, rfl⟩)⟩)
    | measure _ h_at' => exact .inr (.inl ⟨t, _, rfl, h_at' ▸ List.mem_cons_self⟩)
    | @publish winner size outer _ h_at _ _ h_size h_sizes =>
      rw [h_name] at h_sizes
      have h_last : LastPublication r (schedule ++ [(t, .publish)]) s₁ size :=
        ⟨schedule, t, [], rfl, h_first, ⟨winner, outer, h_at⟩,
          fun step h_step => absurd h_step List.not_mem_nil⟩
      have h_shown : (s.sizes r.name).getLast? = some size := by
        rw [h_sizes, List.getLast?_concat]
      exact .inr (.inr ⟨s₁, size, h_last, h_shown, h_size.symm⟩)

/-- All updates that a schedule makes are the registry's own. -/
theorem labels_of_run? (h_run : (idle r).run? schedule = some s) :
    ∀ o ∈ s.occurrences, r.Labels o := by
  have h_kept : s.registry.settings = r.settings ∧ ∀ o ∈ s.occurrences, r.Labels o := by
    refine run?_invariant (P := fun s => s.registry.settings = r.settings ∧
      ∀ o ∈ s.occurrences, r.Labels o) ?_ h_run ⟨rfl, nofun⟩
    intro s t move s' ⟨h_settings, h_labels⟩ h_move
    refine ⟨h_move.settings_eq.trans h_settings, fun o h_o => ?_⟩
    rcases Registry.labels_of_transition h_move h_o with h_old | h_new
    · exact h_labels o h_old
    · rwa [Registry.labels_congr h_settings] at h_new
  exact h_kept.2

/-- Under another label than its own, and under any label if it keeps no metrics, a registry
publishes no size. -/
theorem sizes_eq_nil (h_run : (idle r).run? schedule = some s) {label : String}
    (h : r.metered = true → r.name ≠ label) : s.sizes label = [] := by
  refine List.filterMap_eq_nil_iff.2 fun x h_x => ?_
  obtain ⟨t, signal⟩ := x
  cases h_update : signal.update? with
  | none => rfl
  | some u =>
    have h_signal : signal = .occurred (.updated u) := by
      cases signal with
      | occurred o => cases o <;> simp_all
      | _ => simp at h_update
    subst h_signal
    have h_labels := labels_of_run? h_run (.updated u) (List.mem_filterMap.2 ⟨_, h_x, rfl⟩)
    have h_ne : u.label ≠ label := h_labels.2 ▸ h h_labels.1
    rw [Option.bind_some, Update.size?, if_neg fun h_both => h_ne h_both.2]

end System

/-! ### The gauge of a fleet -/

namespace Fleet

variable {ι : Type} {K : ι → Type}

/-- The sizes that have been published under a label, in order. -/
def sizes (f : Fleet K) (label : String) : List Nat := f.published.filterMap (Update.size? label)

/-- What the gauge shows under a label: the size published last. -/
def gauge (f : Fleet K) (label : String) : Option Nat := (f.sizes label).getLast?

variable [DecidableEq ι]

/-- The moves that a schedule makes on one registry. -/
def movesOn (i : ι) (schedule : Schedule K) : System.Schedule (K i) :=
  schedule.filterMap fun step => if h : step.1 = i then some (step.2.1, h ▸ step.2.2) else none

variable {f f' : Fleet K} {schedule : Schedule K}

@[simp] theorem systems_put_self {i : ι} {s : System (K i)} : (f.put i s).systems i = s :=
  Function.update_self ..

theorem systems_put_of_ne {i j : ι} {s : System (K j)} (h : i ≠ j) :
    (f.put j s).systems i = f.systems i :=
  Function.update_of_ne h ..

theorem movesOn_cons_self {i : ι} {t : Nat} {move : Move (K i)} :
    movesOn i (⟨i, t, move⟩ :: schedule) = (t, move) :: movesOn i schedule := by
  rw [movesOn, List.filterMap_cons_some (dif_pos rfl)]
  rfl

theorem movesOn_cons_of_ne {i j : ι} {t : Nat} {move : Move (K j)} (h : j ≠ i) :
    movesOn i (⟨j, t, move⟩ :: schedule) = movesOn i schedule := by
  rw [movesOn, List.filterMap_cons_none (dif_neg h)]
  rfl

variable [∀ i, DecidableEq (K i)] {registries : (i : ι) → Registry (K i)}

theorem run?_cons_eq_some_iff {j : ι} {t : Nat} {move : Move (K j)} :
    f.run? (⟨j, t, move⟩ :: schedule) = some f' ↔
      ∃ s, (f.systems j).step? t move = some s ∧ (f.put j s).run? schedule = some f' := by
  rw [run?, List.foldlM_cons, Option.bind_eq_bind, Option.bind_eq_some_iff]
  constructor
  · rintro ⟨f₁, h_head, h_rest⟩
    obtain ⟨s, h_move, rfl⟩ := Option.map_eq_some_iff.1 h_head
    exact ⟨s, h_move, h_rest⟩
  · rintro ⟨s, h_move, h_rest⟩
    exact ⟨f.put j s, Option.map_eq_some_iff.2 ⟨s, h_move, rfl⟩, h_rest⟩

/-- A registry is as the moves on it leave it, whatever is done to the others. -/
theorem run?_movesOn (h_run : f.run? schedule = some f') (i : ι) :
    (f.systems i).run? (movesOn i schedule) = some (f'.systems i) := by
  induction schedule generalizing f with
  | nil =>
    cases h_run
    rfl
  | cons head rest ih =>
    obtain ⟨j, t, move⟩ := head
    obtain ⟨s, h_move, h_rest⟩ := run?_cons_eq_some_iff.1 h_run
    have h_moved := ih h_rest
    by_cases h_j : j = i
    · subst h_j
      rw [systems_put_self] at h_moved
      rw [movesOn_cons_self, System.run?_cons, h_move, Option.bind_some, h_moved]
    · rw [systems_put_of_ne (Ne.symm h_j)] at h_moved
      rw [movesOn_cons_of_ne h_j, h_moved]

/-- A move on one registry publishes under a label the sizes that the registry publishes. -/
theorem sizes_put {i : ι} {t : Nat} {move : Move (K i)} {s : System (K i)}
    (h_move : (f.systems i).step? t move = some s) (label : String) :
    ∃ new, s.sizes label = (f.systems i).sizes label ++ new ∧
      (f.put i s).sizes label = f.sizes label ++ new := by
  obtain ⟨new, h_new⟩ := (System.step?_eq_some_iff.1 h_move).exists_trace_eq
  refine ⟨(new.filterMap (·.2.update?)).filterMap (Update.size? label), ?_, ?_⟩
  · rw [System.sizes, h_new, List.filterMap_append, List.filterMap_filterMap]
    rfl
  · rw [sizes, put, h_new, List.drop_left, List.filterMap_append]
    rfl

/-- **A label that one registry has to itself shows that registry only.** -/
theorem sizes_eq {i : ι} (h_run : (idle registries).run? schedule = some f)
    (h_alone : ∀ j ≠ i, (registries j).metered = true → (registries j).name ≠ (registries i).name) :
    f.sizes (registries i).name = (f.systems i).sizes (registries i).name := by
  induction schedule using List.reverseRecOn generalizing f with
  | nil =>
    cases h_run
    rfl
  | append_singleton schedule step ih =>
    obtain ⟨j, t, move⟩ := step
    have h_reached := run?_movesOn h_run j
    rw [run?, List.foldlM_append, Option.bind_eq_bind, Option.bind_eq_some_iff] at h_run
    obtain ⟨f₁, h_first, h_step⟩ := h_run
    obtain ⟨s, h_move, h_nil⟩ := run?_cons_eq_some_iff.1 h_step
    cases h_nil
    obtain ⟨new, h_own, h_all⟩ := sizes_put h_move (registries i).name
    rw [h_all, ih h_first]
    by_cases h_j : j = i
    · subst h_j
      rw [systems_put_self, h_own]
    · -- a registry that publishes under another label publishes nothing under this one
      rw [systems_put_self] at h_reached
      rw [System.sizes_eq_nil h_reached (h_alone j h_j)] at h_own
      obtain ⟨-, rfl⟩ := List.append_eq_nil_iff.1 h_own.symm
      rw [List.append_nil, systems_put_of_ne (Ne.symm h_j)]

/-- **The gauge shows the size that the last publisher read.** Of any registries that are called at
the same time, let one keep metrics under a name that no other registry with metrics has, and let it
have started without breakers. Whenever no call on it is in progress and it is not empty, what the
gauge shows under its name is the size that the registry had when the last thread to publish read
it. That size is positive and no larger than the size of the registry; the true size has been
published too, no published size is larger, and the registry has had it since before the last
publication. The gauge is right if and only if that thread has read the size that the registry had
when it published. -/
theorem gauge_of_quiet {i : ι} (h_new : (registries i).bindings = [])
    (h_metered : (registries i).metered = true)
    (h_alone : ∀ j ≠ i, (registries j).metered = true → (registries j).name ≠ (registries i).name)
    (h_run : (idle registries).run? schedule = some f)
    (h_quiet : ∀ t, (f.systems i).threads t = []) (h_size : (f.systems i).registry.size ≠ 0) :
    ∃ before size, System.LastPublication (registries i) (movesOn i schedule) before size ∧
      f.gauge (registries i).name = some size ∧ 0 < size ∧ size ≤ (f.systems i).registry.size ∧
      before.registry.size = (f.systems i).registry.size ∧
      (f.systems i).registry.size ∈ f.sizes (registries i).name ∧
      (∀ published ∈ f.sizes (registries i).name, published ≤ (f.systems i).registry.size) ∧
      (f.gauge (registries i).name = some (f.systems i).registry.size ↔
        size = before.registry.size) := by
  have h_own : (System.idle (registries i)).run? (movesOn i schedule) = some (f.systems i) :=
    run?_movesOn h_run i
  have h_sizes := sizes_eq h_run h_alone
  have h_measured := System.Measured.of_run? h_new h_metered h_own
  -- nobody is about to publish
  have h_idle : ∀ t stage, stage ∉ (f.systems i).threads t := by
    intro t stage
    rw [h_quiet t]
    exact List.not_mem_nil
  have h_told : (f.systems i).registry.size ∈ (f.systems i).sizes (registries i).name := by
    rcases h_measured.told with h_zero | h_told | ⟨t, winner, h_mem | h_mem⟩
    · exact absurd h_zero h_size
    · exact h_told
    · exact absurd h_mem (h_idle t _)
    · exact absurd h_mem (h_idle t _)
  rcases System.exists_lastPublication h_new h_metered h_own with
    h_zero | ⟨t, stage, -, h_mem⟩ | ⟨before, size, h_last, h_shown, h_before⟩
  · exact absurd h_zero h_size
  · exact absurd h_mem (h_idle t stage)
  have h_gauge : f.gauge (registries i).name = some size := by
    rw [gauge, h_sizes, h_shown]
  obtain ⟨h_pos, h_le⟩ := h_measured.published size (List.mem_of_getLast? h_shown)
  refine ⟨before, size, h_last, h_gauge, h_pos, h_le, h_before, h_sizes ▸ h_told, ?_, ?_⟩
  · intro published h_published
    exact (h_measured.published published (h_sizes ▸ h_published)).2
  · rw [h_gauge, h_before, Option.some_inj]

/-- Two registries of numbered keys with names of their own; both keep metrics. -/
def neighbours (i : Bool) : Registry Nat :=
  { name := if i then "edge" else "core", metered := true, selector := fun _ => .ok 7 }

/-- Two threads call the first registry for the keys 7 and 8. The first one reads the size when
there is one breaker and publishes it when there are two, after the second thread has published 2
and returned. In between, the second registry makes a breaker. -/
def overtaken : Schedule fun _ : Bool => Nat :=
  [⟨true, 0, .callKey 7⟩, ⟨true, 0, .look⟩, ⟨true, 0, .make⟩, ⟨true, 0, .settle⟩,
    ⟨true, 0, .measure⟩, ⟨true, 1, .callKey 8⟩, ⟨true, 1, .look⟩, ⟨true, 1, .make⟩,
    ⟨false, 1, .callKey 7⟩, ⟨false, 1, .look⟩, ⟨false, 1, .make⟩, ⟨true, 1, .settle⟩,
    ⟨true, 1, .measure⟩, ⟨true, 1, .publish⟩, ⟨true, 1, .finish⟩, ⟨false, 1, .settle⟩,
    ⟨false, 1, .measure⟩, ⟨false, 1, .publish⟩, ⟨true, 0, .publish⟩, ⟨true, 0, .finish⟩,
    ⟨false, 1, .finish⟩]

theorem overtaken_quiet :
    ∃ f : Fleet fun _ : Bool => Nat, (idle neighbours).run? overtaken = some f ∧
      (∀ i t, (f.systems i).threads t = []) ∧ (f.systems true).registry.size = 2 ∧
      f.sizes "edge" = [2, 1] := by
  have h_run : (idle neighbours).run? overtaken = some _ := rfl
  refine ⟨_, h_run, fun i t => ?_, rfl, rfl⟩
  rcases i with _ | _ <;> rcases t with _ | _ | t <;> rfl

theorem neighbours_alone (j : Bool) (h : j ≠ true) :
    (neighbours j).metered = true → (neighbours j).name ≠ (neighbours true).name := by
  rw [Bool.eq_false_iff.2 h]
  decide

theorem gauge_of_quiet_overtaken :
    ∃ f : Fleet fun _ : Bool => Nat, (idle neighbours).run? overtaken = some f ∧
      (∀ t, (f.systems true).threads t = []) ∧ (f.systems true).registry.size = 2 ∧
      ∃ before size,
        System.LastPublication (neighbours true) (movesOn true overtaken) before size ∧
        f.gauge "edge" = some size ∧ before.registry.size = 2 ∧
        (f.gauge "edge" = some 2 ↔ size = before.registry.size) := by
  obtain ⟨f, h_run, h_quiet, h_size, -⟩ := overtaken_quiet
  obtain ⟨before, size, h_last, h_gauge, -, -, h_before, -, -, h_right⟩ :=
    gauge_of_quiet (i := true) rfl rfl neighbours_alone h_run (h_quiet true)
      (by rw [h_size]; decide)
  rw [h_size] at h_before h_right
  exact ⟨f, h_run, h_quiet true, h_size, before, size, h_last, h_gauge, h_before, h_right⟩

/-- **A gauge that lags behind**: the two calls have returned, no other registry has the name, the
registry holds two breakers, and the gauge shows one. -/
theorem gauge_lags :
    ∃ f : Fleet fun _ : Bool => Nat, (∀ i, (neighbours i).bindings = []) ∧
      (neighbours true).metered = true ∧
      (∀ j ≠ true, (neighbours j).metered = true → (neighbours j).name ≠ (neighbours true).name) ∧
      (idle neighbours).run? overtaken = some f ∧ (∀ i t, (f.systems i).threads t = []) ∧
      (f.systems true).registry.size = 2 ∧ f.gauge (neighbours true).name = some 1 := by
  obtain ⟨f, h_run, h_quiet, h_size, h_sizes⟩ := overtaken_quiet
  have h_gauge : f.gauge (neighbours true).name = some 1 := by
    show (f.sizes "edge").getLast? = some 1
    rw [h_sizes]
    rfl
  exact ⟨f, fun _ => rfl, rfl, neighbours_alone, h_run, h_quiet, h_size, h_gauge⟩

end Fleet

end KeyedBreakers
