import KeyedBreakers.Proofs.Registry.Episode
import KeyedBreakers.Proofs.Registry.Transition
import Mathlib.Data.List.Forall2
import Mathlib.Tactic.Common

/-!
# The calls in a trace agree with the bindings

The invariant of every schedule, from any registry that no thread is calling. It ties the calls in
the trace (`episodes`) to the state of the system, and has three parts:

* every stage that a thread is in is the stage of one of its open calls, and says of that call how
  far it has come (`Tracks`);
* whatever a call found when it consulted the bindings is what had been bound by then: a breaker
  that was there from the start, or the instance of a call that bound it earlier (`BoundBefore`);
* what the registry holds now is what has been bound before now.

No two calls consult the bindings at the same time, so "before" orders them strictly. Bindings are
never removed, hence the second part, once true of a call, stays true.

`Coherent.of_run?` is the invariant for whole schedules; `Coherent.transition` is one move. All moves
inside a call amend one episode, the innermost of the thread, and go through `Coherent.amended`. Hence
every return in the trace ends one of its episodes (`System.exists_episode_of_ended`).
-/

namespace KeyedBreakers

variable {K : Type}

/-! ### The parts of the invariant -/

/-- What the stage of a call says about its episode. -/
inductive Tracks (e : Episode K) : Stage K → Prop where
  | looking (h_consulted : e.consulted = none) (h_product : e.product = none) :
      Tracks e (.looking e.key)
  | creating {time : Nat} (h_consulted : e.consulted = some (time, none))
      (h_product : e.product = none) : Tracks e (.creating e.key)
  | settling {b : Breaker K} (h_consulted : e.consulted = none)
      (h_product : e.product = some (.ok b)) (h_key : b.key = e.key) : Tracks e (.settling b)
  | measuring {winner : Breaker K} (h_verdict : e.verdict? = some (.ok winner)) :
      Tracks e (.measuring winner)
  | publishing {winner : Breaker K} {size : Nat} (h_verdict : e.verdict? = some (.ok winner)) :
      Tracks e (.publishing winner size)
  | returning {outcome : Outcome K} (h_verdict : e.verdict? = some outcome) :
      Tracks e (.returning outcome)

/-- The times of a call are in order, and all before `now`. -/
structure Episode.Timely (now : Nat) (e : Episode K) : Prop where
  began_lt : e.began < now
  consulted_lt : ∀ {time found}, e.consulted = some (time, found) → e.began < time ∧ time < now
  ending_lt : ∀ {time outcome}, e.ending = some (time, outcome) → e.began < time ∧ time < now
  consulted_lt_ending : ∀ {time found time' outcome}, e.consulted = some (time, found) →
    e.ending = some (time', outcome) → time < time'

/-- The calls did not consult the bindings at the same time. -/
def Episode.Apart (e e' : Episode K) : Prop :=
  ∀ {time found found'}, e.consulted = some (time, found) → e'.consulted ≠ some (time, found')

theorem Episode.Timely.mono {now later : Nat} {e : Episode K} (h : e.Timely now)
    (h_le : now ≤ later) : e.Timely later where
  began_lt := Nat.lt_of_lt_of_le h.began_lt h_le
  consulted_lt h_c := ⟨(h.consulted_lt h_c).1, Nat.lt_of_lt_of_le (h.consulted_lt h_c).2 h_le⟩
  ending_lt h_e := ⟨(h.ending_lt h_e).1, Nat.lt_of_lt_of_le (h.ending_lt h_e).2 h_le⟩
  consulted_lt_ending := h.consulted_lt_ending

theorem Episode.BindsAt.lt {now time : Nat} {e : Episode K} {b : Breaker K}
    (h : e.BindsAt time b) (h_timely : e.Timely now) : time < now :=
  (h_timely.consulted_lt h.1).2

theorem Episode.Apart.symm {e e' : Episode K} (h : e.Apart e') : e'.Apart e :=
  fun h_c h_c' => h h_c' h_c

section Invariant

variable [DecidableEq K]

/-- Before the given time the key had the breaker: from the start, or because a call bound it. -/
def BoundBefore (r : Registry K) (es : List (Episode K)) (time : Nat) (key : K) (b : Breaker K) :
    Prop :=
  r.get? key = some b ∨ ∃ e ∈ es, e.key = key ∧ ∃ at_ < time, e.BindsAt at_ b

/-- **The invariant.** The calls in the trace of `s` agree with its registry, where `r` is the
registry at the start. -/
structure Coherent (r : Registry K) (s : System K) : Prop where
  /-- The stages of a thread are those of its open calls. -/
  stages : ∀ t, List.Forall₂ Tracks ((episodes s.trace).filter (·.isOpen t)) (s.threads t)
  /-- Every call that has ended has ended with its verdict. -/
  verdict : ∀ e ∈ episodes s.trace, ∀ {time outcome}, e.ending = some (time, outcome) →
    e.verdict? = some outcome
  timely : ∀ e ∈ episodes s.trace, e.Timely s.trace.length
  apart : (episodes s.trace).Pairwise Episode.Apart
  /-- What a call found had been bound before. -/
  found : ∀ e ∈ episodes s.trace, ∀ {time found}, e.consulted = some (time, found) →
    ∀ b, found = some b ↔ BoundBefore r (episodes s.trace) time e.key b
  /-- What is bound has been bound before now. -/
  bound : ∀ key b, s.registry.get? key = some b ↔
    BoundBefore r (episodes s.trace) s.trace.length key b

theorem Coherent.idle (r : Registry K) : Coherent r (.idle r) where
  stages _ := List.Forall₂.nil
  verdict _ h_mem := absurd h_mem List.not_mem_nil
  timely _ h_mem := absurd h_mem List.not_mem_nil
  apart := List.Pairwise.nil
  found _ h_mem := absurd h_mem List.not_mem_nil
  bound key b := by simp [BoundBefore, System.idle]

/-- What was bound before, one call at a time. -/
theorem boundBefore_insert {r : Registry K} {pre post : List (Episode K)} {e : Episode K}
    {time : Nat} {key : K} {b : Breaker K} :
    BoundBefore r (pre ++ e :: post) time key b ↔
      BoundBefore r (pre ++ post) time key b ∨ (e.key = key ∧ ∃ at_ < time, e.BindsAt at_ b) := by
  simp only [BoundBefore, List.mem_append, List.mem_cons]
  constructor
  · rintro (h | ⟨x, h_mem | rfl | h_mem, h_x⟩)
    · exact .inl (.inl h)
    · exact .inl (.inr ⟨x, .inl h_mem, h_x⟩)
    · exact .inr h_x
    · exact .inl (.inr ⟨x, .inr h_mem, h_x⟩)
  · rintro ((h | ⟨x, h_mem, h_x⟩) | h_e)
    · exact .inl h
    · exact .inr ⟨x, h_mem.imp_right .inr, h_x⟩
    · exact .inr ⟨e, .inr (.inl rfl), h_e⟩

/-- After the last consultation nothing more is bound, however much later one asks. -/
theorem boundBefore_later {r : Registry K} {es : List (Episode K)} {now later : Nat}
    (h_timely : ∀ e ∈ es, e.Timely now) (h_le : now ≤ later) {key : K} {b : Breaker K} :
    BoundBefore r es later key b ↔ BoundBefore r es now key b := by
  refine or_congr_right (exists_congr fun e => and_congr_right fun h_mem =>
    and_congr_right fun _ => exists_congr fun time => and_congr_left fun h_binds => ?_)
  have h_lt := h_binds.lt (h_timely e h_mem)
  exact ⟨fun _ => h_lt, fun _ => Nat.lt_of_lt_of_le h_lt h_le⟩

/-! ### Moves that amend no call -/

variable {r : Registry K} {s s' : System K} {t : Nat}

/-- A move that leaves calls, stages and bindings alone keeps the invariant; the time may pass. -/
theorem Coherent.quiet (h : Coherent r s) (h_es : episodes s'.trace = episodes s.trace)
    (h_len : s.trace.length ≤ s'.trace.length) (h_threads : s'.threads = s.threads)
    (h_get : s'.registry.get? = s.registry.get?) : Coherent r s' where
  stages u := by rw [h_es, h_threads]; exact h.stages u
  verdict := by rw [h_es]; exact h.verdict
  timely e h_mem := (h.timely e (h_es ▸ h_mem)).mono h_len
  apart := by rw [h_es]; exact h.apart
  found := by rw [h_es]; exact h.found
  bound key b := by
    rw [h_get, h_es, h.bound, boundBefore_later h.timely h_len]

/-- A move that begins a call keeps the invariant: the new call has done nothing yet. -/
theorem Coherent.started (h : Coherent r s) {key : K} :
    Coherent r (s.put t s.registry (.looking key :: s.threads t) [.began key]) := by
  obtain ⟨new, h_new⟩ : ∃ new : Episode K, new = { thread := t, key, began := s.trace.length } :=
    ⟨_, rfl⟩
  have h_es : episodes (s.put t s.registry (.looking key :: s.threads t) [.began key]).trace
      = new :: episodes s.trace := by
    rw [h_new]
    exact episodes_put s t s.registry _ (.began key) []
  have h_len : s.trace.length ≤ (s.put t s.registry (.looking key :: s.threads t)
      [.began key]).trace.length := by simp
  have h_before : ∀ {time k b}, BoundBefore r (new :: episodes s.trace) time k b ↔
      BoundBefore r (episodes s.trace) time k b := by
    intro time k b
    rw [← List.nil_append (new :: _), boundBefore_insert, List.nil_append]
    simp [Episode.BindsAt, h_new]
  refine ⟨?stages, ?verdict, ?timely, ?apart, ?found, ?bound⟩ <;> rw [h_es]
  case stages =>
    intro u
    by_cases h_u : u = t
    · subst h_u
      rw [List.filter_cons_of_pos (by simp [h_new, Episode.isOpen]), System.threads_put_self]
      refine List.Forall₂.cons ?_ (h.stages u)
      rw [h_new]
      exact .looking rfl rfl
    · rw [List.filter_cons_of_neg (by simp [h_new, Episode.isOpen, Ne.symm h_u]),
        System.threads_put_of_ne _ _ _ _ _ h_u]
      exact h.stages u
  case verdict =>
    intro x h_x time outcome h_ending
    rcases List.mem_cons.1 h_x with rfl | h_x
    · simp [h_new] at h_ending
    · exact h.verdict x h_x h_ending
  case timely =>
    intro x h_x
    rcases List.mem_cons.1 h_x with rfl | h_x
    · subst h_new
      exact ⟨by simp, by simp, by simp, by simp⟩
    · exact (h.timely x h_x).mono h_len
  case apart =>
    refine List.pairwise_cons.2 ⟨fun x _ => ?_, h.apart⟩
    intro time found found' h_c
    simp [h_new] at h_c
  case found =>
    intro x h_x time found h_c b
    rcases List.mem_cons.1 h_x with rfl | h_x
    · simp [h_new] at h_c
    · rw [h_before]
      exact h.found x h_x h_c b
  case bound =>
    intro k b
    rw [h_before, boundBefore_later h.timely h_len]
    exact h.bound k b

/-! ### Moves inside a call -/

/-- The innermost call of a thread that is in a stage: its episode among all episodes. -/
theorem Coherent.exists_innermost (h : Coherent r s) {stage : Stage K} {outer : List (Stage K)}
    (h_at : s.threads t = stage :: outer) :
    ∃ pre e post, episodes s.trace = pre ++ e :: post ∧ (∀ x ∈ pre, ¬ x.isOpen t = true) ∧
      e.isOpen t = true ∧ Tracks e stage ∧
      List.Forall₂ Tracks (post.filter (·.isOpen t)) outer := by
  have h_stages := h.stages t
  rw [h_at] at h_stages
  -- the thread is in a stage, so it has an open call
  cases h_open : (episodes s.trace).filter (·.isOpen t) with
  | nil =>
    rw [h_open] at h_stages
    cases h_stages
  | cons e rest =>
    rw [h_open] at h_stages
    obtain ⟨pre, post, h_es, h_pre, h_e, rfl⟩ := List.filter_eq_cons_iff.1 h_open
    cases h_stages with
    | cons h_tracks h_outer => exact ⟨pre, e, post, h_es, h_pre, h_e, h_tracks, h_outer⟩

/-- What was bound by now is the same when an episode is replaced by one that binds only now. -/
theorem boundBefore_replace {pre post : List (Episode K)} {e new : Episode K} {now : Nat}
    (h_key : new.key = e.key)
    (h_binds : ∀ {time b}, time < now → (new.BindsAt time b ↔ e.BindsAt time b))
    {time : Nat} (h_le : time ≤ now) {key : K} {b : Breaker K} :
    BoundBefore r (pre ++ new :: post) time key b ↔
      BoundBefore r (pre ++ e :: post) time key b := by
  rw [boundBefore_insert, boundBefore_insert, h_key]
  refine or_congr_right (and_congr_right fun _ => exists_congr fun at_ =>
    and_congr_right fun h_lt => h_binds (Nat.lt_of_lt_of_le h_lt h_le))

/-- **A move inside a call.** The move replaces the episode `e` of the innermost call of thread `t`
by `new`. It keeps the invariant if `new` has consulted the bindings only where `e` had or now, and
if the bindings gain what `new` binds now. -/
theorem Coherent.amended (h : Coherent r s) {pre post : List (Episode K)} {e : Episode K}
    (new : Episode K) (h_es : episodes s.trace = pre ++ e :: post)
    (h_es' : episodes s'.trace = pre ++ new :: post)
    (h_pre : ∀ x ∈ pre, ¬ x.isOpen t = true) (h_open : e.isOpen t = true)
    (h_len : s.trace.length ≤ s'.trace.length)
    (h_others : ∀ u, u ≠ t → s'.threads u = s.threads u)
    (h_stages : List.Forall₂ Tracks ((new :: post).filter (·.isOpen t)) (s'.threads t))
    (h_thread : new.thread = e.thread) (h_key : new.key = e.key)
    (h_verdict : ∀ {time outcome}, new.ending = some (time, outcome) →
      new.verdict? = some outcome)
    (h_timely : new.Timely s'.trace.length)
    (h_consulted : ∀ {time found}, new.consulted = some (time, found) →
      e.consulted = some (time, found) ∨
        time = s.trace.length ∧ found = s.registry.get? e.key)
    (h_binds : ∀ {time b}, time < s.trace.length → (new.BindsAt time b ↔ e.BindsAt time b))
    (h_bound : ∀ key b, s'.registry.get? key = some b ↔
      s.registry.get? key = some b ∨ e.key = key ∧ new.BindsAt s.trace.length b) :
    Coherent r s' := by
  have h_e : e ∈ episodes s.trace := by simp [h_es]
  have h_old : ∀ x ∈ pre ++ post, x ∈ episodes s.trace := by
    intro x h_x
    rw [h_es]
    simp only [List.mem_append, List.mem_cons] at h_x ⊢
    tauto
  have h_new : ∀ x ∈ episodes s'.trace, x ∈ pre ++ post ∨ x = new := by
    intro x h_x
    rw [h_es'] at h_x
    simp only [List.mem_append, List.mem_cons] at h_x ⊢
    tauto
  -- what a call found by now does not depend on the replacement
  have h_before : ∀ {time}, time ≤ s.trace.length → ∀ {key b},
      BoundBefore r (episodes s'.trace) time key b ↔
        BoundBefore r (episodes s.trace) time key b := by
    intro time h_le key b
    rw [h_es, h_es']
    exact boundBefore_replace h_key h_binds h_le
  refine ⟨?stages, ?verdict, ?timely, ?apart, ?found, ?bound⟩
  case stages =>
    intro u
    rw [h_es', List.filter_append]
    by_cases h_u : u = t
    · subst h_u
      rw [List.filter_eq_nil_iff.2 h_pre]
      exact h_stages
    · -- neither the old nor the new episode is one of the other thread
      have h_not : ∀ x : Episode K, x.thread = t → ¬ x.isOpen u = true := by
        intro x h_x h_xu
        exact h_u ((Episode.ending_of_isOpen h_xu).1.symm.trans h_x)
      have h_et := (Episode.ending_of_isOpen h_open).1
      have h_stages_u := h.stages u
      rw [h_es, List.filter_append, List.filter_cons_of_neg (h_not e h_et)] at h_stages_u
      rw [List.filter_cons_of_neg (h_not new (h_thread.trans h_et)), h_others u h_u]
      exact h_stages_u
  case verdict =>
    intro x h_x time outcome h_ending
    rcases h_new x h_x with h_x | rfl
    · exact h.verdict x (h_old x h_x) h_ending
    · exact h_verdict h_ending
  case timely =>
    intro x h_x
    rcases h_new x h_x with h_x | rfl
    · exact (h.timely x (h_old x h_x)).mono h_len
    · exact h_timely
  case apart =>
    have h_apart := h.apart
    rw [h_es, List.pairwise_middle Episode.Apart.symm, List.pairwise_cons] at h_apart
    rw [h_es', List.pairwise_middle Episode.Apart.symm, List.pairwise_cons]
    refine ⟨fun x h_x => ?_, h_apart.2⟩
    intro time found found' h_c h_xc
    rcases h_consulted h_c with h_c | ⟨rfl, -⟩
    · exact h_apart.1 x h_x h_c h_xc
    · exact absurd ((h.timely x (h_old x h_x)).consulted_lt h_xc).2 (Nat.lt_irrefl _)
  case found =>
    intro x h_x time found h_c b
    rcases h_new x h_x with h_x | rfl
    · have h_x := h_old x h_x
      rw [h_before (Nat.le_of_lt ((h.timely x h_x).consulted_lt h_c).2)]
      exact h.found x h_x h_c b
    -- the call has consulted the bindings as before, or does so now and finds what is bound
    · rcases h_consulted h_c with h_c | ⟨rfl, rfl⟩
      · rw [h_before (Nat.le_of_lt ((h.timely e h_e).consulted_lt h_c).2), h_key]
        exact h.found e h_e h_c b
      · rw [h_before (Nat.le_refl _), h_key]
        exact h.bound e.key b
  case bound =>
    intro key b
    -- other calls bind nothing now, so only what `new` binds is left to compare
    rw [h_bound, h.bound, ← h_before (Nat.le_refl _), h_es', boundBefore_insert, boundBefore_insert,
      boundBefore_later (fun x h_x => h.timely x (h_old x h_x)) h_len, or_assoc, h_key,
      ← and_or_left]
    refine or_congr_right (and_congr_right fun _ => ?_)
    constructor
    · rintro (⟨time, h_lt, h_b⟩ | h_b)
      · exact ⟨time, Nat.lt_of_lt_of_le h_lt h_len, h_b⟩
      · exact ⟨_, h_b.lt h_timely, h_b⟩
    · rintro ⟨time, -, h_b⟩
      rcases h_consulted h_b.1 with h_c | ⟨rfl, -⟩
      · exact .inl ⟨time, ((h.timely e h_e).consulted_lt h_c).2, h_b⟩
      · exact .inr h_b

/-- A move that takes the innermost call of a thread from one stage to the next, and whose signal
amends the episode of that call by `f`. What has to be shown is only about the call: it is asked for
every episode that the old stage may track. -/
theorem Coherent.advanced (h : Coherent r s) {stage next : Stage K} {outer : List (Stage K)}
    (h_at : s.threads t = stage :: outer) {signal : Signal K} (told : List (Occurrence K))
    {after : Registry K} {f : Episode K → Episode K}
    (h_note : ∀ es, note s.trace.length es (t, signal) = amend t f es)
    (h_frame : ∀ e, (f e).thread = e.thread ∧ (f e).key = e.key ∧ (f e).began = e.began ∧
      (f e).ending = e.ending)
    (h_tracks : ∀ e, Tracks e stage → Tracks (f e) next)
    (h_consulted : ∀ e, Tracks e stage → ∀ {time found},
      (f e).consulted = some (time, found) → e.consulted = some (time, found) ∨
        time = s.trace.length ∧ found = s.registry.get? e.key)
    (h_binds : ∀ e, Tracks e stage → ∀ {time b}, time < s.trace.length →
      ((f e).BindsAt time b ↔ e.BindsAt time b))
    (h_bound : ∀ e, Tracks e stage → ∀ key b, after.get? key = some b ↔
      s.registry.get? key = some b ∨ e.key = key ∧ (f e).BindsAt s.trace.length b) :
    Coherent r (s.put t after (next :: outer) (signal :: told.map .occurred)) := by
  obtain ⟨pre, e, post, h_es, h_pre, h_open, h_e, h_outer⟩ := h.exists_innermost h_at
  obtain ⟨h_thread, h_key, h_began, h_ending⟩ := h_frame e
  -- the call stays open
  have h_none : (f e).ending = none := h_ending.trans (Episode.ending_of_isOpen h_open).2
  have h_open' : (f e).isOpen t = true := by
    rw [Episode.isOpen, h_thread, h_ending]
    exact h_open
  have h_timely := h.timely e (by simp [h_es])
  have h_len : s.trace.length <
      (s.put t after (next :: outer) (signal :: told.map .occurred)).trace.length := by
    simp
  refine h.amended (f e) h_es ?_ h_pre h_open (Nat.le_of_lt h_len)
    (fun u h_u => System.threads_put_of_ne _ _ _ _ _ h_u) ?_ h_thread h_key ?_ ?_
    (h_consulted e h_e) (h_binds e h_e) (h_bound e h_e)
  · rw [episodes_put, h_note, h_es, amend_of_isOpen f h_pre h_open]
  · rw [List.filter_cons_of_pos h_open', System.threads_put_self]
    exact .cons (h_tracks e h_e) h_outer
  · intro time outcome h_end
    rw [h_none] at h_end
    cases h_end
  · refine ⟨?_, fun h_c => ?_, fun h_end => ?_, fun _ h_end => ?_⟩
    · rw [h_began]
      exact Nat.lt_trans h_timely.began_lt h_len
    · rw [h_began]
      rcases h_consulted e h_e h_c with h_c | ⟨rfl, -⟩
      · exact ((h_timely.mono (Nat.le_of_lt h_len)).consulted_lt h_c)
      · exact ⟨h_timely.began_lt, h_len⟩
    all_goals
      rw [h_none] at h_end
      cases h_end

/-- A move that takes the innermost call of a thread to a stage that says the same of it, without a
signal about the call. -/
theorem Coherent.restaged (h : Coherent r s) {stage next : Stage K} {outer : List (Stage K)}
    (h_at : s.threads t = stage :: outer) (told : List (Occurrence K))
    (h_tracks : ∀ e, Tracks e stage → Tracks e next) :
    Coherent r (s.put t s.registry (next :: outer) (told.map .occurred)) := by
  obtain ⟨pre, e, post, h_es, h_pre, h_open, h_e, h_outer⟩ := h.exists_innermost h_at
  have h_mem : e ∈ episodes s.trace := by simp [h_es]
  have h_len : s.trace.length ≤
      (s.put t s.registry (next :: outer) (told.map .occurred)).trace.length := by simp
  refine h.amended e h_es ?_ h_pre h_open h_len
    (fun u h_u => System.threads_put_of_ne _ _ _ _ _ h_u) ?_ rfl rfl (h.verdict e h_mem)
    ((h.timely e h_mem).mono h_len) .inl (fun _ => Iff.rfl) ?_
  · rw [System.trace_put, episodes_append_occurred, h_es]
  · rw [List.filter_cons_of_pos h_open, System.threads_put_self]
    exact .cons (h_tracks e h_e) h_outer
  · intro key b
    refine ⟨.inl, ?_⟩
    rintro (h_get | ⟨-, h_b⟩)
    · exact h_get
    · exact absurd (h_b.lt (h.timely e h_mem)) (Nat.lt_irrefl _)

/-- A move that ends the innermost call of a thread. -/
theorem Coherent.finished (h : Coherent r s) {outcome : Outcome K} {outer : List (Stage K)}
    (h_at : s.threads t = .returning outcome :: outer) :
    Coherent r (s.put t s.registry outer [.ended outcome]) := by
  obtain ⟨pre, e, post, h_es, h_pre, h_open, h_e, h_outer⟩ := h.exists_innermost h_at
  have h_timely := h.timely e (by simp [h_es])
  have h_len : s.trace.length <
      (s.put t s.registry outer [.ended outcome]).trace.length := by simp
  refine h.amended (e.finish s.trace.length outcome) h_es ?_ h_pre h_open (Nat.le_of_lt h_len)
    (fun u h_u => System.threads_put_of_ne _ _ _ _ _ h_u) ?_ rfl rfl ?_ ?_ .inl
    (fun _ => Iff.rfl) ?_
  · refine (episodes_put s t s.registry outer (.ended outcome) []).trans ?_
    rw [note, h_es, amend_of_isOpen _ h_pre h_open]
  · rw [List.filter_cons_of_neg (by simp [Episode.isOpen, Episode.finish]),
      System.threads_put_self]
    exact h_outer
  · intro time outcome' h_end
    cases h_end
    cases h_e with
    | returning h_verdict => exact h_verdict
  · refine ⟨?_, fun h_c => ?_, fun h_end => ?_, fun h_c h_end => ?_⟩
    · exact Nat.lt_trans h_timely.began_lt h_len
    · exact (h_timely.mono (Nat.le_of_lt h_len)).consulted_lt h_c
    · cases h_end
      exact ⟨h_timely.began_lt, h_len⟩
    · cases h_end
      exact (h_timely.consulted_lt h_c).2
  · intro key b
    refine ⟨.inl, ?_⟩
    rintro (h_get | ⟨-, h_b⟩)
    · exact h_get
    · exact absurd (h_timely.consulted_lt h_b.1).2 (Nat.lt_irrefl _)

/-- **One move keeps the invariant.** -/
theorem Coherent.transition {move : Move K} (h : Coherent r s)
    (h_move : System.Transition s t move s') : Coherent r s' := by
  cases h_move with
  | @refuse call cause h_free h_key =>
    refine h.quiet ?_ (by simp) (System.threads_put_threads ..) rfl
    rw [System.trace_put, List.map_append, ← List.append_assoc, List.map_singleton, episodes_snoc,
      episodes_append_occurred]
    rfl
  | start h_free h_key => exact h.started
  | peek h_free =>
    exact h.quiet (episodes_put s t s.registry _ (.peeked _ _) []) (by simp)
      (System.threads_put_threads ..) rfl
  | @hit key outer b h_at h_get =>
    -- the breaker found is the verdict, and nothing is bound
    refine h.advanced h_at [] (fun _ => rfl) (fun _ => ⟨rfl, rfl, rfl, rfl⟩) ?_ ?_ ?_ ?_ <;>
      intro e h_e <;> cases h_e with | looking h_consulted h_product => ?_
    · exact .returning rfl
    · rintro time found ⟨⟩
      exact .inr ⟨rfl, h_get.symm⟩
    · intro time b' _
      simp [Episode.BindsAt, Episode.consult, h_product]
    · intro key b'
      simp [Episode.BindsAt, Episode.consult, h_product]
  | @miss key outer h_at h_get =>
    refine h.advanced h_at [.entered key] (fun _ => rfl) (fun _ => ⟨rfl, rfl, rfl, rfl⟩)
      ?_ ?_ ?_ ?_ <;> intro e h_e <;> cases h_e with | looking h_consulted h_product => ?_
    · exact .creating rfl h_product
    · rintro time found ⟨⟩
      exact .inr ⟨rfl, h_get.symm⟩
    · intro time b _
      simp [Episode.BindsAt, Episode.consult, h_consulted, h_product]
    · intro key b
      simp [Episode.BindsAt, Episode.consult, h_product]
  | @make key outer h_at =>
    -- what the look-up found no longer counts, and the instance is not bound yet
    refine h.advanced h_at [] (fun _ => rfl) (fun _ => ⟨rfl, rfl, rfl, rfl⟩) ?_ ?_ ?_ ?_ <;>
      intro e h_e <;> cases h_e with | creating h_consulted h_product => ?_
    · exact .settling rfl rfl rfl
    · rintro time found ⟨⟩
    · intro time b _
      simp [Episode.BindsAt, Episode.leave, h_product]
    · intro key b
      simp [Episode.BindsAt, Episode.leave]
  | @fail key outer cause h_at =>
    refine h.advanced h_at _ (fun _ => rfl) (fun _ => ⟨rfl, rfl, rfl, rfl⟩) ?_ ?_ ?_ ?_ <;>
      intro e h_e <;> cases h_e with | creating h_consulted h_product => ?_
    · refine .returning ?_
      simp [Episode.verdict?, Episode.leave, h_consulted]
    · intro time found h_c
      exact .inl h_c
    · intro time b _
      simp [Episode.BindsAt, Episode.leave, h_product]
    · intro key b
      simp [Episode.BindsAt, Episode.leave]
  | @settle b outer h_at =>
    refine h.advanced h_at _ (fun _ => rfl) (fun _ => ⟨rfl, rfl, rfl, rfl⟩) ?_ ?_ ?_ ?_ <;>
      intro e h_e <;> cases h_e with | settling h_consulted h_product h_key => ?_
    · have h_verdict : (e.consult s.trace.length (s.registry.get? b.key)).verdict? =
          some (.ok (s.registry.settle b).winner) := by
        rw [Registry.winner_settle]
        cases h_get : s.registry.get? b.key <;>
          simp [Episode.verdict?, Episode.consult, h_product]
      split
      · exact .measuring h_verdict
      · exact .returning h_verdict
    · rintro time found ⟨⟩
      exact .inr ⟨rfl, h_key ▸ rfl⟩
    · intro time b' h_lt
      simp [Episode.BindsAt, Episode.consult, h_consulted, Nat.ne_of_gt h_lt]
    · intro key b'
      rw [Registry.get?_settle_eq_some_iff, h_key]
      refine or_congr_right (and_congr_right fun h_eq => ?_)
      subst h_eq
      simp [Episode.BindsAt, Episode.consult, h_product]
  | measure h_at => exact h.restaged h_at [] fun e h_e => by cases h_e with
    | measuring h_verdict => exact .publishing h_verdict
  | publish h_at => exact h.restaged h_at _ fun e h_e => by cases h_e with
    | publishing h_verdict => exact .returning h_verdict
  | finish h_at => exact h.finished h_at

/-- **The invariant holds after every schedule.** -/
theorem Coherent.of_run? {schedule : System.Schedule K}
    (h_run : (System.idle r).run? schedule = some s) : Coherent r s :=
  System.run?_invariant Coherent.transition h_run (Coherent.idle r)

/-- **No return is left out.** Every return in a trace is the ending of one of its episodes. -/
theorem System.exists_episode_of_ended {schedule : Schedule K}
    (h_run : (idle r).run? schedule = some s) {n : Nat} {outcome : Outcome K}
    (h : s.trace[n]? = some (t, .ended outcome)) :
    ∃ e ∈ episodes s.trace, e.thread = t ∧ e.ending = some (n, outcome) := by
  refine (run?_invariant (P := fun s => Coherent r s ∧ ∀ n u outcome,
    s.trace[n]? = some (u, .ended outcome) →
      ∃ e ∈ episodes s.trace, e.thread = u ∧ e.ending = some (n, outcome)) ?_ h_run
    ⟨.idle r, fun n u outcome h => by simp [idle] at h⟩).2 n t outcome h
  rintro s u move s' ⟨h_coh, ih⟩ h_move
  refine ⟨h_coh.transition h_move, fun n v outcome h => ?_⟩
  have h_trace : ∃ signals, s'.trace = s.trace ++ signals := by cases h_move <;> exact ⟨_, rfl⟩
  rcases Nat.lt_or_ge n s.trace.length with h_lt | h_ge
  · obtain ⟨signals, h_trace⟩ := h_trace
    rw [h_trace, List.getElem?_append_left h_lt] at h
    rw [h_trace]
    exact exists_ended_append (ih n v outcome h) signals
  · -- only a return gives such a signal, and it ends the innermost call
    cases h_move with
    | @finish outcome' outer h_at =>
      obtain ⟨pre, e, post, h_es, h_pre, h_open, -, -⟩ := h_coh.exists_innermost h_at
      rw [trace_put, List.getElem?_append_right h_ge] at h
      obtain ⟨h_zero, rfl, rfl⟩ : n - s.trace.length = 0 ∧ u = v ∧ outcome' = outcome := by
        have h_mem := List.mem_of_getElem? h
        have h_len := (List.getElem?_eq_some_iff.1 h).1
        simp at h_mem h_len
        exact ⟨by omega, h_mem.1.symm, h_mem.2.symm⟩
      obtain rfl : n = s.trace.length := by omega
      refine ⟨e.finish s.trace.length outcome', ?_, (Episode.ending_of_isOpen h_open).1, rfl⟩
      have h_es' := episodes_put s u s.registry outer (.ended outcome') []
      rw [note, h_es, amend_of_isOpen _ h_pre h_open] at h_es'
      exact h_es' ▸ List.mem_append_right _ (List.mem_cons_self ..)
    | _ =>
      rw [trace_put, List.getElem?_append_right h_ge] at h
      have h_mem := List.mem_of_getElem? h
      simp at h_mem

end Invariant

end KeyedBreakers
