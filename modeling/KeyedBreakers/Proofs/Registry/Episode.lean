import KeyedBreakers.Registry.Interleaving
import Mathlib.Data.List.Induction

/-!
# The calls in a trace

A trace is a flat list of signals from all threads. Here it is read as the list of the calls it
tells of. A call belongs to one thread, and the calls of a thread are nested, so a signal of a thread
is about the call that the thread began last and has not ended yet.

Times are places in the trace. An *episode* records when a call began and when it ended, and between
them the two things that decide its outcome: what its factory call came to (`product`), and what the
bindings held for its key when the call consulted them (`consulted`). A call consults the bindings at
its look-up and, if the factory makes an instance, again when the instance is settled; then the first
answer no longer matters, and `consulted` is empty in between.

* `episodes` — the calls in a trace, the latest first;
* `Episode.verdict?` — the outcome that product and answer call for;
* `Episode.precedes` — one call has ended before another begins;
* `exists_episode_of_began` — no call is left out.
-/

namespace KeyedBreakers

/-- One call for a key, as a trace tells of it. -/
structure Episode (K : Type) where
  thread : Nat
  key : K
  /-- When the call began. -/
  began : Nat
  /-- When the call last consulted the bindings, and what they held for its key then. -/
  consulted : Option (Nat × Option (Breaker K)) := none
  /-- What the call came out of the factory with. -/
  product : Option (Except String (Breaker K)) := none
  /-- When the call ended, and with what. -/
  ending : Option (Nat × Outcome K) := none

namespace Episode

variable {K : Type}

/-- Whether the call is one of the given thread and has not ended. -/
def isOpen (thread : Nat) (e : Episode K) : Bool :=
  e.thread = thread && e.ending.isNone

/-- The call after it has consulted the bindings. -/
def consult (time : Nat) (found : Option (Breaker K)) (e : Episode K) : Episode K :=
  { e with consulted := some (time, found) }

/-- The call after it has come out of the factory. With an instance it has to consult the bindings
again. -/
def leave (product : Except String (Breaker K)) (e : Episode K) : Episode K :=
  match product with
  | .ok _ => { e with product := some product, consulted := none }
  | .error _ => { e with product := some product }

/-- The call after it has ended. -/
def finish (time : Nat) (outcome : Outcome K) (e : Episode K) : Episode K :=
  { e with ending := some (time, outcome) }

/-- A call that is open belongs to the thread and has no ending. -/
theorem ending_of_isOpen {e : Episode K} {t : Nat} (h : e.isOpen t = true) :
    e.thread = t ∧ e.ending = none := by
  simpa [isOpen] using h

/-- The outcome that a call should have: the breaker that was found for its key; if none was found,
what came out of the factory. -/
def verdict? (e : Episode K) : Option (Outcome K) :=
  match e.consulted, e.product with
  | some (_, some b), _ => some (.ok b)
  | some (_, none), some (.ok b) => some (.ok b)
  | some (_, none), some (.error cause) => some (.error (.creation e.key cause))
  | _, _ => none

/-- At the given time the call bound its own instance: it had one and found the key unbound. -/
def BindsAt (e : Episode K) (time : Nat) (b : Breaker K) : Prop :=
  e.consulted = some (time, none) ∧ e.product = some (.ok b)

/-- The call had ended when the other began. -/
def precedes (e e' : Episode K) : Prop :=
  ∃ time outcome, e.ending = some (time, outcome) ∧ time < e'.began

end Episode

section Episodes

variable {K : Type}

/-- Changes the latest call that the thread is still in. -/
def amend (thread : Nat) (f : Episode K → Episode K) : List (Episode K) → List (Episode K)
  | [] => []
  | e :: es => if e.isOpen thread then f e :: es else e :: amend thread f es

/-- The calls after one more signal, which comes at the given time. -/
def note (time : Nat) (es : List (Episode K)) : Nat × Signal K → List (Episode K)
  | (t, .began key) => { thread := t, key, began := time } :: es
  | (t, .looked found) => amend t (Episode.consult time found) es
  | (t, .left product) => amend t (Episode.leave product) es
  | (t, .settled found) => amend t (Episode.consult time found) es
  | (t, .ended outcome) => amend t (Episode.finish time outcome) es
  | _ => es

/-- The calls in a trace, the latest first. -/
def episodes (signals : List (Nat × Signal K)) : List (Episode K) :=
  signals.zipIdx.foldl (fun es x => note x.2 es x.1) []

/-! ### Reading on -/

@[simp] theorem episodes_nil : episodes ([] : List (Nat × Signal K)) = [] := rfl

theorem episodes_snoc (signals : List (Nat × Signal K)) (x : Nat × Signal K) :
    episodes (signals ++ [x]) = note signals.length (episodes signals) x := by
  simp [episodes, List.zipIdx_append]

/-- What a registry shows to the outside changes nothing about the calls. -/
theorem episodes_append_occurred (signals : List (Nat × Signal K)) (t : Nat)
    (told : List (Occurrence K)) :
    episodes (signals ++ (told.map .occurred).map fun signal => (t, signal)) = episodes signals := by
  induction told generalizing signals with
  | nil => simp
  | cons o told ih =>
    have h_first : episodes (signals ++ [(t, .occurred o)]) = episodes signals := by
      rw [episodes_snoc]
      rfl
    rw [List.map_cons, List.map_cons, List.append_cons, ih, h_first]

/-- A move that gives one signal, and shows some things to the outside, is read as that signal. -/
theorem episodes_put (s : System K) (t : Nat) (r : Registry K) (stages : List (Stage K))
    (signal : Signal K) (told : List (Occurrence K)) :
    episodes (s.put t r stages (signal :: told.map .occurred)).trace
      = note s.trace.length (episodes s.trace) (t, signal) := by
  rw [System.put, List.map_cons, List.append_cons, episodes_append_occurred, episodes_snoc]

/-- The amended call is the first that the thread is still in. -/
theorem amend_of_isOpen {t : Nat} (f : Episode K → Episode K) {pre post : List (Episode K)}
    {e : Episode K} (h_pre : ∀ x ∈ pre, ¬ x.isOpen t = true) (h_open : e.isOpen t = true) :
    amend t f (pre ++ e :: post) = pre ++ f e :: post := by
  induction pre with
  | nil => simp [amend, h_open]
  | cons x pre ih =>
    have h_x := h_pre x (List.mem_cons_self ..)
    rw [List.cons_append, amend, if_neg h_x, ih fun y hy => h_pre y (List.mem_cons_of_mem _ hy)]
    rfl

/-- An amendment that a view of the calls does not see. -/
theorem map_amend {α : Type} {t : Nat} {f : Episode K → Episode K} {view : Episode K → α}
    (h_view : ∀ e, view (f e) = view e) (es : List (Episode K)) :
    (amend t f es).map view = es.map view := by
  induction es with
  | nil => rfl
  | cons e es ih =>
    rw [amend]
    split
    · rw [List.map_cons, List.map_cons, h_view]
    · rw [List.map_cons, List.map_cons, ih]

/-! ### No call is left out -/

/-- What is true of some call, and stays true of calls under a signal, is true of some call after
the signal. -/
theorem exists_mem_note {P : Episode K → Prop} {time : Nat} {es : List (Episode K)}
    (h_consult : ∀ {e} found, P e → P (e.consult time found))
    (h_leave : ∀ {e} product, P e → P (e.leave product))
    (h_finish : ∀ {e t} outcome, e.isOpen t = true → P e → P (e.finish time outcome))
    (x : Nat × Signal K) (h : ∃ e ∈ es, P e) : ∃ e ∈ note time es x, P e := by
  -- an amendment changes one call at most, and the changed one keeps the property
  have h_amend : ∀ (t : Nat) (f : Episode K → Episode K),
      (∀ e, e.isOpen t = true → P e → P (f e)) → ∃ e ∈ amend t f es, P e := by
    intro t f h_f
    induction es with
    | nil => exact absurd h (by simp)
    | cons y es ih =>
      rw [amend]
      obtain ⟨e, h_mem, h_e⟩ := h
      -- the call stands first or later, and the first call is the amended one or is not
      rcases List.mem_cons.1 h_mem with rfl | h_mem <;> split
      next h_open => exact ⟨f e, List.mem_cons_self .., h_f e h_open h_e⟩
      next => exact ⟨e, List.mem_cons_self .., h_e⟩
      next => exact ⟨e, List.mem_cons_of_mem _ h_mem, h_e⟩
      next =>
        obtain ⟨e', h_mem', h_e'⟩ := ih ⟨e, h_mem, h_e⟩
        exact ⟨e', List.mem_cons_of_mem _ h_mem', h_e'⟩
  obtain ⟨t, signal⟩ := x
  cases signal with
  | began key =>
    obtain ⟨e, h_mem, h_e⟩ := h
    exact ⟨e, List.mem_cons_of_mem _ h_mem, h_e⟩
  | looked found | settled found => exact h_amend t _ fun e _ => h_consult found
  | left product => exact h_amend t _ fun e _ => h_leave product
  | ended outcome => exact h_amend t _ fun e => h_finish outcome
  | occurred | refused | peeked => exact h

/-- **No call is left out.** Every call that began according to a trace is one of its episodes, with
its time, its thread and its key. -/
theorem exists_episode_of_began {signals : List (Nat × Signal K)} {n t : Nat} {key : K}
    (h : signals[n]? = some (t, .began key)) :
    ∃ e ∈ episodes signals, e.began = n ∧ e.thread = t ∧ e.key = key := by
  induction signals using List.reverseRecOn with
  | nil => simp at h
  | append_singleton signals x ih =>
    rw [episodes_snoc]
    rcases Nat.lt_trichotomy n signals.length with h_lt | rfl | h_gt
    · rw [List.getElem?_append_left h_lt] at h
      refine exists_mem_note (fun _ h_e => h_e) (fun product h_e => ?_) (fun _ _ h_e => h_e) x (ih h)
      cases product <;> exact h_e
    · -- the signal is the one just read
      obtain rfl : x = (t, .began key) := by simpa using h
      exact ⟨_, List.mem_cons_self .., rfl, rfl, rfl⟩
    · rw [List.getElem?_eq_none (by simp; omega)] at h
      cases h

/-- An ending, once recorded, stays. -/
theorem exists_ended_append {signals : List (Nat × Signal K)} {n t : Nat} {outcome : Outcome K}
    (h : ∃ e ∈ episodes signals, e.thread = t ∧ e.ending = some (n, outcome))
    (more : List (Nat × Signal K)) :
    ∃ e ∈ episodes (signals ++ more), e.thread = t ∧ e.ending = some (n, outcome) := by
  induction more using List.reverseRecOn with
  | nil => rw [List.append_nil]; exact h
  | append_singleton more x ih =>
    rw [← List.append_assoc, episodes_snoc]
    refine exists_mem_note (fun _ h_e => h_e) (fun product h_e => ?_)
      (fun _ h_open h_e => ?_) x ih
    · cases product <;> exact h_e
    · -- a call that has ended is not open
      rw [(Episode.ending_of_isOpen h_open).2] at h_e
      cases h_e.2

end Episodes

end KeyedBreakers
