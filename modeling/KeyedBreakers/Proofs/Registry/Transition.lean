import KeyedBreakers.Registry.Interleaving

/-!
# What one move does

`System.step?` computes the system after a move. Here the same is said as a relation, `Transition`,
with one rule for each thing that can happen: a look-up that finds a breaker and one that finds none
are two rules, and so are a factory call that succeeds and one that fails. Every statement about
schedules is proved rule by rule on this relation and never by opening `step?`.

* `step?_eq_some_iff` — the relation says exactly what `step?` computes;
* `run?_invariant` — what every move keeps, every schedule keeps;
* `run?_append` — a schedule may be cut anywhere.
-/

namespace KeyedBreakers

/-- Whether a move starts a call for the given key on a registry: the call names the key, or the
selector of the registry derives it. -/
def Move.Starts {K : Type} (r : Registry K) : Move K → K → Prop
  | .call c, key => r.selector c = .ok key
  | .callKey k, key => k = key
  | _, _ => False

namespace System

variable {K : Type} [DecidableEq K]

/-- **One move of a thread.** `Transition s t move s'` holds when thread `t` can make the move in
`s`, and `s'` is the system after it. -/
inductive Transition (s : System K) (t : Nat) : Move K → System K → Prop where
  | refuse {call : Call} {cause : KeyError} (h_free : canStart (s.threads t) = true)
      (h_key : s.registry.selector call = .error cause) :
      Transition s t (.call call) (s.put t s.registry (s.threads t)
        ((Registry.toldUnderivable call cause).map .occurred ++ [.refused cause]))
  | start {move : Move K} {key : K} (h_free : canStart (s.threads t) = true)
      (h_key : move.Starts s.registry key) :
      Transition s t move (s.put t s.registry (.looking key :: s.threads t) [.began key])
  | peek {key : K} (h_free : canStart (s.threads t) = true) :
      Transition s t (.peek key)
        (s.put t s.registry (s.threads t) [.peeked key (s.registry.get? key)])
  | hit {key : K} {outer : List (Stage K)} {b : Breaker K}
      (h_at : s.threads t = .looking key :: outer) (h_get : s.registry.get? key = some b) :
      Transition s t .look
        (s.put t s.registry (.returning (.ok b) :: outer) [.looked (some b)])
  | miss {key : K} {outer : List (Stage K)}
      (h_at : s.threads t = .looking key :: outer) (h_get : s.registry.get? key = none) :
      Transition s t .look
        (s.put t s.registry (.creating key :: outer) [.looked none, .occurred (.entered key)])
  | make {key : K} {outer : List (Stage K)} (h_at : s.threads t = .creating key :: outer) :
      Transition s t .make
        (s.put t (s.registry.make key).2 (.settling (s.registry.make key).1 :: outer)
          [.left (.ok (s.registry.make key).1)])
  | fail {key : K} {outer : List (Stage K)} {cause : String}
      (h_at : s.threads t = .creating key :: outer) :
      Transition s t (.fail cause)
        (s.put t s.registry (.returning (.error (.creation key cause)) :: outer)
          (.left (.error cause) :: (s.registry.toldFailure key cause).map .occurred))
  | settle {b : Breaker K} {outer : List (Stage K)}
      (h_at : s.threads t = .settling b :: outer) :
      Transition s t .settle
        (s.put t (s.registry.settle b).registry
          ((if s.registry.metered then .measuring (s.registry.settle b).winner
            else .returning (.ok (s.registry.settle b).winner)) :: outer)
          (.settled (s.registry.get? b.key) :: (s.registry.settle b).trace.map .occurred))
  | measure {winner : Breaker K} {outer : List (Stage K)}
      (h_at : s.threads t = .measuring winner :: outer) :
      Transition s t .measure
        (s.put t s.registry (.publishing winner s.registry.size :: outer) [])
  | publish {winner : Breaker K} {size : Nat} {outer : List (Stage K)}
      (h_at : s.threads t = .publishing winner size :: outer) :
      Transition s t .publish
        (s.put t s.registry (.returning (.ok winner) :: outer)
          ((s.registry.gauged size).map .occurred))
  | finish {outcome : Outcome K} {outer : List (Stage K)}
      (h_at : s.threads t = .returning outcome :: outer) :
      Transition s t .finish (s.put t s.registry outer [.ended outcome])

/-- **The relation is the function.** The first half follows the alternatives of `step?` in order. -/
theorem step?_eq_some_iff {s s' : System K} {t : Nat} {move : Move K} :
    s.step? t move = some s' ↔ Transition s t move s' := by
  constructor
  · intro h
    simp only [step?] at h
    split at h
    next call =>
      split at h
      next h_free =>
        split at h
        next cause h_key => cases h; exact .refuse h_free h_key
        next key h_key => cases h; exact .start h_free h_key
      next => cases h
    next key =>
      split at h
      next h_free => cases h; exact .start h_free rfl
      next => cases h
    next key =>
      split at h
      next h_free => cases h; exact .peek h_free
      next => cases h
    next key outer h_at =>
      split at h
      next b h_get => cases h; exact .hit h_at h_get
      next h_get => cases h; exact .miss h_at h_get
    next key outer h_at => cases h; exact .make h_at
    next cause key outer h_at => cases h; exact .fail h_at
    next b outer h_at => cases h; exact .settle h_at
    next winner outer h_at => cases h; exact .measure h_at
    next winner size outer h_at => cases h; exact .publish h_at
    next outcome outer h_at => cases h; exact .finish h_at
    next => cases h
  · intro h
    cases h with
    | start h_free h_key =>
      cases move <;> simp_all [step?, Move.Starts]
    | _ => simp_all [step?]

/-! ### What a move puts in place -/

section Put

omit [DecidableEq K]

variable (s : System K) (t : Nat) (r : Registry K) (stages : List (Stage K))
  (signals : List (Signal K))

@[simp] theorem registry_put : (s.put t r stages signals).registry = r := rfl

@[simp] theorem trace_put :
    (s.put t r stages signals).trace = s.trace ++ signals.map fun signal => (t, signal) := rfl

@[simp] theorem threads_put_self : (s.put t r stages signals).threads t = stages := if_pos rfl

theorem threads_put_of_ne {u : Nat} (h : u ≠ t) :
    (s.put t r stages signals).threads u = s.threads u := if_neg h

theorem threads_put_threads : (s.put t r (s.threads t) signals).threads = s.threads := by
  funext u
  by_cases h : u = t
  · rw [h, threads_put_self]
  · exact threads_put_of_ne s t r _ signals h

/-- What a second move of a thread puts in place hides what the first did, but for what happened. -/
theorem put_put (r' : Registry K) (stages' : List (Stage K)) (signals' : List (Signal K)) :
    (s.put t r stages signals).put t r' stages' signals'
      = s.put t r' stages' (signals ++ signals') := by
  simp only [put, mk.injEq, true_and]
  refine ⟨funext fun u => ?_, ?_⟩
  · by_cases h : u = t
    · rw [if_pos h, if_pos h]
    · rw [if_neg h, if_neg h, if_neg h]
  · rw [List.map_append, List.append_assoc]

end Put

/-- No move takes back what has happened. -/
theorem Transition.exists_trace_eq {s s' : System K} {t : Nat} {move : Move K}
    (h : Transition s t move s') : ∃ new, s'.trace = s.trace ++ new := by
  cases h <;> exact ⟨_, rfl⟩

/-! ### Schedules -/

@[simp] theorem run?_nil (s : System K) : s.run? [] = some s := rfl

theorem run?_cons (s : System K) (t : Nat) (move : Move K) (schedule : Schedule K) :
    s.run? ((t, move) :: schedule) = (s.step? t move).bind (·.run? schedule) := by
  rw [run?, List.foldlM_cons]
  rfl

/-- A schedule may be cut anywhere. -/
theorem run?_append (s : System K) (first second : Schedule K) :
    s.run? (first ++ second) = (s.run? first).bind (·.run? second) := by
  rw [run?, List.foldlM_append]
  rfl

/-- What every move keeps, every schedule keeps. -/
theorem run?_invariant {P : System K → Prop}
    (h_step : ∀ {s t move s'}, P s → Transition s t move s' → P s') {s s' : System K}
    {schedule : Schedule K} (h_run : s.run? schedule = some s') (h : P s) : P s' := by
  induction schedule generalizing s with
  | nil => cases h_run; exact h
  | cons head rest ih =>
    obtain ⟨t, move⟩ := head
    rw [run?_cons, Option.bind_eq_some_iff] at h_run
    obtain ⟨s₁, h_head, h_rest⟩ := h_run
    exact ih h_rest (h_step h (step?_eq_some_iff.1 h_head))

end System

end KeyedBreakers
