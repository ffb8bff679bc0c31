import KeyedBreakers.Proofs.Registry.Agenda
import Mathlib.Algebra.BigOperators.Group.Finset.Piecewise
import Mathlib.Algebra.Order.Group.Multiset
import Mathlib.Data.Multiset.AddSub
import Mathlib.Tactic.Abel

/-!
# The order of a race does not matter

Any number of threads resolve one key that has no breaker, and all of them are in the factory before
the first leaves it. Which factory calls succeed is given; in which order the threads leave and make
their further moves is not. What the race comes to, `System.Decided`, does not mention the order: each
failing thread has its failure, all others have one new breaker, and what is told is the same up to
its order.

The argument has two parts. Each racer *stands* somewhere on its way (`System.Frame`), and the key,
once bound, stays bound to the winner (`System.Grown`). And what has been told, together with what the
remaining moves will tell (`Registry.outlook`), is the same all the time. The outlook counts every
settled instance as a loss, so it is wrong by one as soon as the first is settled; the invariant of
the race, `System.Scattering`, puts that right.

* `Registry.toldByRace` — what a race tells: who entered the factory, the events and the updates;
  `Registry.toldByRace_eq` — the same, racer by racer;
* `System.gather` — after any order of the look-ups all racers are in the factory;
* `System.scatter` — after any order of the rest the race is decided;
* `System.pass` — racers for a key that has a breaker get it, and nothing is told;
* `System.race_decided` — the three together.
-/

namespace KeyedBreakers

variable {K : Type}

/-! ### What a race tells -/

namespace Registry

/-- What is told of an instance that is bound to its key. -/
def toldCreation (r : Registry K) (key : K) : List (Occurrence K) :=
  .logged (.created key) :: r.counted .created

/-- What is told of an instance that is dropped. -/
def toldLoss (r : Registry K) (key : K) : List (Occurrence K) :=
  .logged (.lostRace key) :: r.counted .raceLosses

/-- What a racer tells on its way out of the factory, but for what becomes of its instance: its
failure, if the factory fails, and otherwise the new size. -/
def toldOnExit (r : Registry K) (key : K) : Option String → List (Occurrence K)
  | some cause => r.toldFailure key cause
  | none => r.gauged (r.size + 1)

/-- How many of the racers the factory does not fail. -/
def makers (racers : Finset Nat) (failure : Nat → Option String) : Nat :=
  (racers.filter fun t => failure t = none).card

/-- The events of a race of the given threads for an unbound key. There is a warning for each thread
that the factory fails; if there are others, one of them has made the breaker of the key, and the
rest have lost the race. -/
def raceEvents (key : K) (racers : Finset Nat) (failure : Nat → Option String) :
    Multiset (Event K) :=
  ∑ t ∈ racers, (failure t).elim 0 (fun cause => {.creationFailed key cause})
    + if makers racers failure = 0 then 0
      else .created key ::ₘ Multiset.replicate (makers racers failure - 1) (.lostRace key)

/-- The updates of a race, if the registry keeps metrics: every failure is counted, everyone else
publishes the new size, and the creation and the losses are counted. -/
def raceUpdates (r : Registry K) (racers : Finset Nat) (failure : Nat → Option String) :
    Multiset Update :=
  if r.metered then
    Multiset.replicate (racers.card - makers racers failure) ⟨.failures, r.name, 1⟩
      + Multiset.replicate (makers racers failure) ⟨.size, r.name, r.size + 1⟩
      + if makers racers failure = 0 then 0
        else ⟨.created, r.name, 1⟩
          ::ₘ Multiset.replicate (makers racers failure - 1) ⟨.raceLosses, r.name, 1⟩
  else 0

/-- What a race of the given threads for an unbound key tells, in some order: everyone enters the
factory, and then there are the events and the updates. -/
def toldByRace (r : Registry K) (key : K) (racers : Finset Nat) (failure : Nat → Option String) :
    Multiset (Occurrence K) :=
  Multiset.replicate racers.card (.entered key) + (raceEvents key racers failure).map .logged
    + (r.raceUpdates racers failure).map .updated

/-- The update that a racer makes on its way out of the factory, if the registry keeps metrics. -/
def updateOnExit (r : Registry K) : Option String → Update
  | some _ => ⟨.failures, r.name, 1⟩
  | none => ⟨.size, r.name, r.size + 1⟩

/-- What a racer tells on its way out: a failure is an event, and either end is an update. -/
theorem coe_toldOnExit (r : Registry K) (key : K) (failure : Option String) :
    (r.toldOnExit key failure : Multiset (Occurrence K))
      = Multiset.map .logged (failure.elim 0 fun cause => {.creationFailed key cause})
        + Multiset.map .updated (if r.metered then {r.updateOnExit failure} else 0) := by
  cases failure with
  | some cause =>
    show .logged (.creationFailed key cause) ::ₘ (r.counted .failures : Multiset (Occurrence K)) = _
    unfold counted
    split
    · rfl
    · rfl
  | none =>
    show (r.gauged (r.size + 1) : Multiset (Occurrence K)) = _
    unfold gauged
    split
    · rfl
    · rfl

/-- The failing racers count their failures, and all others publish the new size. -/
theorem sum_updateOnExit (r : Registry K) (racers : Finset Nat) (failure : Nat → Option String) :
    ∑ t ∈ racers, ({r.updateOnExit (failure t)} : Multiset Update)
      = Multiset.replicate (racers.card - makers racers failure) ⟨.failures, r.name, 1⟩
        + Multiset.replicate (makers racers failure) ⟨.size, r.name, r.size + 1⟩ := by
  have h_others : (racers.filter fun t => ¬ failure t = none).card
      = racers.card - makers racers failure :=
    Nat.eq_sub_of_add_eq' (Finset.card_filter_add_card_filter_not _)
  have h_each : ∀ t, ({r.updateOnExit (failure t)} : Multiset Update)
      = if failure t = none then {⟨.size, r.name, r.size + 1⟩} else {⟨.failures, r.name, 1⟩} := by
    intro t
    cases failure t with
    | none => rfl
    | some cause => rfl
  rw [Finset.sum_congr rfl fun t _ => h_each t, Finset.sum_ite, Finset.sum_const, Finset.sum_const,
    h_others, Multiset.nsmul_singleton, Multiset.nsmul_singleton, add_comm]
  rfl

/-- What the racers tell on their way out of the factory, as events and updates. -/
theorem sum_toldOnExit (r : Registry K) (key : K) (racers : Finset Nat)
    (failure : Nat → Option String) :
    ∑ t ∈ racers, (r.toldOnExit key (failure t) : Multiset (Occurrence K))
      = (∑ t ∈ racers, (failure t).elim 0 (fun cause => {.creationFailed key cause})
          : Multiset (Event K)).map .logged
        + (if r.metered then
            Multiset.replicate (racers.card - makers racers failure) ⟨.failures, r.name, 1⟩
              + Multiset.replicate (makers racers failure) ⟨.size, r.name, r.size + 1⟩
          else 0 : Multiset Update).map .updated := by
  have h_updates : ∑ t ∈ racers, (if r.metered then {r.updateOnExit (failure t)} else 0)
      = if r.metered then
          Multiset.replicate (racers.card - makers racers failure) ⟨.failures, r.name, 1⟩
            + Multiset.replicate (makers racers failure) ⟨.size, r.name, r.size + 1⟩
        else 0 := by
    split
    · exact r.sum_updateOnExit racers failure
    · exact Finset.sum_const_zero
  rw [← h_updates, Finset.sum_congr rfl fun t _ => r.coe_toldOnExit key (failure t),
    Finset.sum_add_distrib]
  -- telling is additive
  congr 1
  · exact (map_sum (Multiset.mapAddMonoidHom Occurrence.logged) _ racers).symm
  · exact (map_sum (Multiset.mapAddMonoidHom Occurrence.updated) _ racers).symm

/-- What is told of the instances, as events and updates. -/
theorem toldCreation_add_toldLoss (r : Registry K) (key : K) (losses : Nat) :
    (r.toldCreation key : Multiset (Occurrence K))
        + losses • (r.toldLoss key : Multiset (Occurrence K))
      = (.created key ::ₘ Multiset.replicate losses (.lostRace key) : Multiset (Event K)).map .logged
        + (if r.metered then
            ⟨.created, r.name, 1⟩ ::ₘ Multiset.replicate losses ⟨.raceLosses, r.name, 1⟩
          else 0 : Multiset Update).map .updated := by
  have h_loss : (r.toldLoss key : Multiset (Occurrence K))
      = {.logged (.lostRace key)} + ↑(r.counted .raceLosses) := rfl
  have h_creation : (r.toldCreation key : Multiset (Occurrence K))
      = {.logged (.created key)} + ↑(r.counted .created) := rfl
  rw [h_loss, h_creation, nsmul_add, Multiset.nsmul_singleton, Multiset.map_cons,
    Multiset.map_replicate, ← Multiset.singleton_add]
  unfold counted
  split
  · rw [Multiset.map_cons, Multiset.map_replicate, ← Multiset.singleton_add, Multiset.coe_singleton,
      Multiset.coe_singleton, Multiset.nsmul_singleton]
    abel
  · rw [Multiset.coe_nil, nsmul_zero, add_zero, add_zero, Multiset.map_zero, add_zero]

/-- What a race tells, racer by racer: what each tells on its way out, and what becomes of the
instances. -/
theorem toldByRace_eq (r : Registry K) (key : K) (racers : Finset Nat)
    (failure : Nat → Option String) :
    r.toldByRace key racers failure
      = racers.card • {.entered key}
        + ∑ t ∈ racers, (r.toldOnExit key (failure t) : Multiset (Occurrence K))
        + if makers racers failure = 0 then 0
          else (r.toldCreation key : Multiset (Occurrence K))
            + (makers racers failure - 1) • (r.toldLoss key : Multiset (Occurrence K)) := by
  rw [sum_toldOnExit, toldCreation_add_toldLoss, toldByRace, raceEvents, raceUpdates,
    Multiset.nsmul_singleton]
  split
  · simp only [add_zero, add_assoc]
  · split
    · simp only [Multiset.map_add]
      abel
    · simp only [Multiset.map_add, Multiset.map_zero, add_zero, add_assoc]

/-- The last moves of a call whose instance has been settled. -/
def closing (r : Registry K) : List (Move K) :=
  if r.metered then [.measure, .publish, .finish] else [.finish]

/-- The moves with which a thread leaves the factory and its call; `failure` says why the factory
fails, if it does. -/
def exits (r : Registry K) : Option String → List (Move K)
  | some cause => [.fail cause, .finish]
  | none => .make :: .settle :: r.closing

/-- What a move of a racer tells if its instance is not the first to be settled. -/
def forecast (r : Registry K) (key : K) : Move K → List (Occurrence K)
  | .look => [.entered key]
  | .fail cause => r.toldFailure key cause
  | .settle => r.toldLoss key
  | .publish => r.gauged (r.size + 1)
  | _ => []

/-- What the agendas of the racers will tell. -/
def outlook (r : Registry K) (key : K) (racers : Finset Nat) (agenda : Nat → List (Move K)) :
    Multiset (Occurrence K) :=
  ∑ t ∈ racers, ((agenda t).flatMap (r.forecast key) : Multiset (Occurrence K))

/-- A move that is made is told, and no longer in the outlook. -/
theorem outlook_update (r : Registry K) (key : K) {racers : Finset Nat}
    {agenda : Nat → List (Move K)} {t : Nat} (h_t : t ∈ racers) {move : Move K}
    {rest : List (Move K)} (h_next : agenda t = move :: rest) :
    r.outlook key racers agenda = (r.forecast key move : Multiset (Occurrence K))
      + r.outlook key racers (Function.update agenda t rest) := by
  have h_others : ∑ u ∈ racers.erase t,
        ((Function.update agenda t rest u).flatMap (r.forecast key) : Multiset (Occurrence K))
      = ∑ u ∈ racers.erase t, ((agenda u).flatMap (r.forecast key) : Multiset (Occurrence K)) := by
    refine Finset.sum_congr rfl fun u h_u => ?_
    rw [Function.update_of_ne (Finset.ne_of_mem_erase h_u)]
  rw [outlook, outlook, ← Finset.add_sum_erase _ _ h_t, ← Finset.add_sum_erase _ _ h_t, h_others,
    h_next, Function.update_self, List.flatMap_cons, ← Multiset.coe_add, add_assoc]

theorem outlook_nil (r : Registry K) (key : K) (racers : Finset Nat) :
    r.outlook key racers (fun _ => []) = 0 := by
  simp [outlook]

/-- On its way out a thread tells its failure, or the loss of its instance and the new size. -/
theorem coe_forecast_exits (r : Registry K) (key : K) (failure : Option String) :
    ((r.exits failure).flatMap (r.forecast key) : Multiset (Occurrence K))
      = r.toldOnExit key failure + if failure = none then ↑(r.toldLoss key) else 0 := by
  cases failure with
  | some cause => simp [exits, forecast, toldOnExit]
  | none =>
    have h_words : (r.exits none).flatMap (r.forecast key)
        = r.toldLoss key ++ r.toldOnExit key none := by
      cases h : r.metered <;> simp [exits, closing, forecast, toldOnExit, gauged, h]
    rw [if_pos rfl, h_words, ← Multiset.coe_add, add_comm]

/-- The outlook of the racers on their way out, where every settled instance is a loss. -/
theorem outlook_exits (r : Registry K) (key : K) (racers : Finset Nat)
    (failure : Nat → Option String) :
    r.outlook key racers (fun t => if t ∈ racers then r.exits (failure t) else [])
      = ∑ t ∈ racers, (r.toldOnExit key (failure t) : Multiset (Occurrence K))
        + makers racers failure • ↑(r.toldLoss key) := by
  have h_each : ∀ t ∈ racers, (((if t ∈ racers then r.exits (failure t) else []).flatMap
      (r.forecast key) : List (Occurrence K)) : Multiset (Occurrence K))
      = r.toldOnExit key (failure t) + if failure t = none then ↑(r.toldLoss key) else 0 := by
    intro t h_t
    rw [if_pos h_t]
    exact r.coe_forecast_exits key (failure t)
  rw [outlook, Finset.sum_congr rfl h_each, Finset.sum_add_distrib, ← Finset.sum_filter,
    Finset.sum_const]
  rfl

/-- With the first loss put right, the outlook is what the race tells. -/
theorem toldByRace_add_toldLoss (r : Registry K) (key : K) {racers : Finset Nat}
    {failure : Nat → Option String} (h_maker : ∃ t ∈ racers, failure t = none) :
    r.toldByRace key racers failure + ↑(r.toldLoss key)
      = racers.card • {.entered key}
        + r.outlook key racers (fun t => if t ∈ racers then r.exits (failure t) else [])
        + ↑(r.toldCreation key) := by
  obtain ⟨t, h_t, h_failure⟩ := h_maker
  have h_pos : 0 < makers racers failure :=
    Finset.card_pos.2 ⟨t, Finset.mem_filter.2 ⟨h_t, h_failure⟩⟩
  obtain ⟨others, h_others⟩ := Nat.exists_eq_succ_of_ne_zero h_pos.ne'
  rw [outlook_exits, toldByRace_eq, h_others, if_neg (Nat.succ_ne_zero _), Nat.succ_sub_one,
    succ_nsmul]
  abel

theorem toldByRace_of_barren (r : Registry K) (key : K) {racers : Finset Nat}
    {failure : Nat → Option String} (h_barren : ∀ t ∈ racers, failure t ≠ none) :
    r.toldByRace key racers failure
      = racers.card • {.entered key}
        + r.outlook key racers (fun t => if t ∈ racers then r.exits (failure t) else []) := by
  have h_none : makers racers failure = 0 := by
    rw [makers, Finset.card_eq_zero, Finset.filter_eq_empty_iff]
    exact h_barren
  rw [outlook_exits, toldByRace_eq, h_none, if_pos rfl, zero_nsmul, add_zero, add_zero]

end Registry

/-! ### Where the racers stand -/

namespace System

/-- Where each racer stands: `Stand` relates the calls that it has come to be in since `s₀`, the rest
of its agenda, and the outcomes that it has got since then. All other threads stay where they were. -/
structure Frame (s₀ : System K) (racers : Finset Nat)
    (Stand : Nat → List (Stage K) → List (Move K) → List (Outcome K) → Prop)
    (agenda : Nat → List (Move K)) (s : System K) : Prop where
  others : ∀ t ∉ racers, s.threads t = s₀.threads t ∧ agenda t = [] ∧
    s.outcomesOf t = s₀.outcomesOf t
  racers : ∀ t ∈ racers, ∃ stages got, s.threads t = stages ++ s₀.threads t ∧
    s.outcomesOf t = s₀.outcomesOf t ++ got ∧ Stand t stages (agenda t) got

section Frame

variable {s₀ s : System K} {racers : Finset Nat}
  {Stand Stand' : Nat → List (Stage K) → List (Move K) → List (Outcome K) → Prop}
  {agenda : Nat → List (Move K)} {t : Nat} {move : Move K} {rest : List (Move K)}

/-- Racers that have not moved stand where they start. -/
theorem Frame.refl (h_agenda : ∀ t ∉ racers, agenda t = [])
    (h_stand : ∀ t ∈ racers, Stand t [] (agenda t) []) : Frame s₀ racers Stand agenda s₀ where
  others t h_t := ⟨rfl, h_agenda t h_t, rfl⟩
  racers t h_t := ⟨[], [], rfl, (List.append_nil _).symm, h_stand t h_t⟩

/-- A move of a racer that leads to a new stand and leaves the others theirs. -/
theorem Frame.put (h : Frame s₀ racers Stand agenda s) (h_t : t ∈ racers)
    (h_mono : ∀ {u stages moves got}, Stand u stages moves got → Stand' u stages moves got)
    {got : List (Outcome K)} (h_got : s.outcomesOf t = s₀.outcomesOf t ++ got) (r : Registry K)
    (stages : List (Stage K)) {signals : List (Signal K)}
    (h_stand : Stand' t stages rest (got ++ signals.filterMap Signal.outcome?)) :
    Frame s₀ racers Stand' (Function.update agenda t rest)
      (s.put t r (stages ++ s₀.threads t) signals) where
  others u h_u := by
    have h_ne : u ≠ t := fun h_eq => h_u (h_eq ▸ h_t)
    obtain ⟨h_threads, h_agenda, h_outcomes⟩ := h.others u h_u
    rw [threads_put_of_ne _ _ _ _ _ h_ne, Function.update_of_ne h_ne, outcomesOf_put, if_neg h_ne,
      List.append_nil]
    exact ⟨h_threads, h_agenda, h_outcomes⟩
  racers u h_u := by
    by_cases h_eq : u = t
    · subst h_eq
      refine ⟨stages, got ++ signals.filterMap Signal.outcome?, ?_, ?_, ?_⟩
      · rw [threads_put_self]
      · rw [outcomesOf_put, if_pos rfl, h_got, List.append_assoc]
      · rw [Function.update_self]
        exact h_stand
    · obtain ⟨stages', got', h_stages', h_got', h_stand'⟩ := h.racers u h_u
      refine ⟨stages', got', ?_, ?_, ?_⟩
      · rw [threads_put_of_ne _ _ _ _ _ h_eq, h_stages']
      · rw [outcomesOf_put, if_neg h_eq, List.append_nil, h_got']
      · rw [Function.update_of_ne h_eq]
        exact h_mono h_stand'

/-- Only racers have something on their agendas. -/
theorem Frame.mem_of_cons (h : Frame s₀ racers Stand agenda s) (h_next : agenda t = move :: rest) :
    t ∈ racers := by
  by_contra h_t
  rw [(h.others t h_t).2.1] at h_next
  cases h_next

end Frame

/-- A move that tells what was forecast changes nothing in what has been told and will be told. -/
theorem told_put {s : System K} {r : Registry K} {key : K} {racers : Finset Nat}
    {agenda : Nat → List (Move K)} {t : Nat} (h_t : t ∈ racers) {move : Move K}
    {rest : List (Move K)} (h_next : agenda t = move :: rest) (r' : Registry K)
    (stages : List (Stage K)) {signals : List (Signal K)}
    (h_told : signals.filterMap Signal.occurrence? = r.forecast key move) :
    ((s.put t r' stages signals).occurrences : Multiset (Occurrence K))
        + r.outlook key racers (Function.update agenda t rest)
      = s.occurrences + r.outlook key racers agenda := by
  rw [occurrences_put, h_told, r.outlook_update key h_t h_next, ← Multiset.coe_add, add_assoc]

end System

/-- On the way into the factory. -/
inductive Entering (key : K) (entry : Nat → Move K) (t : Nat) :
    List (Stage K) → List (Move K) → List (Outcome K) → Prop
  | free : Entering key entry t [] [entry t, .look] []
  | looking : Entering key entry t [.looking key] [.look] []
  | inside : Entering key entry t [.creating key] [] []

/-- On the way out of the factory; `winner` is the breaker that the key has by now. -/
inductive Leaving (r : Registry K) (key : K) (failure : Nat → Option String)
    (winner : Option (Breaker K)) (t : Nat) :
    List (Stage K) → List (Move K) → List (Outcome K) → Prop
  | inside : Leaving r key failure winner t [.creating key] (r.exits (failure t)) []
  | failed {cause : String} (h_failure : failure t = some cause) :
      Leaving r key failure winner t [.returning (.error (.creation key cause))] [.finish] []
  | settling {b : Breaker K} (h_failure : failure t = none) (h_key : b.key = key)
      (h_serial : r.made ≤ b.serial) :
      Leaving r key failure winner t [.settling b] (.settle :: r.closing) []
  | measuring {b : Breaker K} (h_failure : failure t = none) (h_winner : winner = some b) :
      Leaving r key failure winner t [.measuring b] [.measure, .publish, .finish] []
  | publishing {b : Breaker K} (h_failure : failure t = none) (h_winner : winner = some b) :
      Leaving r key failure winner t [.publishing b (r.size + 1)] [.publish, .finish] []
  | returning {b : Breaker K} (h_failure : failure t = none) (h_winner : winner = some b) :
      Leaving r key failure winner t [.returning (.ok b)] [.finish] []
  | failure {cause : String} (h_failure : failure t = some cause) :
      Leaving r key failure winner t [] [] [.error (.creation key cause)]
  | success {b : Breaker K} (h_failure : failure t = none) (h_winner : winner = some b) :
      Leaving r key failure winner t [] [] [.ok b]

/-- On the way through a call for a key that has a breaker. -/
inductive Passing (key : K) (entry : Nat → Move K) (b : Breaker K) (t : Nat) :
    List (Stage K) → List (Move K) → List (Outcome K) → Prop
  | free : Passing key entry b t [] [entry t, .look, .finish] []
  | looking : Passing key entry b t [.looking key] [.look, .finish] []
  | returning : Passing key entry b t [.returning (.ok b)] [.finish] []
  | returned : Passing key entry b t [] [] [.ok b]

/-- As long as nobody has won, nobody stands where the winner counts. -/
theorem Leaving.of_none {r : Registry K} {key : K} {failure : Nat → Option String} {t : Nat}
    {stages : List (Stage K)} {moves : List (Move K)} {got : List (Outcome K)}
    (h : Leaving r key failure none t stages moves got) (winner : Option (Breaker K)) :
    Leaving r key failure winner t stages moves got := by
  cases h with
  | inside => exact .inside
  | failed h_failure => exact .failed h_failure
  | settling h_failure h_key h_serial => exact .settling h_failure h_key h_serial
  | failure h_failure => exact .failure h_failure
  | measuring _ h_winner | publishing _ h_winner | returning _ h_winner | success _ h_winner =>
    cases h_winner

/-- Starting a call tells nothing. -/
theorem Registry.forecast_of_starts {r r' : Registry K} {move : Move K} {key : K}
    (h : move.Starts r' key) (k : K) : r.forecast k move = [] := by
  cases move <;> first | rfl | exact h.elim

/-- A racer with nothing left to do has returned, with its failure or with the winner. -/
theorem Leaving.of_nil {r : Registry K} {key : K} {failure : Nat → Option String}
    {winner : Option (Breaker K)} {t : Nat} {stages : List (Stage K)} {got : List (Outcome K)}
    (h : Leaving r key failure winner t stages [] got) :
    stages = [] ∧ (∀ cause, failure t = some cause → got = [.error (.creation key cause)]) ∧
      (failure t = none → ∃ b ∈ winner, got = [.ok b]) := by
  generalize h_moves : [] = moves at h
  cases h with
  | inside => cases h_failure : failure t <;> simp [Registry.exits, h_failure] at h_moves
  | failure h_failure => simp [h_failure]
  | success h_failure h_winner => simp [h_failure, h_winner]
  | failed | settling | measuring | publishing | returning => cases h_moves

namespace System

variable [DecidableEq K]

/-! ### Into the factory -/

/-- **A race on its way in.** The racers stand somewhere on their way into the factory, the registry is
as it was, and what has been told and will be told is that everyone enters the factory. -/
structure Gathering (s₀ : System K) (key : K) (racers : Finset Nat) (entry : Nat → Move K)
    (agenda : Nat → List (Move K)) (s : System K) : Prop where
  frame : Frame s₀ racers (Entering key entry) agenda s
  registry_eq : s.registry = s₀.registry
  told : (s.occurrences : Multiset (Occurrence K)) + s₀.registry.outlook key racers agenda
    = s₀.occurrences + racers.card • {.entered key}

section Gathering

variable {s₀ s : System K} {key : K} {racers : Finset Nat} {entry : Nat → Move K}
  {agenda : Nat → List (Move K)} {t : Nat} {move : Move K} {rest : List (Move K)}

omit [DecidableEq K] in
theorem Gathering.refl (h_entry : ∀ t ∈ racers, (entry t).Starts s₀.registry key) :
    Gathering s₀ key racers entry (fun t => if t ∈ racers then [entry t, .look] else []) s₀ where
  frame := by
    refine Frame.refl (fun t h_t => if_neg h_t) fun t h_t => ?_
    rw [if_pos h_t]
    exact .free
  registry_eq := rfl
  told := by
    have h_each : ∀ t ∈ racers, (((if t ∈ racers then [entry t, .look] else []).flatMap
        (s₀.registry.forecast key) : List (Occurrence K)) : Multiset (Occurrence K))
        = {.entered key} := by
      intro t h_t
      rw [if_pos h_t, List.flatMap_cons, Registry.forecast_of_starts (h_entry t h_t)]
      rfl
    rw [Registry.outlook, Finset.sum_congr rfl h_each, Finset.sum_const]

/-- **On the way in, every racer can move**, and the race stays on its way in. -/
theorem Gathering.step (h : Gathering s₀ key racers entry agenda s)
    (h_free : ∀ t ∈ racers, canStart (s₀.threads t) = true)
    (h_entry : ∀ t ∈ racers, (entry t).Starts s₀.registry key)
    (h_absent : s₀.registry.get? key = none) (h_next : agenda t = move :: rest) :
    ∃ s', Transition s t move s' ∧
      Gathering s₀ key racers entry (Function.update agenda t rest) s' := by
  have h_t : t ∈ racers := h.frame.mem_of_cons h_next
  have h_told := h.told
  obtain ⟨stages, got, h_stages, h_got, h_stand⟩ := h.frame.racers t h_t
  rw [h_next] at h_stand
  cases h_stand with
  | free =>
    have h_starts : (entry t).Starts s.registry key := h.registry_eq ▸ h_entry t h_t
    have h_canStart : canStart (s.threads t) = true := by
      rw [h_stages]
      exact h_free t h_t
    -- entering a call is not told, only entering the factory is
    have h_silent : [Signal.began key].filterMap Signal.occurrence?
        = s₀.registry.forecast key (entry t) := (Registry.forecast_of_starts h_starts key).symm
    refine ⟨_, .start h_canStart h_starts, ?_, h.registry_eq, ?_⟩
    · rw [h_stages]
      exact h.frame.put h_t id h_got _ [.looking key] .looking
    · rwa [told_put h_t h_next _ _ h_silent]
  | looking =>
    have h_get : s.registry.get? key = none := h.registry_eq ▸ h_absent
    refine ⟨_, .miss h_stages h_get, ?_, h.registry_eq, ?_⟩
    · exact h.frame.put h_t id h_got _ [.creating key] .inside
    · rwa [told_put h_t h_next _ _ rfl]

omit [DecidableEq K] in
/-- When the racers have nothing left to do all of them are inside. -/
theorem Gathering.inside (h : Gathering s₀ key racers entry (fun _ => []) s) (t : Nat) :
    s.threads t = (if t ∈ racers then .creating key :: s₀.threads t else s₀.threads t) ∧
      s.outcomesOf t = s₀.outcomesOf t := by
  by_cases h_t : t ∈ racers
  · obtain ⟨stages, got, h_stages, h_got, h_stand⟩ := h.frame.racers t h_t
    cases h_stand with
    | inside =>
      rw [if_pos h_t, h_stages, h_got, List.append_nil]
      exact ⟨rfl, rfl⟩
  · rw [if_neg h_t]
    exact ⟨(h.frame.others t h_t).1, (h.frame.others t h_t).2.2⟩

end Gathering

/-- **Into the factory.** Threads that may start a call look up a key that has no breaker, in any
order: all of them are then in the factory, and nothing else has changed. -/
theorem gather {s₀ : System K} {racers : Finset Nat} {key : K} {entry : Nat → Move K}
    (h_free : ∀ t ∈ racers, canStart (s₀.threads t) = true)
    (h_entry : ∀ t ∈ racers, (entry t).Starts s₀.registry key)
    (h_absent : s₀.registry.get? key = none) {schedule : Schedule K}
    (h_order : ∀ t, schedule.movesOf t = if t ∈ racers then [entry t, .look] else []) :
    ∃ s, s₀.run? schedule = some s ∧ s.registry = s₀.registry ∧
      (∀ t, s.threads t = if t ∈ racers then .creating key :: s₀.threads t else s₀.threads t) ∧
      (∀ t, s.outcomesOf t = s₀.outcomesOf t) ∧
      (s.occurrences : Multiset (Occurrence K))
        = s₀.occurrences + racers.card • {.entered key} := by
  obtain ⟨s, h_run, h_end⟩ := exists_run?_of_agenda
    (fun h h_next => Gathering.step h h_free h_entry h_absent h_next) h_order (.refl h_entry)
  have h_told := h_end.told
  rw [Registry.outlook_nil, add_zero] at h_told
  exact ⟨s, h_run, h_end.registry_eq, fun t => (h_end.inside t).1, fun t => (h_end.inside t).2, h_told⟩

/-! ### Out of the factory -/

/-- What a race has made of a registry: nothing as long as nobody has won, and then one binding. -/
structure Grown (r : Registry K) (key : K) (winner : Option (Breaker K)) (r' : Registry K) :
    Prop where
  name : r'.name = r.name
  metered : r'.metered = r.metered
  made : r.made ≤ r'.made
  bindings : r'.bindings = r.bindings ++ (winner.map fun b => (key, b)).toList
  winner : ∀ b ∈ winner, b.key = key ∧ r.made ≤ b.serial

section Grown

variable {r r' : Registry K} {key : K} {winner : Option (Breaker K)}

/-- The key has the winner, if there is one. -/
theorem Grown.get? (h : Grown r key winner r') (h_absent : r.get? key = none) :
    r'.get? key = winner := by
  have h_lookup : r.bindings.lookup key = none := h_absent
  rw [Registry.get?, h.bindings, List.lookup_append, h_lookup]
  cases winner <;> simp

omit [DecidableEq K] in
theorem Grown.size {b : Breaker K} (h : Grown r key (some b) r') : r'.size = r.size + 1 := by
  rw [Registry.size, h.bindings]
  simp [Registry.size]

/-- What is told by settling an instance. -/
theorem Grown.trace_settle (h : Grown r key winner r') (h_absent : r.get? key = none)
    {b : Breaker K} (h_key : b.key = key) :
    (r'.settle b).trace = if winner.isSome then r.toldLoss key else r.toldCreation key := by
  have h_get := h.get? h_absent
  subst h_key
  cases winner with
  | some w =>
    rw [Registry.settle_of_bound h_get, Registry.counted_congr h.name h.metered]
    rfl
  | none =>
    rw [Registry.settle_of_unbound h_get, Registry.counted_congr h.name h.metered]
    rfl

/-- Settling an instance makes it the winner unless there is one. -/
theorem Grown.settle (h : Grown r key winner r') (h_absent : r.get? key = none)
    {b : Breaker K} (h_key : b.key = key) (h_serial : r.made ≤ b.serial) :
    Grown r key (some (r'.settle b).winner) (r'.settle b).registry := by
  have h_get := h.get? h_absent
  subst h_key
  cases winner with
  | some w =>
    rw [Registry.settle_of_bound h_get]
    exact h
  | none =>
    rw [Registry.settle_of_unbound h_get]
    refine ⟨h.name, h.metered, h.made, ?_, ?_⟩
    · simp [h.bindings]
    · rintro _ ⟨⟩
      exact ⟨rfl, h_serial⟩

end Grown

/-- **A race on its way out.** The racers stand somewhere on their way out of the factory, the
registry has grown by the winner, who is the instance of some racer, and what has been told and will
be told is `told`, but for the first instance that is settled: its loss was forecast, and it tells
its creation. -/
structure Scattering (s₀ : System K) (key : K) (racers : Finset Nat) (failure : Nat → Option String)
    (told : Multiset (Occurrence K)) (winner : Option (Breaker K)) (agenda : Nat → List (Move K))
    (s : System K) : Prop where
  frame : Frame s₀ racers (Leaving s₀.registry key failure winner) agenda s
  grown : Grown s₀.registry key winner s.registry
  maker : ∀ b ∈ winner, ∃ t ∈ racers, failure t = none
  told : s.occurrences + s₀.registry.outlook key racers agenda
      + (if winner.isSome then ↑(s₀.registry.toldLoss key) else 0)
    = told + if winner.isSome then ↑(s₀.registry.toldCreation key) else 0

section Scattering

variable {s₀ s : System K} {key : K} {racers : Finset Nat} {failure : Nat → Option String}
  {told : Multiset (Occurrence K)} {winner : Option (Breaker K)} {agenda : Nat → List (Move K)}
  {t : Nat} {move : Move K} {rest : List (Move K)}

omit [DecidableEq K] in
/-- A move that tells what was forecast and makes nobody win. -/
theorem Scattering.put (h : Scattering s₀ key racers failure told winner agenda s)
    (h_next : agenda t = move :: rest) {got : List (Outcome K)}
    (h_got : s.outcomesOf t = s₀.outcomesOf t ++ got) {r : Registry K}
    (h_grown : Grown s₀.registry key winner r) (stages : List (Stage K))
    {signals : List (Signal K)}
    (h_told : signals.filterMap Signal.occurrence? = s₀.registry.forecast key move)
    (h_stand : Leaving s₀.registry key failure winner t stages rest
      (got ++ signals.filterMap Signal.outcome?)) :
    Scattering s₀ key racers failure told winner (Function.update agenda t rest)
      (s.put t r (stages ++ s₀.threads t) signals) where
  frame := h.frame.put (h.frame.mem_of_cons h_next) id h_got r stages h_stand
  grown := h_grown
  maker := h.maker
  told := by
    rw [told_put (h.frame.mem_of_cons h_next) h_next _ _ h_told]
    exact h.told

/-- The first instance that is settled wins. -/
theorem Scattering.win (h : Scattering s₀ key racers failure told none agenda s)
    (h_absent : s₀.registry.get? key = none)
    (h_next : agenda t = .settle :: rest) {got : List (Outcome K)}
    (h_got : s.outcomesOf t = s₀.outcomesOf t ++ got) {b : Breaker K} (h_key : b.key = key)
    (h_serial : s₀.registry.made ≤ b.serial) (h_failure : failure t = none)
    {stages : List (Stage K)} {found : Option (Breaker K)}
    (h_stand : Leaving s₀.registry key failure (some (s.registry.settle b).winner) t stages rest got) :
    Scattering s₀ key racers failure told (some (s.registry.settle b).winner)
      (Function.update agenda t rest)
      (s.put t (s.registry.settle b).registry (stages ++ s₀.threads t)
        (.settled found :: (s.registry.settle b).trace.map .occurred)) where
  frame := by
    refine h.frame.put (h.frame.mem_of_cons h_next) (·.of_none _) h_got _ _ ?_
    rw [List.filterMap_cons_none rfl, filterMap_outcome?_occurred, List.append_nil]
    exact h_stand
  grown := h.grown.settle h_absent h_key h_serial
  maker _ _ := ⟨t, h.frame.mem_of_cons h_next, h_failure⟩
  told := by
    have h_before := h.told
    have h_trace : (s.registry.settle b).trace = s₀.registry.toldCreation key := by
      rw [h.grown.trace_settle h_absent h_key]
      rfl
    have h_tells : (Signal.settled found :: (s.registry.settle b).trace.map .occurred).filterMap
        Signal.occurrence? = s₀.registry.toldCreation key := by
      rw [List.filterMap_cons_none rfl, filterMap_occurrence?_occurred, h_trace]
    -- take the forecast loss out of the outlook, and put the creation that is told in its place
    rw [s₀.registry.outlook_update key (h.frame.mem_of_cons h_next) h_next] at h_before
    simp only [Option.isSome_none, Bool.false_eq_true, if_false, add_zero] at h_before
    rw [occurrences_put, h_tells, ← Multiset.coe_add, ← h_before]
    simp only [Option.isSome_some, if_true, Registry.forecast]
    abel

/-- An instance that is settled later loses, as forecast. -/
theorem Scattering.lose {winner : Breaker K}
    (h : Scattering s₀ key racers failure told (some winner) agenda s)
    (h_absent : s₀.registry.get? key = none) (h_next : agenda t = .settle :: rest)
    {got : List (Outcome K)} (h_got : s.outcomesOf t = s₀.outcomesOf t ++ got) {b : Breaker K}
    (h_key : b.key = key) {stages : List (Stage K)} {found : Option (Breaker K)}
    (h_stand : Leaving s₀.registry key failure (some winner) t stages rest got) :
    Scattering s₀ key racers failure told (some winner) (Function.update agenda t rest)
      (s.put t (s.registry.settle b).registry (stages ++ s₀.threads t)
        (.settled found :: (s.registry.settle b).trace.map .occurred)) := by
  have h_get : s.registry.get? b.key = some winner := h_key ▸ h.grown.get? h_absent
  have h_grown : Grown s₀.registry key (some winner) (s.registry.settle b).registry := by
    rw [Registry.settle_of_bound h_get]
    exact h.grown
  refine h.put h_next h_got h_grown stages ?_ ?_
  · rw [List.filterMap_cons_none rfl, filterMap_occurrence?_occurred,
      h.grown.trace_settle h_absent h_key]
    rfl
  · rw [List.filterMap_cons_none rfl, filterMap_outcome?_occurred, List.append_nil]
    exact h_stand

/-- **On the way out, every racer can move**, and the race stays on its way out. -/
theorem Scattering.step (h : Scattering s₀ key racers failure told winner agenda s)
    (h_absent : s₀.registry.get? key = none) (h_next : agenda t = move :: rest) :
    ∃ s', Transition s t move s' ∧ ∃ winner',
      Scattering s₀ key racers failure told winner' (Function.update agenda t rest) s' := by
  obtain ⟨stages, got, h_stages, h_got, h_stand⟩ := h.frame.racers t (h.frame.mem_of_cons h_next)
  rw [h_next] at h_stand
  generalize h_moves : move :: rest = moves at h_stand
  cases h_stand with
  | inside =>
    -- whether the factory fails for the racer is on its agenda
    cases h_failure : failure t with
    | some cause =>
      rw [h_failure] at h_moves
      cases h_moves
      refine ⟨_, .fail h_stages, winner, h.put h_next h_got h.grown
        [.returning (.error (.creation key cause))] ?_ ?_⟩
      · rw [List.filterMap_cons_none rfl, filterMap_occurrence?_occurred, Registry.toldFailure,
          Registry.counted_congr h.grown.name h.grown.metered]
        rfl
      · rw [List.filterMap_cons_none rfl, filterMap_outcome?_occurred]
        exact .failed h_failure
    | none =>
      rw [h_failure] at h_moves
      cases h_moves
      have h_grown : Grown s₀.registry key winner (s.registry.make key).2 :=
        ⟨h.grown.name, h.grown.metered, Nat.le_succ_of_le h.grown.made, h.grown.bindings,
          h.grown.winner⟩
      refine ⟨_, .make h_stages, winner, h.put h_next h_got h_grown [.settling _] rfl ?_⟩
      exact .settling h_failure rfl h.grown.made
  | failed h_failure =>
    cases h_moves
    exact ⟨_, .finish h_stages, winner, h.put h_next h_got h.grown [] rfl
      (.failure h_failure)⟩
  | settling h_failure h_key h_serial =>
    cases h_moves
    rename_i b
    refine ⟨_, .settle h_stages, ?_⟩
    have h_stand : ∀ w, Leaving s₀.registry key failure (some w) t
        [if s.registry.metered then .measuring w else .returning (.ok w)]
        s₀.registry.closing [] := by
      intro w
      rw [h.grown.metered, Registry.closing]
      split
      · exact .measuring h_failure rfl
      · exact .returning h_failure rfl
    -- the first instance that is settled wins, and all others lose to it
    cases winner with
    | none => exact ⟨_, h.win h_absent h_next h_got h_key h_serial h_failure (h_stand _)⟩
    | some w =>
      have h_get : s.registry.get? b.key = some w := h_key ▸ h.grown.get? h_absent
      have h_winner : (s.registry.settle b).winner = w := by rw [Registry.settle_of_bound h_get]
      rw [h_winner]
      exact ⟨some w, h.lose h_absent h_next h_got h_key (h_stand w)⟩
  | measuring h_failure h_winner =>
    cases h_moves
    subst h_winner
    -- a racer measures after its instance has been settled, so the winner is counted
    refine ⟨_, .measure h_stages, _, h.put h_next h_got h.grown [.publishing _ _] rfl ?_⟩
    rw [h.grown.size]
    exact .publishing h_failure rfl
  | publishing h_failure h_winner =>
    cases h_moves
    refine ⟨_, .publish h_stages, winner, h.put h_next h_got h.grown
      [.returning (.ok _)] ?_ ?_⟩
    · rw [filterMap_occurrence?_occurred, Registry.gauged_congr h.grown.name h.grown.metered]
      rfl
    · rw [filterMap_outcome?_occurred]
      exact .returning h_failure h_winner
  | returning h_failure h_winner =>
    cases h_moves
    exact ⟨_, .finish h_stages, winner, h.put h_next h_got h.grown [] rfl
      (.success h_failure h_winner)⟩
  | failure | success => cases h_moves

/-- Whatever the order, the racers come to the end of their agendas. Who has won by then, if anyone, is
found out on the way. -/
theorem Scattering.exists_run? (h : Scattering s₀ key racers failure told winner agenda s)
    (h_absent : s₀.registry.get? key = none) {schedule : Schedule K}
    (h_order : ∀ t, schedule.movesOf t = agenda t) :
    ∃ s' winner', s.run? schedule = some s' ∧
      Scattering s₀ key racers failure told winner' (fun _ => []) s' := by
  have h_step : ∀ {agenda s t move rest},
      (∃ winner, Scattering s₀ key racers failure told winner agenda s) → agenda t = move :: rest →
      ∃ s', Transition s t move s' ∧ ∃ winner,
        Scattering s₀ key racers failure told winner (Function.update agenda t rest) s' :=
    fun ⟨_, h⟩ h_next => h.step h_absent h_next
  obtain ⟨s', h_run, winner', h_end⟩ := exists_run?_of_agenda h_step h_order ⟨winner, h⟩
  exact ⟨s', winner', h_run, h_end⟩

end Scattering

/-- **How a race ends**, with respect to the system before it. The failing racers have their
failures; all others have one new breaker, which is bound to the key as the only change to the
bindings; and what has been told is, in some order, that every racer entered the factory, the events
of the race, and its updates if the registry keeps metrics. -/
structure Decided (s : System K) (key : K) (racers : Finset Nat) (failure : Nat → Option String)
    (s' : System K) : Prop where
  threads : s'.threads = s.threads
  others : ∀ t ∉ racers, s'.outcomesOf t = s.outcomesOf t
  failing : ∀ t ∈ racers, ∀ cause, failure t = some cause →
    s'.outcomesOf t = s.outcomesOf t ++ [.error (.creation key cause)]
  making : (∃ t ∈ racers, failure t = none) → ∃ b : Breaker K,
    b.key = key ∧ s.registry.made ≤ b.serial ∧
    s'.registry.bindings = s.registry.bindings ++ [(key, b)] ∧
    ∀ t ∈ racers, failure t = none → s'.outcomesOf t = s.outcomesOf t ++ [.ok b]
  barren : (∀ t ∈ racers, failure t ≠ none) → s'.registry.bindings = s.registry.bindings
  told : (s'.occurrences : Multiset (Occurrence K))
    = s.occurrences + s.registry.toldByRace key racers failure

omit [DecidableEq K] in
/-- A race in which nobody has anything left to do is decided. -/
theorem Scattering.decided {s₀ s : System K} {key : K} {racers : Finset Nat}
    {failure : Nat → Option String} {winner : Option (Breaker K)}
    (h : Scattering s₀ key racers failure
      (s₀.occurrences + (racers.card • {.entered key} + s₀.registry.outlook key racers
        (fun t => if t ∈ racers then s₀.registry.exits (failure t) else [])))
      winner (fun _ => []) s) :
    Decided s₀ key racers failure s := by
  have h_racers : ∀ t ∈ racers, ∃ stages got, s.threads t = stages ++ s₀.threads t ∧
      s.outcomesOf t = s₀.outcomesOf t ++ got ∧ stages = [] ∧
      (∀ cause, failure t = some cause → got = [.error (.creation key cause)]) ∧
      (failure t = none → ∃ b ∈ winner, got = [.ok b]) := by
    intro t h_t
    obtain ⟨stages, got, h_stages, h_got, h_stand⟩ := h.frame.racers t h_t
    exact ⟨stages, got, h_stages, h_got, h_stand.of_nil⟩
  have h_told := h.told
  rw [Registry.outlook_nil, add_zero] at h_told
  refine ⟨?_, fun t h_t => (h.frame.others t h_t).2.2, ?_, ?_, ?_, ?_⟩
  · funext t
    by_cases h_t : t ∈ racers
    · obtain ⟨stages, got, h_stages, -, rfl, -⟩ := h_racers t h_t
      exact h_stages
    · exact (h.frame.others t h_t).1
  · intro t h_t cause h_failure
    obtain ⟨stages, got, -, h_got, -, h_failing, -⟩ := h_racers t h_t
    rw [h_got, h_failing cause h_failure]
  · rintro ⟨t₀, h_t₀, h_maker⟩
    obtain ⟨_, _, -, -, -, -, h_making⟩ := h_racers t₀ h_t₀
    obtain ⟨b, rfl, -⟩ := h_making h_maker
    obtain ⟨h_key, h_serial⟩ := h.grown.winner b rfl
    refine ⟨b, h_key, h_serial, h.grown.bindings, fun t h_t h_failure => ?_⟩
    obtain ⟨stages, got, -, h_got, -, -, h_making⟩ := h_racers t h_t
    obtain ⟨_, ⟨⟩, rfl⟩ := h_making h_failure
    exact h_got
  · intro h_barren
    -- a winner is the instance of a racer for whom the factory has not failed
    cases winner with
    | none => rw [h.grown.bindings, Option.map_none, Option.toList_none, List.append_nil]
    | some b =>
      obtain ⟨t, h_t, h_failure⟩ := h.maker b rfl
      exact absurd h_failure (h_barren t h_t)
  · cases winner with
    | none =>
      have h_barren : ∀ t ∈ racers, failure t ≠ none := by
        intro t h_t h_failure
        obtain ⟨_, _, -, -, -, -, h_making⟩ := h_racers t h_t
        obtain ⟨_, ⟨⟩, -⟩ := h_making h_failure
      rw [Registry.toldByRace_of_barren _ _ h_barren]
      simpa using h_told
    | some b =>
      -- the loss that was forecast for the winner has been made up for by its creation
      have h_right := s₀.registry.toldByRace_add_toldLoss key (h.maker b rfl)
      rw [Option.isSome_some, if_pos rfl, if_pos rfl, add_assoc, ← h_right, ← add_assoc] at h_told
      exact add_right_cancel h_told

/-- **Out of the factory.** From when all racers are in the factory, whatever the order in which they
leave it and make their further moves, the race is decided. -/
theorem scatter {s₀ s : System K} {key : K} {racers : Finset Nat} {failure : Nat → Option String}
    (h_absent : s₀.registry.get? key = none) (h_registry : s.registry = s₀.registry)
    (h_threads : ∀ t, s.threads t
      = if t ∈ racers then .creating key :: s₀.threads t else s₀.threads t)
    (h_outcomes : ∀ t, s.outcomesOf t = s₀.outcomesOf t)
    (h_told : (s.occurrences : Multiset (Occurrence K))
      = s₀.occurrences + racers.card • {.entered key}) {schedule : Schedule K}
    (h_order : ∀ t, schedule.movesOf t
      = if t ∈ racers then s₀.registry.exits (failure t) else []) :
    ∃ s', s.run? schedule = some s' ∧ Decided s₀ key racers failure s' := by
  have h_start : Scattering s₀ key racers failure (s₀.occurrences + (racers.card • {.entered key}
      + s₀.registry.outlook key racers
        (fun t => if t ∈ racers then s₀.registry.exits (failure t) else []))) none
      (fun t => if t ∈ racers then s₀.registry.exits (failure t) else []) s := by
    refine ⟨⟨fun t h_t => ⟨?_, if_neg h_t, h_outcomes t⟩, fun t h_t => ?_⟩, ?_, ?_, ?_⟩
    · rw [h_threads, if_neg h_t]
    · refine ⟨[.creating key], [], ?_, ?_, ?_⟩
      · rw [h_threads, if_pos h_t]
        rfl
      · rw [h_outcomes, List.append_nil]
      · rw [if_pos h_t]
        exact .inside
    · rw [h_registry]
      exact ⟨rfl, rfl, le_rfl, (List.append_nil _).symm, fun _ h_winner => by cases h_winner⟩
    · rintro _ ⟨⟩
    · simp [h_told, add_assoc]
  obtain ⟨s', winner, h_run, h_end⟩ := h_start.exists_run? h_absent h_order
  exact ⟨s', h_run, h_end.decided⟩

/-! ### Past the factory -/

/-- **Calls on their way past the factory.** The registry is as it was, and nothing has been told. -/
structure Visiting (s₀ : System K) (key : K) (racers : Finset Nat) (entry : Nat → Move K)
    (b : Breaker K) (agenda : Nat → List (Move K)) (s : System K) : Prop where
  frame : Frame s₀ racers (Passing key entry b) agenda s
  registry_eq : s.registry = s₀.registry
  occurrences_eq : s.occurrences = s₀.occurrences

section Visiting

variable {s₀ s : System K} {key : K} {racers : Finset Nat} {entry : Nat → Move K} {b : Breaker K}
  {agenda : Nat → List (Move K)} {t : Nat} {move : Move K} {rest : List (Move K)}

theorem Visiting.step (h : Visiting s₀ key racers entry b agenda s)
    (h_free : ∀ t ∈ racers, canStart (s₀.threads t) = true)
    (h_entry : ∀ t ∈ racers, (entry t).Starts s₀.registry key)
    (h_bound : s₀.registry.get? key = some b) (h_next : agenda t = move :: rest) :
    ∃ s', Transition s t move s' ∧
      Visiting s₀ key racers entry b (Function.update agenda t rest) s' := by
  have h_t : t ∈ racers := h.frame.mem_of_cons h_next
  -- no move of a racer tells anything
  have h_silent : ∀ (stages : List (Stage K)) {signals : List (Signal K)},
      signals.filterMap Signal.occurrence? = [] →
      (s.put t s.registry stages signals).occurrences = s₀.occurrences := by
    intro stages signals h_signals
    rw [occurrences_put, h_signals, List.append_nil, h.occurrences_eq]
  obtain ⟨stages, got, h_stages, h_got, h_stand⟩ := h.frame.racers t h_t
  rw [h_next] at h_stand
  cases h_stand with
  | free =>
    have h_canStart : canStart (s.threads t) = true := by
      rw [h_stages]
      exact h_free t h_t
    refine ⟨_, .start h_canStart (h.registry_eq ▸ h_entry t h_t), ?_, h.registry_eq, h_silent _ rfl⟩
    rw [h_stages]
    exact h.frame.put h_t id h_got _ [.looking key] .looking
  | looking =>
    refine ⟨_, .hit h_stages (h.registry_eq ▸ h_bound), ?_, h.registry_eq, h_silent _ rfl⟩
    exact h.frame.put h_t id h_got _ [.returning (.ok b)] .returning
  | returning =>
    refine ⟨_, .finish h_stages, ?_, h.registry_eq, h_silent _ rfl⟩
    exact h.frame.put h_t id h_got _ [] .returned

omit [DecidableEq K] in
/-- When the racers have nothing left to do each has got the breaker. -/
theorem Visiting.returned (h : Visiting s₀ key racers entry b (fun _ => []) s) (t : Nat) :
    s.threads t = s₀.threads t ∧
      s.outcomesOf t = s₀.outcomesOf t ++ if t ∈ racers then [.ok b] else [] := by
  by_cases h_t : t ∈ racers
  · obtain ⟨stages, got, h_stages, h_got, h_stand⟩ := h.frame.racers t h_t
    cases h_stand with
    | returned =>
      rw [if_pos h_t]
      exact ⟨h_stages, h_got⟩
  · rw [if_neg h_t, List.append_nil]
    exact ⟨(h.frame.others t h_t).1, (h.frame.others t h_t).2.2⟩

end Visiting

/-- **Past the factory.** Threads that resolve a key that has a breaker get it, in any order, and
nothing else happens. -/
theorem pass {s₀ : System K} {racers : Finset Nat} {key : K} {b : Breaker K}
    {entry : Nat → Move K} (h_free : ∀ t ∈ racers, canStart (s₀.threads t) = true)
    (h_entry : ∀ t ∈ racers, (entry t).Starts s₀.registry key)
    (h_bound : s₀.registry.get? key = some b) {schedule : Schedule K}
    (h_order : ∀ t, schedule.movesOf t = if t ∈ racers then [entry t, .look, .finish] else []) :
    ∃ s, s₀.run? schedule = some s ∧ s.registry = s₀.registry ∧ s.threads = s₀.threads ∧
      s.occurrences = s₀.occurrences ∧
      ∀ t, s.outcomesOf t = s₀.outcomesOf t ++ if t ∈ racers then [.ok b] else [] := by
  have h_start : Visiting s₀ key racers entry b
      (fun t => if t ∈ racers then [entry t, .look, .finish] else []) s₀ := by
    refine ⟨Frame.refl (fun t h_t => if_neg h_t) fun t h_t => ?_, rfl, rfl⟩
    rw [if_pos h_t]
    exact .free
  obtain ⟨s, h_run, h_end⟩ := exists_run?_of_agenda
    (fun h h_next => Visiting.step h h_free h_entry h_bound h_next) h_order h_start
  exact ⟨s, h_run, h_end.registry_eq, funext fun t => (h_end.returned t).1, h_end.occurrences_eq,
    fun t => (h_end.returned t).2⟩

/-! ### The race -/

/-- **The order of a race does not matter.** From any system, let any number of threads that may start
a call each start one for the same key.

If the key has no breaker: every order of the look-ups brings all of them into the factory, and from
there every order of the rest, in which the factory calls succeed and fail as `failure` says, decides
the race. If the key has a breaker: in every order all of them get it, without a factory call, an
event or an update of a metric, and nothing else changes. -/
theorem race_decided (s : System K) (key : K) (racers : Finset Nat) (entry : Nat → Move K)
    (failure : Nat → Option String) (h_free : ∀ t ∈ racers, canStart (s.threads t) = true)
    (h_entry : ∀ t ∈ racers, (entry t).Starts s.registry key) :
    (s.registry.get? key = none → ∀ first second : Schedule K,
      (∀ t, first.movesOf t = if t ∈ racers then [entry t, .look] else []) →
      (∀ t, second.movesOf t = if t ∈ racers then s.registry.exits (failure t) else []) →
      ∃ inside s', s.run? first = some inside ∧
        (∀ t ∈ racers, inside.threads t = .creating key :: s.threads t) ∧
        inside.run? second = some s' ∧ Decided s key racers failure s') ∧
    (∀ b, s.registry.get? key = some b → ∀ schedule : Schedule K,
      (∀ t, schedule.movesOf t = if t ∈ racers then [entry t, .look, .finish] else []) →
      ∃ s', s.run? schedule = some s' ∧ s'.registry = s.registry ∧ s'.threads = s.threads ∧
        s'.occurrences = s.occurrences ∧
        ∀ t, s'.outcomesOf t = s.outcomesOf t ++ if t ∈ racers then [.ok b] else []) := by
  constructor
  · intro h_absent first second h_first h_second
    obtain ⟨inside, h_run, h_registry, h_threads, h_outcomes, h_told⟩ :=
      gather h_free h_entry h_absent h_first
    obtain ⟨s', h_run', h_decided⟩ :=
      scatter h_absent h_registry h_threads h_outcomes h_told h_second
    refine ⟨inside, s', h_run, fun t h_t => ?_, h_run', h_decided⟩
    rw [h_threads, if_pos h_t]
  · intro b h_bound schedule h_order
    exact pass h_free h_entry h_bound h_order

/-- A registry in which only the key `0` has a breaker. -/
def contested : Registry Nat where
  selector _ := .ok 1
  bindings := [(0, ⟨0, 0⟩)]
  made := 1

/-- Three threads race for the key `1`, which has no breaker, and the factory fails for one of them;
and for the key `0`, which has one. -/
theorem race_decided_contested :
    (∃ inside s', (idle contested).run? [(0, .callKey 1), (1, .callKey 1), (1, .look),
        (2, .callKey 1), (2, .look), (0, .look)] = some inside ∧
      (∀ t ∈ ({0, 1, 2} : Finset Nat), inside.threads t = [.creating 1]) ∧
      inside.run? [(2, .make), (0, .make), (0, .settle), (1, .fail "down"), (2, .settle),
        (2, .measure), (1, .finish), (0, .measure), (0, .publish), (2, .publish), (2, .finish),
        (0, .finish)] = some s' ∧
      Decided (idle contested) 1 {0, 1, 2} (fun t => if t = 1 then some "down" else none) s') ∧
    ∃ s', (idle contested).run? [(0, .callKey 0), (1, .callKey 0), (1, .look), (2, .callKey 0),
        (2, .look), (1, .finish), (0, .look), (2, .finish), (0, .finish)] = some s' ∧
      s'.registry = contested ∧ s'.threads = (idle contested).threads ∧ s'.occurrences = [] ∧
      ∀ t, s'.outcomesOf t = [] ++ if t ∈ ({0, 1, 2} : Finset Nat) then [.ok ⟨0, 0⟩] else [] := by
  constructor
  · refine (race_decided (idle contested) 1 {0, 1, 2} (fun _ => .callKey 1)
      (fun t => if t = 1 then some "down" else none) (fun _ _ => rfl) (fun _ _ => rfl)).1 rfl _ _
      ?_ ?_
    · rintro (_ | _ | _ | t) <;> rfl
    · rintro (_ | _ | _ | t) <;> rfl
  · refine (race_decided (idle contested) 0 {0, 1, 2} (fun _ => .callKey 0) (fun _ => none)
      (fun _ _ => rfl) (fun _ _ => rfl)).2 ⟨0, 0⟩ rfl _ ?_
    rintro (_ | _ | _ | t) <;> rfl

end System

end KeyedBreakers
