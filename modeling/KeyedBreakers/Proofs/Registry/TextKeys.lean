import KeyedBreakers.Proofs.Key.Partition
import KeyedBreakers.Proofs.Registry.Rekeying
import Mathlib.Data.List.Forall2

/-!
# Text keys against pairs

The preset selector by target writes the host and the port of a target into one text. A registry whose
keys are pairs of a host and a port keeps all that a target says of its endpoint. The two registries do
the same on every row of calls whose targets were read, since the text of such a pair determines it.

* `Endpoint.text` — the pair as the text that the preset makes of it;
* `Selector.byTarget_eq_map`, `Selector.byEndpoint_eq_bind` — the two selectors in terms of each other;
* `Performance.Alike`, `SharesInstance` — what it means that the registries do the same;
* `Session.alike_of_text_keys` — the main theorem.
-/

namespace KeyedBreakers

open KeyedBreakers.Text KeyedBreakers.Url

/-! ### The two selectors -/

/-- The endpoint as one text. -/
def Endpoint.text (e : Endpoint) : String := Selector.hostAndPort e.host e.port

/-- The host of the endpoint is the text of a host. -/
def Endpoint.IsProper (e : Endpoint) : Prop := IsHostText e.host.toList

namespace Selector

/-- The preset makes one text of what the other selector answers. -/
theorem byTarget_eq_map : byTarget = byEndpoint.map Endpoint.text := by
  funext call
  show byTarget call = (byEndpoint call).map Endpoint.text
  unfold byTarget byEndpoint
  cases call.target.host? <;> rfl

/-- The other selector refuses what the preset refuses, for the same reason, and else answers the host
and the port. -/
theorem byEndpoint_eq_bind (call : Call) :
    byEndpoint call = do
      let _ ← byTarget call
      return ⟨call.target.host?.getD "", call.target.port⟩ := by
  unfold byTarget byEndpoint
  cases call.target.host? <;> rfl

/-- The endpoint of a target that was read is proper. -/
theorem isProper_of_byEndpoint {call : Call} (h_read : call.target.IsRead) {e : Endpoint}
    (h : byEndpoint call = .ok e) : e.IsProper := by
  unfold byEndpoint at h
  cases h_host : call.target.host? with
  | none => simp [h_host] at h
  | some host =>
    rw [h_host] at h
    obtain rfl := Except.ok.inj h
    exact h_read.isHostText h_host

end Selector

/-- The texts of proper endpoints tell them apart. -/
theorem Endpoint.separates_text : Registry.Separates Endpoint.text Endpoint.IsProper := by
  intro a b h_a h_b h_text
  obtain ⟨h_host, h_port⟩ := (Selector.hostAndPort_inj h_a h_b).1 h_text
  cases a
  cases b
  simp_all

/-! ### What it means to do the same -/

variable {K L : Type}

/-- Two outcomes are of one kind: both calls have got a breaker, or both have none for one cause. -/
inductive Outcome.Alike : Outcome K → Outcome L → Prop
  | ok (b : Breaker K) (b' : Breaker L) : Alike (.ok b) (.ok b')
  | keyDerivation (cause : KeyError) :
      Alike (.error (.keyDerivation cause)) (.error (.keyDerivation cause))
  | creation (key : K) (key' : L) (cause : String) :
      Alike (.error (.creation key cause)) (.error (.creation key' cause))

/-- Two calls show the same but for the form of keys. -/
structure Performance.Alike (p : Performance K) (q : Performance L) : Prop where
  outcome : ∃ o o', p.answer = .outcome o ∧ q.answer = .outcome o' ∧ Outcome.Alike o o'
  factoryCalls : (p.trace.filterMap Occurrence.entered?).length
    = (q.trace.filterMap Occurrence.entered?).length
  events : (p.trace.filterMap Occurrence.event?).map (fun e => (e.level, e.message))
    = (q.trace.filterMap Occurrence.event?).map (fun e => (e.level, e.message))
  updates : p.trace.filterMap Occurrence.update? = q.trace.filterMap Occurrence.update?
  size : p.registry.size = q.registry.size

/-- Two calls of a row have got one instance. -/
def SharesInstance (performances : List (Performance K)) (i j : Nat) : Prop :=
  ∃ p q b, performances[i]? = some p ∧ performances[j]? = some q ∧
    p.answer = .outcome (.ok b) ∧ q.answer = .outcome (.ok b)

/-! ### Keys in another form show no more than the form -/

section Rekey

variable {f : K → L}

theorem Outcome.alike_rekey (f : K → L) (o : Outcome K) : Outcome.Alike (o.rekey f) o := by
  cases o with
  | ok b => exact .ok _ b
  | error e =>
    cases e with
    | keyDerivation cause => exact .keyDerivation cause
    | creation key cause => exact .creation _ key cause

theorem Event.level_rekey (f : K → L) (e : Event K) : (e.rekey f).level = e.level := by
  cases e <;> rfl

theorem Event.message_rekey (f : K → L) (e : Event K) : (e.rekey f).message = e.message := by
  cases e <;> rfl

/-- If a kind of occurrence is carried over by `g`, so is all of that kind in a trace. -/
theorem Occurrence.filterMap_rekey {α β : Type} {pick : Occurrence K → Option α}
    {pick' : Occurrence L → Option β} {g : α → β}
    (h : ∀ o : Occurrence K, pick' (o.rekey f) = (pick o).map g) (trace : List (Occurrence K)) :
    (trace.map (Occurrence.rekey f)).filterMap pick' = (trace.filterMap pick).map g := by
  rw [List.filterMap_map, List.map_filterMap]
  exact List.filterMap_congr fun o _ => h o

theorem Performance.alike_rekey (f : K → L) {p : Performance K} {o : Outcome K}
    (h_answer : p.answer = .outcome o) : (p.rekey f).Alike p where
  outcome := by
    refine ⟨o.rekey f, o, ?_, h_answer, o.alike_rekey f⟩
    rw [Performance.rekey, h_answer]
    rfl
  factoryCalls := by
    have h_entered : ∀ o : Occurrence K, (o.rekey f).entered? = o.entered?.map f := by
      intro o
      cases o <;> rfl
    rw [Performance.rekey, Occurrence.filterMap_rekey h_entered, List.length_map]
  events := by
    have h_event : ∀ o : Occurrence K, (o.rekey f).event? = o.event?.map (Event.rekey f) := by
      intro o
      cases o <;> rfl
    rw [Performance.rekey, Occurrence.filterMap_rekey h_event, List.map_map]
    refine List.map_congr_left fun e _ => ?_
    rw [Function.comp_apply, Event.level_rekey, Event.message_rekey]
  updates := by
    have h_update : ∀ o : Occurrence K, (o.rekey f).update? = o.update?.map id := by
      intro o
      cases o <;> rfl
    rw [Performance.rekey, Occurrence.filterMap_rekey h_update, List.map_id]
  size := Registry.size_rekey f p.registry

/-- Instances of keys that their form tells apart are shared in the other form if they are shared. -/
theorem sharesInstance_map_rekey {P : K → Prop} (h_apart : Registry.Separates f P)
    {performances : List (Performance K)}
    (h_within : ∀ p ∈ performances, ∀ b, p.answer = .outcome (.ok b) → P b.key) (i j : Nat) :
    SharesInstance (performances.map (Performance.rekey f)) i j ↔
      SharesInstance performances i j := by
  -- a breaker that is the answer in the other form is one there
  have h_back : ∀ {n : Nat} {p' : Performance L} {b' : Breaker L},
      (performances.map (Performance.rekey f))[n]? = some p' → p'.answer = .outcome (.ok b') →
        ∃ p b, performances[n]? = some p ∧ p.answer = .outcome (.ok b) ∧ b.rekey f = b' ∧
          P b.key := by
    intro n p' b' h_p' h_answer
    rw [List.getElem?_map, Option.map_eq_some_iff] at h_p'
    obtain ⟨p, h_p, rfl⟩ := h_p'
    obtain ⟨b, h_b, rfl⟩ : ∃ b, p.answer = .outcome (.ok b) ∧ b.rekey f = b' := by
      cases h : p.answer with
      | outcome o =>
        rw [Performance.rekey, h] at h_answer
        cases o with
        | ok b => exact ⟨b, rfl, Except.ok.inj (Answer.outcome.inj h_answer)⟩
        | error e => exact nomatch Answer.outcome.inj h_answer
      | _ =>
        rw [Performance.rekey, h] at h_answer
        exact nomatch h_answer
    exact ⟨p, b, h_p, h_b, rfl, h_within p (List.mem_of_getElem? h_p) b h_b⟩
  constructor
  · rintro ⟨p', q', b', h_p', h_q', h_pb, h_qb⟩
    obtain ⟨p, b, h_p, h_b, h_eq, h_key⟩ := h_back h_p' h_pb
    obtain ⟨q, c, h_q, h_c, h_eq', h_key'⟩ := h_back h_q' h_qb
    have h_same : b = c := h_apart.rekey_inj h_key h_key' (h_eq.trans h_eq'.symm)
    exact ⟨p, q, b, h_p, h_q, h_b, h_same ▸ h_c⟩
  · rintro ⟨p, q, b, h_p, h_q, h_pb, h_qb⟩
    refine ⟨p.rekey f, q.rekey f, b.rekey f, ?_, ?_, ?_, ?_⟩
    · rw [List.getElem?_map, h_p, Option.map_some]
    · rw [List.getElem?_map, h_q, Option.map_some]
    · rw [Performance.rekey, h_pb]
      rfl
    · rw [Performance.rekey, h_qb]
      rfl

end Rekey

/-! ### The main theorem -/

namespace Session

variable [DecidableEq K] [RegistryKey K]

/-- Calls one after another on a new registry, each with how the factory calls in it are to end; the
factory makes no calls of its own. -/
def resolveAll (name : String) (metered : Bool) (selector : Selector K)
    (calls : List (Call × List (Option String))) : List (Nat × Performance K) × Session K :=
  Session.run [{ name, metered, selector }]
    (calls.map fun c => (0, .resolve c.1 (c.2.map fun failure => { failure })))

/-- The performances of such calls. -/
theorem resolveAll_eq (name : String) (metered : Bool) (selector : Selector K)
    (calls : List (Call × List (Option String))) :
    (resolveAll name metered selector calls).1.map (·.2) =
      Registry.performAll { name, metered, selector }
        (Registry.resolveSteps (calls.map fun c => (c.1, c.2.map fun failure => { failure }))) := by
  have h_steps : (calls.map fun c : Call × List (Option String) =>
        ((0 : Nat), Step.resolve (K := K) c.1 (c.2.map fun failure => { failure })))
      = (Registry.resolveSteps (calls.map fun c => (c.1, c.2.map fun failure => { failure }))).map
          fun step => (0, step) := by
    rw [Registry.resolveSteps, List.map_map, List.map_map]
    rfl
  rw [resolveAll, h_steps, run_singleton, List.map_map]
  exact List.map_id _

/-- **Text keys lose nothing.** Take a selector that refuses what the preset by target refuses, and
otherwise answers the host and the port as a pair. On every row of calls whose targets were read, a
registry with the preset does at each call what a registry with that selector does, but for the form of
keys, and two calls share an instance in the one if they do in the other. -/
theorem alike_of_text_keys (name : String) (metered : Bool)
    (calls : List (Call × List (Option String))) (h_read : ∀ c ∈ calls, c.1.target.IsRead) :
    let texts := (resolveAll name metered Selector.byTarget calls).1.map (·.2)
    let pairs := (resolveAll name metered Selector.byEndpoint calls).1.map (·.2)
    (∀ call, Selector.byEndpoint call = do
      let _ ← Selector.byTarget call
      return ⟨call.target.host?.getD "", call.target.port⟩) ∧
    texts.length = calls.length ∧ List.Forall₂ Performance.Alike texts pairs ∧
      ∀ i j, SharesInstance texts i j ↔ SharesInstance pairs i j := by
  intro texts pairs
  -- the calls and the registry with pairs for keys; all else is read off from what they do
  let scripted := calls.map fun c => (c.1, c.2.map fun failure => ({ failure } : Plan Endpoint))
  let fresh : Registry Endpoint := { name, metered, selector := Selector.byEndpoint }
  have h_calls : Registry.CallsWithin Endpoint.IsProper fresh.selector scripted := by
    constructor
    · intro x h_x e h_e
      obtain ⟨c, h_c, rfl⟩ := List.mem_map.1 h_x
      exact Selector.isProper_of_byEndpoint (h_read c h_c) h_e
    · -- the factory resolves no keys
      intro x h_x plan h_plan e h_e
      obtain ⟨c, -, rfl⟩ := List.mem_map.1 h_x
      obtain ⟨failure, -, rfl⟩ := List.mem_map.1 h_plan
      exact nomatch h_e
  have h_fresh : fresh.Within Endpoint.IsProper := fun x h_x => nomatch h_x
  have h_pairs : pairs = fresh.performAll (Registry.resolveSteps scripted) := resolveAll_eq ..
  -- the registry with text keys is the other one with the texts of its keys
  have h_texts : texts = pairs.map (Performance.rekey Endpoint.text) := by
    have h_registry : fresh.rekey Endpoint.text
        = { name, metered, selector := Selector.byTarget } := by
      rw [Selector.byTarget_eq_map]
      rfl
    have h_scripted : scripted.map (fun c => (c.1, c.2.map (Plan.rekey Endpoint.text)))
        = calls.map fun c => (c.1, c.2.map fun failure => { failure }) := by
      rw [List.map_map]
      refine List.map_congr_left fun c _ => ?_
      rw [Function.comp_apply, List.map_map]
      rfl
    rw [h_pairs, ← Registry.performAll_rekey Endpoint.separates_text scripted fresh h_fresh h_calls,
      h_registry, h_scripted]
    exact resolveAll_eq ..
  refine ⟨Selector.byEndpoint_eq_bind, ?_, ?_, ?_⟩
  · rw [h_texts, List.length_map, h_pairs, Registry.length_performAll, Registry.resolveSteps,
      List.length_map, List.length_map]
  · rw [h_texts, List.forall₂_map_left_iff, List.forall₂_same, h_pairs]
    intro p h_p
    obtain ⟨o, h_o⟩ := Registry.exists_outcome_of_mem_performAll scripted fresh p h_p
    exact Performance.alike_rekey Endpoint.text h_o
  · intro i j
    rw [h_texts]
    refine sharesInstance_map_rekey Endpoint.separates_text ?_ i j
    rw [h_pairs]
    exact h_fresh.of_mem_performAll scripted fresh h_calls

/-- The target of a queue, with a port. -/
def queue : Target where
  url := { scheme := "rpc", authority := some { host := some (.verbatim "queue"), port := some 81 },
           path := .segments [] }
  port := some 81
  written := "rpc://queue:81"

/-- The address of a person, which has no host. -/
def mailbox : Target where
  url := { scheme := "mailto", authority := none, path := .plain "ops" }
  port := none
  written := "mailto:ops"

/-- Calls to the queue, of which the first finds no breaker that can be made, and one call that has no
key. -/
def shift : List (Call × List (Option String)) :=
  [({ target := queue, operation := "put" }, [some "out of reach"]),
   ({ target := queue, operation := "put" }, []),
   ({ target := mailbox, operation := "put" }, []),
   ({ target := queue, operation := "take" }, [])]

theorem alike_of_text_keys_shift :
    (∀ c ∈ shift, c.1.target.IsRead) ∧
      SharesInstance ((resolveAll "pool" true Selector.byTarget shift).1.map (·.2)) 1 3 ∧
      ¬ SharesInstance ((resolveAll "pool" true Selector.byTarget shift).1.map (·.2)) 0 1 := by
  have h_queue : Target.parse "rpc://queue:81" = .ok queue := rfl
  have h_mailbox : Target.parse "mailto:ops" = .ok mailbox := rfl
  have h_read : ∀ c ∈ shift, c.1.target.IsRead := by
    simp [shift, Target.IsRead.ofText h_queue, Target.IsRead.ofText h_mailbox]
  obtain ⟨-, -, -, h_shares⟩ := alike_of_text_keys "pool" true shift h_read
  refine ⟨h_read, (h_shares 1 3).2 ?_, fun h_first => ?_⟩
  · exact ⟨_, _, ⟨0, ⟨"queue", some 81⟩⟩, rfl, rfl, rfl, rfl⟩
  · obtain ⟨p, q, b, h_p, -, h_b, -⟩ := (h_shares 0 1).1 h_first
    -- the factory of the first call has failed
    obtain rfl := Option.some.inj h_p
    exact nomatch Answer.outcome.inj h_b

end Session

end KeyedBreakers
