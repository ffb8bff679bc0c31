import KeyedBreakers.Config.Basic
import KeyedBreakers.Key.Selector
import KeyedBreakers.Registry.Event

/-!
# Registries

A registry keeps one breaker per key. A key without a breaker gets one on the first call for it, and
a breaker that is bound to a key stays bound to it: nothing here removes or replaces a binding.

* `make` — makes a new instance, which is not bound yet;
* `settle` — binds an instance to its key, or finds that the key has a breaker already;
* `get?`, `contains`, `keys`, `size`, `isEmpty`, `described` — what the bindings are;
* `Occurrence` — what a registry does that can be seen from outside.
-/

namespace KeyedBreakers

open KeyedBreakers.Text

/-- An instance of a breaker: the how-manieth of its registry, and the key it was made for. -/
structure Breaker (K : Type) where
  serial : Nat
  key : K
deriving DecidableEq, Repr

/-- A registry of breakers by key. -/
structure Registry (K : Type) where
  /-- Labels logs and metrics. -/
  name : String := defaultName
  /-- Whether the registry keeps metrics. -/
  metered : Bool := true
  /-- Derives the keys of calls. -/
  selector : Selector K
  /-- The breakers by key, in the order in which they were bound. -/
  bindings : List (K × Breaker K) := []
  /-- How many instances have been made so far. -/
  made : Nat := 0

/-! ### Occurrences -/

/-- Why a call has no breaker. -/
inductive ResolveError (K : Type) where
  /-- The call has no key. -/
  | keyDerivation (cause : KeyError)
  /-- No breaker could be made for the key. -/
  | creation (key : K) (cause : String)
deriving DecidableEq, Repr

namespace ResolveError

variable {K : Type} [RegistryKey K]

/-- What is said of a call without a breaker. -/
def message : ResolveError K → String
  | keyDerivation cause => cause.message
  | creation key cause =>
    "failed to create circuit breaker for key " ++ RegistryKey.shown key ++ ": " ++ cause

/-- The texts of the errors behind this one, outermost first. -/
def sources : ResolveError K → List String
  | keyDerivation cause => cause.sources
  | creation _ cause => [cause]

end ResolveError

/-- What a call ends with. -/
abbrev Outcome (K : Type) := Except (ResolveError K) (Breaker K)

/-- What a registry does that can be seen from outside. -/
inductive Occurrence (K : Type) where
  /-- The factory is called for a key. -/
  | entered (key : K)
  | logged (event : Event K)
  | updated (update : Update)
  /-- A call that the factory made has ended. -/
  | returned (outcome : Outcome K)

namespace Registry

variable {K : Type}

/-! ### Building -/

/-- A registry of text keys with the settings of a configuration. -/
def ofConfig (config : Config) : Registry String :=
  { name := config.name
    metered := config.telemetry.metered
    selector := config.strategy.select }

/-- The event of building a registry from a configuration. -/
def configured (K : Type) (config : Config) : Event K :=
  .configured config.strategy config.telemetry.metered

/-- The settings with which a registry is built. -/
def settings (r : Registry K) : String × Bool × Selector K :=
  (r.name, r.metered, r.selector)

/-! ### Views -/

section Views

variable [DecidableEq K]

/-- The breaker of a key, if it has one. -/
def get? (r : Registry K) (key : K) : Option (Breaker K) :=
  r.bindings.lookup key

/-- Whether a key has a breaker. -/
def contains (r : Registry K) (key : K) : Bool :=
  r.bindings.any fun b => b.1 = key

/-- The keys that have a breaker. -/
def keys (r : Registry K) : List K :=
  r.bindings.map (·.1)

/-- The keys that have a breaker, in ascending order. -/
def sortedKeys [RegistryKey K] (r : Registry K) : List K :=
  r.keys.mergeSort RegistryKey.precedes

/-- The number of keys that have a breaker. -/
def size (r : Registry K) : Nat :=
  r.bindings.length

/-- Whether no key has a breaker. -/
def isEmpty (r : Registry K) : Bool :=
  r.bindings.isEmpty

/-- The registry as messages for developers show it. -/
def described (r : Registry K) : String :=
  "KeyedBreakerRegistry \x7b name: " ++ Quoted.encode r.name ++
    ", breakers: " ++ String.ofList (decimal r.size) ++
    ", metrics_enabled: " ++ (if r.metered then "true" else "false") ++ " \x7d"

end Views

/-! ### Telling -/

/-- One more for a counter, if the registry keeps metrics. -/
def counted (r : Registry K) (metric : Metric) : List (Occurrence K) :=
  if r.metered then [.updated ⟨metric, r.name, 1⟩] else []

/-- The size published, if the registry keeps metrics. -/
def gauged (r : Registry K) (size : Nat) : List (Occurrence K) :=
  if r.metered then [.updated ⟨.size, r.name, size⟩] else []

/-- What is told of a call that has no key. -/
def toldUnderivable (call : Call) (cause : KeyError) : List (Occurrence K) :=
  [.logged (.underivable call.target.written call.operation cause)]

/-- What is told when no breaker could be made for a key. -/
def toldFailure (r : Registry K) (key : K) (cause : String) : List (Occurrence K) :=
  .logged (.creationFailed key cause) :: r.counted .failures

/-! ### Making and binding -/

/-- A new instance for a key, not bound yet. -/
def make (r : Registry K) (key : K) : Breaker K × Registry K :=
  (⟨r.made, key⟩, { r with made := r.made + 1 })

/-- What comes of binding an instance to its key. -/
structure Settlement (K : Type) where
  /-- The breaker that the key has now. -/
  winner : Breaker K
  registry : Registry K
  trace : List (Occurrence K)

/-- Binds an instance to its key unless the key has a breaker; then the instance is dropped. -/
def settle [DecidableEq K] (r : Registry K) (b : Breaker K) : Settlement K :=
  match r.get? b.key with
  | some winner => ⟨winner, r, .logged (.lostRace b.key) :: r.counted .raceLosses⟩
  | none =>
    ⟨b, { r with bindings := r.bindings ++ [(b.key, b)] },
      .logged (.created b.key) :: r.counted .created⟩

/-! ### What making and binding show -/

/-- What is told depends on the name of a registry and its switch of the metrics only. -/
theorem counted_congr {r r' : Registry K} (h_name : r'.name = r.name)
    (h_metered : r'.metered = r.metered) (metric : Metric) :
    r'.counted metric = r.counted metric := by
  rw [counted, counted, h_name, h_metered]

theorem gauged_congr {r r' : Registry K} (h_name : r'.name = r.name)
    (h_metered : r'.metered = r.metered) (size : Nat) : r'.gauged size = r.gauged size := by
  rw [gauged, gauged, h_name, h_metered]

/-- A count with the size behind it is two updates or none. -/
theorem counted_append_gauged (r : Registry K) (metric : Metric) (size : Nat) :
    r.counted metric ++ r.gauged size =
      if r.metered then [.updated ⟨metric, r.name, 1⟩, .updated ⟨.size, r.name, size⟩] else [] := by
  unfold counted gauged
  split
  · rfl
  · rfl

@[simp] theorem key_make (r : Registry K) (key : K) : (r.make key).1.key = key := rfl

section Settling

variable [DecidableEq K]

@[simp] theorem get?_make (r : Registry K) (key k : K) : (r.make key).2.get? k = r.get? k := rfl

theorem settle_of_bound {r : Registry K} {b winner : Breaker K} (h : r.get? b.key = some winner) :
    r.settle b = ⟨winner, r, .logged (.lostRace b.key) :: r.counted .raceLosses⟩ := by
  simp [settle, h]

theorem settle_of_unbound {r : Registry K} {b : Breaker K} (h : r.get? b.key = none) :
    r.settle b = ⟨b, { r with bindings := r.bindings ++ [(b.key, b)] },
      .logged (.created b.key) :: r.counted .created⟩ := by
  simp [settle, h]

/-- After an instance has been settled, its key has the winner. -/
theorem get?_settle_self (r : Registry K) (b : Breaker K) :
    (r.settle b).registry.get? b.key = some (r.settle b).winner := by
  cases h : r.get? b.key with
  | some winner => simp [settle_of_bound h, h]
  | none =>
    -- nothing before the new binding has its key
    have hb : r.bindings.lookup b.key = none := h
    simp [settle_of_unbound h, get?, List.lookup_append, hb]

/-- Settling an instance leaves all other keys alone. -/
theorem get?_settle_of_ne {r : Registry K} {b : Breaker K} {k : K} (hk : k ≠ b.key) :
    (r.settle b).registry.get? k = r.get? k := by
  cases h : r.get? b.key with
  | some winner => rw [settle_of_bound h]
  | none =>
    have hne : (k == b.key) = false := beq_false_of_ne hk
    simp [settle_of_unbound h, get?, List.lookup_append, List.lookup_cons, hne]

@[simp] theorem made_settle (r : Registry K) (b : Breaker K) :
    (r.settle b).registry.made = r.made := by
  cases h : r.get? b.key with
  | some winner => rw [settle_of_bound h]
  | none => rw [settle_of_unbound h]

/-- The winner is the breaker that the key had, if it had one, and the new instance otherwise. -/
theorem winner_settle (r : Registry K) (b : Breaker K) :
    (r.settle b).winner = (r.get? b.key).getD b := by
  cases h : r.get? b.key with
  | some winner => rw [settle_of_bound h, Option.getD_some]
  | none => rw [settle_of_unbound h, Option.getD_none]

/-- Settling an instance binds it if its key was unbound, and changes nothing else. -/
theorem get?_settle_eq_some_iff {r : Registry K} {b b' : Breaker K} {k : K} :
    (r.settle b).registry.get? k = some b' ↔
      r.get? k = some b' ∨ b.key = k ∧ r.get? k = none ∧ b = b' := by
  by_cases hk : k = b.key
  · subst hk
    rw [get?_settle_self, winner_settle]
    cases r.get? b.key <;> simp
  · simp [get?_settle_of_ne hk, Ne.symm hk]

/-- The keys are those to which a breaker is bound. -/
theorem mem_keys_iff (r : Registry K) (key : K) : key ∈ r.keys ↔ ∃ b, r.get? key = some b := by
  rw [keys, get?]
  induction r.bindings with
  | nil => simp
  | cons binding rest ih =>
    rw [List.map_cons, List.mem_cons, ih, List.lookup_cons]
    by_cases h : key = binding.1
    · simp [h]
    · simp [h, beq_false_of_ne h]

theorem keys_settle_of_unbound {r : Registry K} {b : Breaker K} (h : r.get? b.key = none) :
    (r.settle b).registry.keys = r.keys ++ [b.key] := by
  rw [settle_of_unbound h, keys, List.map_append]
  rfl

/-- Settling an instance binds no key twice. -/
theorem nodup_keys_settle {r : Registry K} (h : r.keys.Nodup) (b : Breaker K) :
    (r.settle b).registry.keys.Nodup := by
  cases h_get : r.get? b.key with
  | some winner =>
    rw [settle_of_bound h_get]
    exact h
  | none =>
    have h_new : b.key ∉ r.keys := by simp [mem_keys_iff, h_get]
    rw [keys_settle_of_unbound h_get, List.nodup_append]
    refine ⟨h, List.pairwise_singleton _ _, fun key h_key key' h_key' => ?_⟩
    rw [List.mem_singleton.1 h_key']
    exact ne_of_mem_of_not_mem h_key h_new

end Settling

end Registry

end KeyedBreakers
