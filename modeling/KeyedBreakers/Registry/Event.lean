import KeyedBreakers.Key.Basic
import KeyedBreakers.Key.Error
import KeyedBreakers.Key.Strategy
import KeyedBreakers.Log.Record

/-!
# What a registry tells

A registry tells what happens to its keys in two ways: events go to the log, and updates go to the
metrics. Both carry the name of the registry. An event shows keys between quotation marks, so that
no key can pass for another or break the line.

* `Event` and `Event.record` — what happened, and the record of it in the log;
* `Update` — a counter's increment or the new value of the gauge.
-/

namespace KeyedBreakers

/-! ### Events -/

/-- What can happen in a registry. -/
inductive Event (K : Type) where
  /-- The registry was built from a configuration. -/
  | configured (strategy : Strategy) (metered : Bool)
  /-- A call has no key. -/
  | underivable (target operation : String) (cause : KeyError)
  /-- The first breaker of a key is bound to it. -/
  | created (key : K)
  /-- A breaker was made for a key that has one by now. -/
  | lostRace (key : K)
  /-- No breaker could be made for a key. -/
  | creationFailed (key : K) (cause : String)
deriving DecidableEq

namespace Event

variable {K : Type}

/-- How much an event matters. -/
def level : Event K → Level
  | configured .. => .info
  | creationFailed .. => .warn
  | underivable .. | created .. | lostRace .. => .debug

/-- The key that the event tells of. -/
def key? : Event K → Option K
  | .created key | .lostRace key | .creationFailed key _ => some key
  | .configured .. | .underivable .. => none

/-- What is said of an event. -/
def message : Event K → String
  | configured .. => "Circuit breaker registry configured"
  | underivable .. => "Failed to derive circuit breaker key"
  | created _ => "Created circuit breaker"
  | lostRace _ => "Lost breaker creation race, using existing instance"
  | creationFailed .. => "Circuit breaker creation failed"

/-- The details of an event, without the name of the registry. -/
def details [RegistryKey K] : Event K → List Field
  | configured strategy metered =>
    [⟨"key_selector", .text strategy.name⟩, ⟨"metrics_enabled", .flag metered⟩]
  | underivable target operation cause =>
    [⟨"call_target", .text target⟩, ⟨"operation", .text operation⟩, ⟨"error", .text cause.message⟩]
  | created key | lostRace key => [⟨"key", .text (RegistryKey.shown key)⟩]
  | creationFailed key cause =>
    [⟨"key", .text (RegistryKey.shown key)⟩, ⟨"error", .text cause⟩]

/-- The record of an event in the log of the named registry. -/
def record [RegistryKey K] (registry : String) (event : Event K) : Record :=
  ⟨event.level, event.message, ⟨"registry", .text registry⟩ :: event.details⟩

end Event

/-! ### Metrics -/

/-- What is measured. -/
inductive Metric where
  /-- Counts the breakers that were bound to a key. -/
  | created
  /-- Counts the calls for which no breaker could be made. -/
  | failures
  /-- Counts the breakers that were dropped because their key had one. -/
  | raceLosses
  /-- The number of breakers that the registry holds. -/
  | size
deriving DecidableEq, Repr

/-- The name under which a metric is published. -/
def Metric.name : Metric → String
  | created => "breaker_registry_breakers_created_total"
  | failures => "breaker_registry_creation_failures_total"
  | raceLosses => "breaker_registry_race_losses_total"
  | size => "breaker_registry_breakers"

/-- A change of a metric of the registries with a name: the increment of a counter, or the new value
of the size. -/
structure Update where
  metric : Metric
  label : String
  amount : Nat
deriving DecidableEq, Repr

end KeyedBreakers
