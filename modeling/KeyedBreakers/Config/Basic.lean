import KeyedBreakers.Config.Decode
import KeyedBreakers.Key.Strategy

/-!
# The configuration of a registry

Every setting has a default, so the empty configuration is complete.

* `Config.decode` — the configuration that a datum gives;
* `Config.toJson` — the configuration written out as a JSON object with all its settings.
-/

namespace KeyedBreakers

/-- What a registry tells about itself. -/
structure Telemetry where
  /-- The level of the log, as it was spelled. -/
  logLevel : String := "info"
  /-- Whether the registry keeps metrics. -/
  metered : Bool := true
deriving DecidableEq, Repr, Inhabited

/-- The name of a registry that was not given one. -/
def defaultName : String := "default"

/-- The settings of a registry. -/
structure Config where
  /-- The name that labels logs and metrics. -/
  name : String := defaultName
  /-- How calls are partitioned. -/
  strategy : Strategy := .target
  telemetry : Telemetry := {}
deriving DecidableEq, Repr, Inhabited

/-! ### Reading -/

/-- A strategy, by exactly its name. -/
def Strategy.decode : Decoder Strategy :=
  Decoder.choice (Strategy.all.map fun s => (s.name, s))

/-- The fields of the settings for logs and metrics. -/
def Telemetry.fields : List (Decoder.Field Telemetry) :=
  [.ofDecoder "log_level" .text fun level config => { config with logLevel := level },
    .ofDecoder "metrics_enabled" .flag fun enabled config => { config with metered := enabled }]

/-- The settings for logs and metrics that a datum gives. -/
def Telemetry.decode : Decoder Telemetry :=
  Decoder.record "ObservabilityConfig" fields {}

/-- The fields of a configuration. -/
def Config.fields : List (Decoder.Field Config) :=
  [.ofDecoder "name" .text fun name config => { config with name := name },
    .ofDecoder "key_selector" Strategy.decode fun s config => { config with strategy := s },
    .ofDecoder "observability" Telemetry.decode fun o config =>
      { config with telemetry := o }]

/-- The configuration that a datum gives. -/
def Config.decode : Decoder Config :=
  Decoder.record "RegistryConfig" fields {}

/-- The configuration that a JSON value gives. -/
def Config.ofJson (value : Json) : Except DecodeError Config :=
  decode .json (.ofJson value)

/-- The configuration that the root table of a TOML document gives. -/
def Config.ofToml (root : Toml.Entries) : Except DecodeError Config :=
  decode .toml (.ofToml (.table .header root))

/-! ### Writing -/

/-- The settings for logs and metrics as a JSON object. -/
def Telemetry.toJson (config : Telemetry) : Json :=
  .object [("log_level", .text config.logLevel), ("metrics_enabled", .flag config.metered)]

/-- The configuration as a JSON object. -/
def Config.toJson (config : Config) : Json :=
  .object [("name", .text config.name), ("key_selector", .text config.strategy.name),
    ("observability", config.telemetry.toJson)]

end KeyedBreakers
