import KeyedBreakers.Command.Arguments
import KeyedBreakers.Proofs.Config.Decoding
import KeyedBreakers.Proofs.Key.Spelling
import KeyedBreakers.Proofs.Toml.Names

/-!
# One meaning for the names of strategies

A strategy is named in configurations, in either language, and on the command line. Configurations
want a name letter for letter and know one for each strategy; the command line takes further names
and looser spellings. The stricter reading is part of the looser one: a text that a configuration
takes for a strategy is the name that this strategy is written with, and the command line takes it
for the same strategy. So whoever carries a name over from a configuration gets what was configured.

* `Strategy.decode_text_eq_ok_iff` — the texts that configurations take for strategies;
* `Config.strategy_of_ofToml`, `Config.strategy_of_ofJson` — the text of a whole configuration;
* `Given.set_selector_eq_ok_iff` — the texts that the command line takes for strategies;
* `Strategy.NamesAgree`, `Strategy.names_agree` — the main theorem.
-/

namespace KeyedBreakers

/-! ### Configurations -/

/-- A text is a strategy in a configuration if it is the name that the strategy is written with. -/
theorem Strategy.decode_text_eq_ok_iff {dialect : Dialect} {text : String} {s : Strategy} :
    decode dialect (.text text) = .ok s ↔ text = s.name := by
  have h_named : decode dialect (.text text)
      = Decoder.named (all.map fun s => (s.name, s)) text := rfl
  rw [h_named]
  constructor
  · intro h
    by_cases h_text : text ∈ names
    · obtain ⟨s', rfl⟩ := exists_of_mem_names h_text
      rw [named_name] at h
      rw [Except.ok.inj h]
    · rw [named_of_unknown h_text] at h
      cases h
  · rintro rfl
    exact named_name s

namespace Config

variable {dialect : Dialect} {text : String} {c : Config}

/-- The strategy of a configuration is what its datum is decoded to. -/
theorem decode_of_ofFound {name telemetry : Option Datum} {datum : Datum}
    (h : ofFound dialect name (some datum) telemetry = some c) :
    Strategy.decode dialect datum = .ok c.strategy := by
  obtain ⟨n, -, h_rest⟩ := Option.bind_eq_some_iff.1 h
  obtain ⟨s, h_s, h_rest⟩ := Option.bind_eq_some_iff.1 h_rest
  obtain ⟨t, -, rfl⟩ := Option.map_eq_some_iff.1 h_rest
  exact eq_ok_of_toOption h_s

/-- The text that a document has for the strategy is the name of the strategy that it gives. -/
theorem strategy_of_ofToml {root : Toml.Entries} (h_root : root.Distinct)
    (h_text : root.find? "key_selector" = some (.text text)) (h : ofToml root = .ok c) :
    text = c.strategy.name := by
  have h_found : (ofToml root).toOption = ofFound .toml ((root.find? "name").map .ofToml)
      ((root.find? "key_selector").map .ofToml) ((root.find? "observability").map .ofToml) := by
    rw [← Datum.lookup_ofTomlEntries, ← Datum.lookup_ofTomlEntries, ← Datum.lookup_ofTomlEntries]
    exact toOption_decode_table .toml (Datum.nodup_ofTomlEntries h_root)
  rw [h, h_text] at h_found
  exact Strategy.decode_text_eq_ok_iff.1 (decode_of_ofFound h_found.symm)

/-- The text that an object has for the strategy is the name of the strategy that it gives. -/
theorem strategy_of_ofJson {members : List (String × Json)}
    (h_text : (Json.object members).member? "key_selector" = some (.text text))
    (h : ofJson (.object members) = .ok c) : text = c.strategy.name := by
  have h_found : (ofJson (.object members)).toOption
      = ofFound .json (((Json.object members).member? "name").map .ofJson)
          (((Json.object members).member? "key_selector").map .ofJson)
          (((Json.object members).member? "observability").map .ofJson) := by
    rw [ofJson, Datum.ofJson_object, ← Datum.lookup_directory, ← Datum.lookup_directory,
      ← Datum.lookup_directory]
    exact toOption_decode_table .json (Datum.nodup_directory members)
  rw [h, h_text] at h_found
  exact Strategy.decode_text_eq_ok_iff.1 (decode_of_ofFound h_found.symm)

end Config

/-! ### The command line -/

namespace Given

variable {g g' : Given} {text : String}

theorem set_selector_of_ok {s : Strategy} (h : Strategy.parse text = .ok s) :
    g.set .selector text = .ok { g with selector := some s } := by
  simp only [set, h]

theorem set_selector_of_error {e : UnknownStrategy} (h : Strategy.parse text = .error e) :
    g.set .selector text = .error (.invalidSelector e) := by
  simp only [set, h]

/-- The command line takes a text for the strategy that it denotes. -/
theorem set_selector_eq_ok_iff : g.set .selector text = .ok g' ↔
    ∃ s, Strategy.Denotes text s ∧ g' = { g with selector := some s } := by
  constructor
  · intro h
    cases h_parse : Strategy.parse text with
    | ok s =>
      rw [set_selector_of_ok h_parse] at h
      exact ⟨s, Strategy.parse_eq_ok_iff.1 h_parse, (Except.ok.inj h).symm⟩
    | error e =>
      rw [set_selector_of_error h_parse] at h
      cases h
  · rintro ⟨s, h_s, rfl⟩
    exact set_selector_of_ok (Strategy.parse_eq_ok_iff.2 h_s)

end Given

/-! ### The main theorem -/

namespace Strategy

/-- **Names of strategies mean the same wherever they are read.** -/
structure NamesAgree : Prop where
  /-- A text is read as a strategy if it spells one of its names. -/
  accepted : ∀ text s, parse text = .ok s ↔ Denotes text s
  /-- Every other text is refused, and handed back as it is. -/
  refused : ∀ text e, parse text = .error e ↔ (∀ s, ¬ Denotes text s) ∧ e = ⟨text⟩
  /-- No text denotes two strategies. -/
  unique : ∀ text s s', Denotes text s → Denotes text s' → s = s'
  /-- The command line takes the same texts, for the same strategies. -/
  option : ∀ (g g' : Given) text, g.set .selector text = .ok g' ↔
    ∃ s, Denotes text s ∧ g' = { g with selector := some s }
  /-- A text in JSON is a strategy if it is the name that the strategy is written with. -/
  json : ∀ text s, decode .json (.ofJson (.text text)) = .ok s ↔ text = s.name
  /-- So is a text in TOML. -/
  toml : ∀ text s, decode .toml (.ofToml (.text text)) = .ok s ↔ text = s.name
  /-- The name that a strategy is written with is read as that strategy. -/
  written : ∀ s, parse s.name = .ok s
  /-- What an object has for the strategy is read as the strategy that it gives. -/
  object : ∀ members text c, (Json.object members).member? "key_selector" = some (.text text) →
    Config.ofJson (.object members) = .ok c → text = c.strategy.name ∧ parse text = .ok c.strategy
  /-- So is what a document has for it. -/
  document : ∀ source root text c, Toml.parse? source = some root →
    root.find? "key_selector" = some (.text text) → Config.ofToml root = .ok c →
      text = c.strategy.name ∧ parse text = .ok c.strategy

theorem parse_name (s : Strategy) : parse s.name = .ok s :=
  parse_eq_ok_iff.2 (denotes_name s)

theorem names_agree : NamesAgree where
  accepted text s := parse_eq_ok_iff
  refused text e := parse_eq_error_iff
  unique text s s' h h' := h.unique h'
  option g g' text := Given.set_selector_eq_ok_iff
  json text s := decode_text_eq_ok_iff
  toml text s := decode_text_eq_ok_iff
  written := parse_name
  object members text c h_text h_c := by
    obtain rfl := Config.strategy_of_ofJson h_text h_c
    exact ⟨rfl, parse_name c.strategy⟩
  document source root text c h_root h_text h_c := by
    obtain rfl := Config.strategy_of_ofToml (Toml.distinct_of_parse? h_root) h_text h_c
    exact ⟨rfl, parse_name c.strategy⟩

/-- A loose spelling with both separators denotes one strategy, and a name in a document denotes the
strategy that the document gives. -/
theorem names_agree_carriedOver :
    Denotes "Host-AND_method" .targetAndOperation ∧
      (∀ s, Denotes "Host-AND_method" s → s = .targetAndOperation) ∧
      (∀ s, ¬ Denotes "target and operation" s) ∧
      Toml.parse? "key_selector = \"operation\"" = some [("key_selector", .text "operation")] ∧
      Config.ofToml [("key_selector", .text "operation")] = .ok { strategy := .operation } ∧
      parse "operation" = .ok .operation := by
  have h_spelled : Denotes "Host-AND_method" .targetAndOperation :=
    (names_agree.accepted _ _).1 (by decide)
  have h_refused : parse "target and operation" = .error ⟨"target and operation"⟩ := by decide
  have h_root : Toml.parse? "key_selector = \"operation\""
      = some [("key_selector", .text "operation")] := by rfl
  have h_config : Config.ofToml [("key_selector", .text "operation")]
      = .ok { strategy := .operation } := by rfl
  exact ⟨h_spelled, fun s h => names_agree.unique _ _ _ h h_spelled,
    ((names_agree.refused _ _).1 h_refused).1, h_root, h_config,
    (names_agree.document _ _ _ _ h_root rfl h_config).2⟩

end Strategy

end KeyedBreakers
