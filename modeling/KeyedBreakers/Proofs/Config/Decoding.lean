import KeyedBreakers.Proofs.Config.Shapes
import KeyedBreakers.Toml.Table
import Mathlib.Data.Option.Basic

/-!
# Decoding undoes encoding, and reads nothing else

A configuration can be written in many ways: as an object or an array, with members in any order, with
members that nobody asked for, and with any of its own left out. All of them are read alike: what is
written is taken over, what is left out has its default, and what is foreign does not matter. So a
configuration is a function of four values that may be there or not. For TOML the same function is
applied to what the tables have under the four names.

* `Json.Gives` — an object or array that has exactly those of some members that are kept;
* `Config.ofFound` — the configuration as a function of the four settings;
* `Datum.Same` — data that are the same but for the order of the entries of tables;
* `Config.DecodingLaws`, `Config.decoding_laws` — the main theorem.
-/

namespace KeyedBreakers

open KeyedBreakers.Text

/-! ### Ways of writing -/

/-- The value has exactly those of the given members that are kept: as an object, with members in any
order and foreign ones among them, or as an array of the first `n` of them. -/
inductive Json.Gives (values : List (String × Json)) (kept : String → Bool) : Json → Prop where
  | object {members : List (String × Json)}
      (h : ∀ p ∈ values, (Json.object members).member? p.1 = if kept p.1 then some p.2 else none) :
      Gives values kept (.object members)
  | array {n : Nat} (h : ∀ i p, values[i]? = some p → kept p.1 = decide (i < n)) :
      Gives values kept (.array ((values.take n).map (·.2)))

/-- The settings for logs and metrics as they are written in JSON, in the order of an array. -/
def Telemetry.members (t : Telemetry) : List (String × Json) :=
  [("log_level", .text t.logLevel), ("metrics_enabled", .flag t.metered)]

/-- The settings of a registry as they are written in JSON, in the order of an array, with the given
value for logs and metrics. -/
def Config.members (c : Config) (telemetry : Json) : List (String × Json) :=
  [("name", .text c.name), ("key_selector", .text c.strategy.name), ("observability", telemetry)]

/-- The settings that are kept, and the default in the place of all others. -/
def Telemetry.keeping (t : Telemetry) (kept : String → Bool) : Telemetry where
  logLevel := if kept "log_level" then t.logLevel else ({} : Telemetry).logLevel
  metered := if kept "metrics_enabled" then t.metered else ({} : Telemetry).metered

/-- The settings that are kept, and the default in the place of all others; `keptInside` tells which of
the settings for logs and metrics are kept. -/
def Config.keeping (c : Config) (kept keptInside : String → Bool) : Config where
  name := if kept "name" then c.name else ({} : Config).name
  strategy := if kept "key_selector" then c.strategy else ({} : Config).strategy
  telemetry := if kept "observability" then c.telemetry.keeping keptInside else {}

/-! ### The four settings -/

/-- The settings for logs and metrics, as a function of the two. -/
def Telemetry.ofFound (dialect : Dialect) (level metered : Option Datum) : Option Telemetry :=
  (Decoder.text.ofFound dialect ({} : Telemetry).logLevel level).bind fun l =>
    (Decoder.flag.ofFound dialect ({} : Telemetry).metered metered).map fun m => ⟨l, m⟩

/-- The settings of a registry, as a function of the three. -/
def Config.ofFound (dialect : Dialect) (name strategy telemetry : Option Datum) : Option Config :=
  (Decoder.text.ofFound dialect ({} : Config).name name).bind fun n =>
    (Strategy.decode.ofFound dialect ({} : Config).strategy strategy).bind fun s =>
      (Telemetry.decode.ofFound dialect {} telemetry).map fun t => ⟨n, s, t⟩

theorem Telemetry.toOption_setFound (dialect : Dialect) (found : String → Option Datum) :
    (Decoder.setFound dialect found fields {}).toOption
      = ofFound dialect (found "log_level") (found "metrics_enabled") := by
  rw [fields, Decoder.toOption_setFound_cons (g := Telemetry.logLevel) fun _ => rfl, ofFound]
  refine congrArg (Option.bind _) (funext fun l => ?_)
  rw [Decoder.toOption_setFound_cons (g := Telemetry.metered) fun _ => rfl, Option.map_eq_bind]
  rfl

theorem Config.toOption_setFound (dialect : Dialect) (found : String → Option Datum) :
    (Decoder.setFound dialect found fields {}).toOption
      = ofFound dialect (found "name") (found "key_selector") (found "observability") := by
  rw [fields, Decoder.toOption_setFound_cons (g := Config.name) fun _ => rfl, ofFound]
  refine congrArg (Option.bind _) (funext fun n => ?_)
  rw [Decoder.toOption_setFound_cons (g := Config.strategy) fun _ => rfl]
  refine congrArg (Option.bind _) (funext fun s => ?_)
  rw [Decoder.toOption_setFound_cons (g := Config.telemetry) fun _ => rfl, Option.map_eq_bind]
  rfl

/-! ### Tables -/

theorem Telemetry.independent_fields : fields.Pairwise Decoder.Field.Independent := by
  refine .cons (List.forall_mem_singleton.2 ?_) (List.pairwise_singleton ..)
  exact Decoder.Field.ofDecoder_independent fun _ _ _ => rfl

theorem Config.independent_fields : fields.Pairwise Decoder.Field.Independent := by
  refine .cons (List.forall_mem_cons.2 ⟨?_, List.forall_mem_singleton.2 ?_⟩)
    (.cons (List.forall_mem_singleton.2 ?_) (List.pairwise_singleton ..))
  all_goals exact Decoder.Field.ofDecoder_independent fun _ _ _ => rfl

/-- A table gives the settings for logs and metrics by what it has under the two names. -/
theorem Telemetry.toOption_decode_table (dialect : Dialect) {es : List (String × Datum)}
    (h_es : (es.map (·.1)).Nodup) :
    (decode dialect (.table es)).toOption
      = ofFound dialect (es.lookup "log_level") (es.lookup "metrics_enabled") := by
  rw [← toOption_setFound dialect fun name => es.lookup name]
  exact Decoder.toOption_foldlM_setByName (by decide) independent_fields h_es {}

/-- A table gives the settings of a registry by what it has under the three names. -/
theorem Config.toOption_decode_table (dialect : Dialect) {es : List (String × Datum)}
    (h_es : (es.map (·.1)).Nodup) :
    (decode dialect (.table es)).toOption
      = ofFound dialect (es.lookup "name") (es.lookup "key_selector")
          (es.lookup "observability") := by
  rw [← toOption_setFound dialect fun name => es.lookup name]
  exact Decoder.toOption_foldlM_setByName (by decide) independent_fields h_es {}

/-! ### JSON -/

/-- The names of an object as a table. -/
theorem Datum.nodup_directory (members : List (String × Json)) :
    ((directory members).entries.map (·.1)).Nodup :=
  Decoder.nodup_of_ascending (List.pairwise_map.2 (directory members).ascending)

theorem Datum.lookup_directory (members : List (String × Json)) (name : String) :
    (directory members).entries.lookup name = ((Json.object members).member? name).map ofJson :=
  find?_directory members name

theorem eq_ok_of_toOption {ε α : Type} {x : Except ε α} {a : α} (h : x.toOption = some a) :
    x = .ok a := by
  cases x with
  | error e => cases h
  | ok b => rw [Option.some.inj h]

namespace Telemetry

/-- Settings for logs and metrics are read as far as they are written. -/
theorem decode_of_gives {t : Telemetry} {kept : String → Bool} {value : Json}
    (h : Json.Gives t.members kept value) : decode .json (.ofJson value) = .ok (t.keeping kept) := by
  cases h with
  | @object members h_members =>
    -- an object is read by names
    have h_level := h_members ("log_level", .text t.logLevel) (.head _)
    have h_metered := h_members ("metrics_enabled", .flag t.metered) (.tail _ (.head _))
    refine eq_ok_of_toOption ?_
    rw [Datum.ofJson_object]
    refine (toOption_decode_table .json (Datum.nodup_directory members)).trans ?_
    rw [Datum.lookup_directory, Datum.lookup_directory, h_level, h_metered, ofFound,
      Decoder.ofFound_of_ok rfl, Decoder.ofFound_of_ok rfl]
    rfl
  | @array n h_array =>
    -- an array is read by places, as far as it goes
    have h_level : kept "log_level" = decide (0 < n) := h_array 0 _ rfl
    have h_metered : kept "metrics_enabled" = decide (1 < n) := h_array 1 _ rfl
    rw [keeping, h_level, h_metered]
    rcases n with _ | _ | n
    · rfl
    · rfl
    · have h_all : t.members.take (n + 2) = t.members := List.take_of_length_le (by simp [members])
      rw [h_all, decide_eq_true (Nat.succ_pos _), decide_eq_true (Nat.succ_lt_succ (Nat.succ_pos _))]
      rfl

end Telemetry

namespace Config

theorem decode_name (s : Strategy) : Strategy.decode .json (.ofJson (.text s.name)) = .ok s :=
  Strategy.decode_of_isWritten (.inl rfl)

/-- **A configuration is read as far as it is written.** -/
theorem ofJson_of_gives {c : Config} {kept keptInside : String → Bool} {telemetry value : Json}
    (h_inside : Json.Gives c.telemetry.members keptInside telemetry)
    (h : Json.Gives (c.members telemetry) kept value) :
    ofJson value = .ok (c.keeping kept keptInside) := by
  have h_telemetry := Telemetry.decode_of_gives h_inside
  have h_strategy := decode_name c.strategy
  cases h with
  | @object members h_members =>
    have h_name := h_members ("name", .text c.name) (.head _)
    have h_key := h_members ("key_selector", .text c.strategy.name) (.tail _ (.head _))
    have h_own := h_members ("observability", telemetry) (.tail _ (.tail _ (.head _)))
    refine eq_ok_of_toOption ?_
    rw [ofJson, Datum.ofJson_object]
    refine (toOption_decode_table .json (Datum.nodup_directory members)).trans ?_
    rw [Datum.lookup_directory, Datum.lookup_directory, Datum.lookup_directory, h_name, h_key, h_own,
      ofFound, Decoder.ofFound_of_ok rfl, Decoder.ofFound_of_ok h_strategy,
      Decoder.ofFound_of_ok h_telemetry]
    rfl
  | @array n h_array =>
    have h_name : kept "name" = decide (0 < n) := h_array 0 _ rfl
    have h_key : kept "key_selector" = decide (1 < n) := h_array 1 _ rfl
    have h_own : kept "observability" = decide (2 < n) := h_array 2 _ rfl
    rw [keeping, h_name, h_key, h_own]
    rcases n with _ | _ | _ | n
    · rfl
    · rfl
    · have h_set : Decoder.setByPlace .json fields
          [.text c.name, .ofJson (.text c.strategy.name)] {}
            = .ok { name := c.name, strategy := c.strategy } := by
        rw [fields, Decoder.setByPlace_cons_of_ok rfl, Decoder.setByPlace_cons_of_ok h_strategy]
        rfl
      exact Decoder.ofItems_of_ok h_set
    · have h_all : (c.members telemetry).take (n + 3) = c.members telemetry :=
        List.take_of_length_le (by simp [members])
      have h_set : Decoder.setByPlace .json fields
          [.text c.name, .ofJson (.text c.strategy.name), .ofJson telemetry] {}
            = .ok ⟨c.name, c.strategy, c.telemetry.keeping keptInside⟩ := by
        rw [fields, Decoder.setByPlace_cons_of_ok rfl, Decoder.setByPlace_cons_of_ok h_strategy,
          Decoder.setByPlace_cons_of_ok h_telemetry]
        rfl
      rw [h_all, decide_eq_true (by omega), decide_eq_true (by omega), decide_eq_true (by omega)]
      exact Decoder.ofItems_of_ok h_set

end Config

/-! ### TOML -/

namespace Datum

theorem ofTomlEntries_eq_map (es : Toml.Entries) :
    ofTomlEntries es = es.map fun e => (e.1, ofToml e.2) := by
  induction es with
  | nil => rfl
  | cons e es ih => rw [ofTomlEntries, ih, List.map_cons]

theorem nodup_ofTomlEntries {es : Toml.Entries} (h : (es.map (·.1)).Nodup) :
    ((ofTomlEntries es).map (·.1)).Nodup := by
  rwa [ofTomlEntries_eq_map, List.map_map]

theorem lookup_ofTomlEntries (es : Toml.Entries) (name : String) :
    (ofTomlEntries es).lookup name = (es.find? name).map ofToml := by
  induction es with
  | nil => rfl
  | cons e es ih =>
    have h_find : Toml.Entries.find? name (e :: es)
        = if name = e.1 then some e.2 else Toml.Entries.find? name es :=
      Directory.lookup_cons_eq_ite name e.1 e.2 es
    rw [ofTomlEntries, Directory.lookup_cons_eq_ite, ih, h_find]
    split <;> rfl

end Datum

/-- What a document has under a name in one of the tables of its root. -/
def Toml.Entries.findIn? (table name : String) (root : Toml.Entries) : Option Toml :=
  match root.find? table with
  | some (.table _ inner) => Entries.find? name inner
  | _ => none

/-- The root table of a document that has no name twice, and in which the settings for logs and metrics,
if there are any, are a table that has no name twice. -/
structure Config.IsRoot (root : Toml.Entries) : Prop where
  nodup : (root.map (·.1)).Nodup
  telemetry : ∀ value, root.find? "observability" = some value →
    ∃ origin inner, value = .table origin inner ∧ (inner.map (·.1)).Nodup

/-- **A document gives a configuration by what it has under four names.** -/
theorem Config.toOption_ofToml {root : Toml.Entries} (h : IsRoot root) :
    (ofToml root).toOption =
      (Decoder.text.ofFound .toml ({} : Config).name ((root.find? "name").map .ofToml)).bind fun n =>
        (Strategy.decode.ofFound .toml ({} : Config).strategy
            ((root.find? "key_selector").map .ofToml)).bind fun s =>
          (Telemetry.ofFound .toml ((root.findIn? "observability" "log_level").map .ofToml)
            ((root.findIn? "observability" "metrics_enabled").map .ofToml)).map fun t =>
              ⟨n, s, t⟩ := by
  have h_telemetry : Telemetry.decode.ofFound .toml {}
        ((root.find? "observability").map .ofToml)
      = Telemetry.ofFound .toml ((root.findIn? "observability" "log_level").map .ofToml)
          ((root.findIn? "observability" "metrics_enabled").map .ofToml) := by
    -- the two are looked up in a table of their own, if there is one
    simp only [Toml.Entries.findIn?]
    cases h_value : root.find? "observability" with
    | none => rfl
    | some value =>
      obtain ⟨origin, inner, rfl, h_inner⟩ := h.telemetry value h_value
      have h_table := Telemetry.toOption_decode_table .toml (Datum.nodup_ofTomlEntries h_inner)
      rw [Datum.lookup_ofTomlEntries, Datum.lookup_ofTomlEntries] at h_table
      exact h_table
  have h_root := toOption_decode_table .toml (Datum.nodup_ofTomlEntries h.nodup)
  rw [Datum.lookup_ofTomlEntries, Datum.lookup_ofTomlEntries, Datum.lookup_ofTomlEntries, ofFound,
    h_telemetry] at h_root
  exact h_root

/-! ### The same data -/

/-- The items of an array, however it is written. -/
def Datum.items? : Datum → Option (List Datum)
  | .list items | .tables items => some items
  | _ => none

/-- **The same data**, but for the order of the entries of tables and for how tables and arrays are
written. -/
inductive Datum.Same : Datum → Datum → Prop where
  | refl (d : Datum) : Same d d
  | items {d d' : Datum} {xs ys : List Datum} (h : d.items? = some xs) (h' : d'.items? = some ys)
      (h_same : List.Forall₂ Same xs ys) : Same d d'
  | table {es fs es' : List (String × Datum)} (h_perm : es.Perm fs)
      (h_names : fs.map (·.1) = es'.map (·.1))
      (h_same : List.Forall₂ Same (fs.map (·.2)) (es'.map (·.2))) : Same (.table es) (.table es')

namespace Datum.Same

variable {d d' : Datum}

/-- Only arrays have items. -/
theorem cases_of_items? {xs : List Datum} (h : d.items? = some xs) :
    d = .list xs ∨ d = .tables xs := by
  cases d with
  | list items => exact .inl (congrArg _ (Option.some.inj h))
  | tables items => exact .inr (congrArg _ (Option.some.inj h))
  | _ => cases h

theorem toOption_text (h : Same d d') :
    (Decoder.text .toml d).toOption = (Decoder.text .toml d').toOption := by
  cases h with
  | refl => rfl
  | table => rfl
  | items h h' =>
    rcases cases_of_items? h with rfl | rfl <;> rcases cases_of_items? h' with rfl | rfl <;> rfl

theorem toOption_flag (h : Same d d') :
    (Decoder.flag .toml d).toOption = (Decoder.flag .toml d').toOption := by
  cases h with
  | refl => rfl
  | table => rfl
  | items h h' =>
    rcases cases_of_items? h with rfl | rfl <;> rcases cases_of_items? h' with rfl | rfl <;> rfl

/-- What is empty stays empty. -/
theorem toOption_nothing (h : Same d d') :
    (Decoder.nothing .toml d).toOption = (Decoder.nothing .toml d').toOption := by
  cases h with
  | refl => rfl
  | @table es fs es' h_perm h_names h_same =>
    have h_length : es.length = es'.length := by
      rw [h_perm.length_eq, ← List.length_map (·.1), h_names, List.length_map]
    cases es with
    | nil =>
      obtain rfl := List.eq_nil_of_length_eq_zero h_length.symm
      rfl
    | cons e es =>
      cases es' with
      | nil => cases h_length
      | cons e' es' => rfl
  | @items _ _ xs ys h h' h_same =>
    have h_length := h_same.length_eq
    cases xs with
    | nil =>
      obtain rfl := List.eq_nil_of_length_eq_zero h_length.symm
      rcases cases_of_items? h with rfl | rfl <;> rcases cases_of_items? h' with rfl | rfl <;> rfl
    | cons x xs =>
      cases ys with
      | nil => cases h_length
      | cons y ys =>
        rcases cases_of_items? h with rfl | rfl <;> rcases cases_of_items? h' with rfl | rfl <;> rfl

/-- A choice in a table with its name alone. -/
theorem toOption_choice_single (h : Same d d') (known : List (String × Strategy)) (name : String) :
    (Decoder.choice known .toml (.table [(name, d)])).toOption
      = (Decoder.choice known .toml (.table [(name, d')])).toOption := by
  have h_nothing := h.toOption_nothing
  show (Decoder.named known name >>= _).toOption = (Decoder.named known name >>= _).toOption
  cases Decoder.named known name with
  | error e => rfl
  | ok s =>
    show (Decoder.nothing .toml d >>= fun _ => Except.ok s).toOption
      = (Decoder.nothing .toml d' >>= fun _ => Except.ok s).toOption
    cases h_d : Decoder.nothing .toml d with
    | error e =>
      cases h_d' : Decoder.nothing .toml d' with
      | error e' => rfl
      | ok u =>
        rw [h_d, h_d'] at h_nothing
        cases h_nothing
    | ok u =>
      -- both are empty
      rw [h_d] at h_nothing
      rw [eq_ok_of_toOption h_nothing.symm]

theorem toOption_strategy (h : Same d d') :
    (Strategy.decode .toml d).toOption = (Strategy.decode .toml d').toOption := by
  cases h with
  | refl => rfl
  | items h h' =>
    rcases cases_of_items? h with rfl | rfl <;> rcases cases_of_items? h' with rfl | rfl <;> rfl
  | @table es fs es' h_perm h_names h_same =>
    -- both tables have one entry, with the same name, or neither has
    match es, es', h_perm, h_names, h_same with
    | [], es', h_perm, h_names, _ =>
      obtain rfl := h_perm.nil_eq
      obtain rfl := List.map_eq_nil_iff.1 h_names.symm
      rfl
    | [e], es', h_perm, h_names, h_same =>
      obtain rfl := List.singleton_perm.1 h_perm
      obtain ⟨e', rfl, h_name⟩ := List.map_eq_singleton_iff.1 h_names.symm
      obtain ⟨name, datum⟩ := e
      obtain ⟨name', datum'⟩ := e'
      obtain rfl : name' = name := h_name
      cases h_same with
      | cons h_datum => exact h_datum.toOption_choice_single _ name'
    | e₁ :: e₂ :: es, es', h_perm, h_names, _ =>
      have h_length : es'.length = es.length + 2 :=
        calc es'.length = (es'.map (·.1)).length := (List.length_map _).symm
          _ = fs.length := by rw [← h_names, List.length_map]
          _ = es.length + 2 := h_perm.length_eq.symm
      match es', h_length with
      | _ :: _ :: _, _ => rfl

end Datum.Same

/-- A decoder that does not tell the same data apart does so whether they are there or not. -/
theorem Decoder.ofFound_congr {β : Type} {decode : Decoder β}
    (h : ∀ {d d'}, Datum.Same d d' → (decode .toml d).toOption = (decode .toml d').toOption)
    (default : β) {o o' : Option Toml}
    (h_o : Option.Rel (fun v v' => Datum.Same (.ofToml v) (.ofToml v')) o o') :
    decode.ofFound .toml default (o.map .ofToml) = decode.ofFound .toml default (o'.map .ofToml) := by
  cases h_o with
  | none => rfl
  | some h_same => exact h h_same

namespace Config

/-- Two documents have the same under the names of the settings, or both have nothing there. -/
structure Agree (root root' : Toml.Entries) : Prop where
  name : Option.Rel (fun v v' => Datum.Same (.ofToml v) (.ofToml v'))
    (root.find? "name") (root'.find? "name")
  strategy : Option.Rel (fun v v' => Datum.Same (.ofToml v) (.ofToml v'))
    (root.find? "key_selector") (root'.find? "key_selector")
  logLevel : Option.Rel (fun v v' => Datum.Same (.ofToml v) (.ofToml v'))
    (root.findIn? "observability" "log_level") (root'.findIn? "observability" "log_level")
  metered : Option.Rel (fun v v' => Datum.Same (.ofToml v) (.ofToml v'))
    (root.findIn? "observability" "metrics_enabled")
    (root'.findIn? "observability" "metrics_enabled")

/-- **Documents that agree on the settings are read alike.** -/
theorem toOption_ofToml_congr {root root' : Toml.Entries} (h_root : IsRoot root)
    (h_root' : IsRoot root') (h : Agree root root') :
    (ofToml root).toOption = (ofToml root').toOption := by
  rw [toOption_ofToml h_root, toOption_ofToml h_root', Telemetry.ofFound, Telemetry.ofFound,
    Decoder.ofFound_congr Datum.Same.toOption_text _ h.name,
    Decoder.ofFound_congr Datum.Same.toOption_strategy _ h.strategy,
    Decoder.ofFound_congr Datum.Same.toOption_text _ h.logLevel,
    Decoder.ofFound_congr Datum.Same.toOption_flag _ h.metered]

/-- A document has exactly those settings of a configuration that are kept. -/
structure IsGivenBy (c : Config) (kept keptInside : String → Bool) (root : Toml.Entries) :
    Prop where
  name : root.find? "name" = if kept "name" then some (.text c.name) else none
  strategy : root.find? "key_selector" =
    if kept "key_selector" then some (.text c.strategy.name) else none
  logLevel : root.findIn? "observability" "log_level" =
    if kept "observability" && keptInside "log_level" then some (.text c.telemetry.logLevel)
    else none
  metered : root.findIn? "observability" "metrics_enabled" =
    if kept "observability" && keptInside "metrics_enabled" then some (.flag c.telemetry.metered)
    else none

/-- A document is read as far as it is written. -/
theorem ofToml_of_isGivenBy {c : Config} {kept keptInside : String → Bool} {root : Toml.Entries}
    (h_root : IsRoot root) (h : IsGivenBy c kept keptInside root) :
    ofToml root = .ok (c.keeping kept keptInside) := by
  have h_strategy : Strategy.decode .toml (.ofToml (.text c.strategy.name)) = .ok c.strategy :=
    Strategy.named_name c.strategy
  refine eq_ok_of_toOption ?_
  rw [toOption_ofToml h_root, Telemetry.ofFound, h.name, h.strategy, h.logLevel, h.metered,
    Decoder.ofFound_of_ok rfl, Decoder.ofFound_of_ok h_strategy, Decoder.ofFound_of_ok rfl,
    Decoder.ofFound_of_ok rfl, keeping, Telemetry.keeping]
  cases kept "observability" <;> rfl

/-! ### The main theorem -/

/-- **The laws of decoding.** -/
structure DecodingLaws : Prop where
  /-- Decoding undoes encoding. -/
  undone : ∀ c, ofJson c.toJson = .ok c
  /-- So it does whatever way all settings are written, in objects or arrays, in whatever order and
  whatever else is written with them. -/
  whole : ∀ (c : Config) telemetry value, Json.Gives c.telemetry.members (fun _ => true) telemetry →
    Json.Gives (c.members telemetry) (fun _ => true) value → ofJson value = .ok c
  /-- What is left out has its default, and all else is as it is written. -/
  partly : ∀ (c : Config) kept keptInside telemetry value,
    Json.Gives c.telemetry.members keptInside telemetry →
    Json.Gives (c.members telemetry) kept value → ofJson value = .ok (c.keeping kept keptInside)
  /-- An object is refused if some setting has not its shape. -/
  refused : ∀ members, (∃ e, ofJson (.object members) = .error e) ↔
    ∃ s ∈ shapes, ∃ v, (Json.object members).member? s.name = some v ∧ ¬ s.fits v
  /-- What is reported is what there is to report of the first such setting. -/
  reported : ∀ members e,
    ofJson (.object members) = .error e ↔ Json.Reports shapes (.object members) e
  /-- The first is meant in ascending order of the names, also inside the settings for logs and
  metrics. -/
  ascending : (shapes.map (·.name)).Pairwise (· < ·) ∧
    (Telemetry.shapes.map (·.name)).Pairwise (· < ·)
  /-- There is something to report of whatever has not the shape, and nothing of what has. -/
  exact : ∀ s ∈ shapes, ∀ v, ¬ s.fits v ↔ ∃ e, s.reports v e
  /-- A document too is read as far as it is written. -/
  document : ∀ (c : Config) kept keptInside root, IsRoot root → IsGivenBy c kept keptInside root →
    ofToml root = .ok (c.keeping kept keptInside)
  /-- Documents that agree on the settings give the same configuration or are both refused. -/
  agreeing : ∀ root root', IsRoot root → IsRoot root' → Agree root root' →
    (∃ c, ofToml root = .ok c ∧ ofToml root' = .ok c) ∨
      (∃ e, ofToml root = .error e) ∧ ∃ e, ofToml root' = .error e

theorem decoding_laws : DecodingLaws where
  undone c := by
    have h_inside : Json.Gives c.telemetry.members (fun _ => true) c.telemetry.toJson :=
      .object (List.forall_mem_cons.2 ⟨rfl, List.forall_mem_singleton.2 rfl⟩)
    have h_whole : Json.Gives (c.members c.telemetry.toJson) (fun _ => true) c.toJson :=
      .object (List.forall_mem_cons.2 ⟨rfl, List.forall_mem_cons.2
        ⟨rfl, List.forall_mem_singleton.2 rfl⟩⟩)
    exact ofJson_of_gives h_inside h_whole
  whole c telemetry value h_inside h_value := ofJson_of_gives h_inside h_value
  partly c kept keptInside telemetry value h_inside h_value := ofJson_of_gives h_inside h_value
  refused members := exists_ofJson_object_eq_error_iff
  reported members e := ofJson_object_eq_error_iff
  ascending := ⟨describes.ascending, Telemetry.describes.ascending⟩
  exact s h_s v := by
    constructor
    · exact fun h_misfit => (describes.total s h_s v).resolve_left h_misfit
    · rintro ⟨e, h_e⟩
      exact describes.not_fits_of_reports {} h_s h_e
  document c kept keptInside root h_root h_given := ofToml_of_isGivenBy h_root h_given
  agreeing root root' h_root h_root' h_agree := by
    have h_same := toOption_ofToml_congr h_root h_root' h_agree
    cases h_c : ofToml root with
    | ok c =>
      rw [h_c] at h_same
      exact .inl ⟨c, rfl, eq_ok_of_toOption h_same.symm⟩
    | error e =>
      cases h_c' : ofToml root' with
      | ok c =>
        rw [h_c, h_c'] at h_same
        cases h_same
      | error e' => exact .inr ⟨⟨e, rfl⟩, e', rfl⟩

/-- A configuration with no default in it. -/
def unusual : Config := ⟨"edge", .operation, ⟨"debug", false⟩⟩

/-- A document with the name and the level of the configuration, and with foreign entries. -/
def sparseRoot : Toml.Entries :=
  [("observability", .table .header [("colour", .text "blue"), ("log_level", .text "debug")]),
    ("retries", .integer 3), ("name", .text "edge")]

/-- An array without its last item, and a document that is sparse. -/
theorem decoding_laws_sparse :
    ofJson (.array [.text "edge", .text "operation"]) = .ok ⟨"edge", .operation, {}⟩ ∧
      IsRoot sparseRoot ∧
      IsGivenBy unusual (· ≠ "key_selector") (· ≠ "metrics_enabled") sparseRoot ∧
      ofToml sparseRoot = .ok ⟨"edge", .target, ⟨"debug", true⟩⟩ ∧
      ((∃ c, ofToml sparseRoot = .ok c ∧ ofToml sparseRoot.reverse = .ok c) ∨
        (∃ e, ofToml sparseRoot = .error e) ∧ ∃ e, ofToml sparseRoot.reverse = .error e) := by
  have h_inside : Json.Gives unusual.telemetry.members (fun _ => true) unusual.telemetry.toJson :=
    .object (List.forall_mem_cons.2 ⟨rfl, List.forall_mem_singleton.2 rfl⟩)
  have h_array : Json.Gives (unusual.members unusual.telemetry.toJson) (· ≠ "observability")
      (.array [.text "edge", .text "operation"]) := by
    refine .array (n := 2) fun i p h_p => ?_
    rcases i with _ | _ | _ | i
    all_goals cases h_p
    all_goals rfl
  have h_telemetry : ∀ value, sparseRoot.find? "observability" = some value →
      ∃ origin inner, value = .table origin inner ∧ (inner.map (·.1)).Nodup := by
    intro value h_value
    cases h_value
    exact ⟨_, _, rfl, by decide⟩
  have h_root : IsRoot sparseRoot := ⟨by decide, h_telemetry⟩
  have h_reverse : IsRoot sparseRoot.reverse := ⟨by decide, h_telemetry⟩
  have h_given : IsGivenBy unusual (· ≠ "key_selector") (· ≠ "metrics_enabled") sparseRoot :=
    ⟨rfl, rfl, rfl, rfl⟩
  have h_agree : Agree sparseRoot sparseRoot.reverse :=
    ⟨.some (.refl _), .none, .some (.refl _), .none⟩
  exact ⟨decoding_laws.partly unusual _ _ _ _ h_inside h_array, h_root, h_given,
    decoding_laws.document unusual _ _ sparseRoot h_root h_given,
    decoding_laws.agreeing _ _ h_root h_reverse h_agree⟩

end Config

end KeyedBreakers
