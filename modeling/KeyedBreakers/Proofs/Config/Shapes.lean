import KeyedBreakers.Config.Basic
import KeyedBreakers.Proofs.Config.Records
import Mathlib.Data.List.Forall2

/-!
# The shapes of settings in JSON

What a JSON value must look like to be a setting is said here by rules on the value, without a decoder:
a name is a text, a strategy is one of the three names or an object with such a name alone, and the
settings for logs and metrics are an object or an array. For a value without the shape there is one rule
that says what is reported. Decoders are then shown to follow the rules, so that what an object reports
is read off its members: the first member, in ascending order of the names, that has not its shape.

* `Json.Shape` — the values that fit under a name, and what is reported of the others;
* `Json.Reports` — the first misfit among the members of an object, and what is reported of it;
* `Telemetry.shapes`, `Config.shapes` — the shapes of all settings;
* `Json.Shape.Describes` — a field of a record takes what has the shape and refuses all else;
* `record_object_eq_error_iff`, `exists_record_object_eq_ok_iff` — a record on a JSON object.
-/

namespace KeyedBreakers

open KeyedBreakers.Text

namespace Json

/-! ### Shapes -/

/-- The complaint that the value is of another kind than wanted. -/
def wrongKind (value : Json) (wanted : Wanted) : DecodeError :=
  .wrongKind ((Datum.ofJson value).described .json) wanted

/-- What values may stand under a name, and what is reported of any other. -/
structure Shape where
  name : String
  fits : Json → Prop
  reports : Json → DecodeError → Prop

namespace Shape

/-- A text under the given name. -/
def text (name : String) : Shape where
  name := name
  fits value := ∃ s, value = .text s
  reports value e := (∀ s, value ≠ .text s) ∧ e = value.wrongKind .text

/-- A flag under the given name. -/
def flag (name : String) : Shape where
  name := name
  fits value := ∃ b, value = .flag b
  reports value e := (∀ b, value ≠ .flag b) ∧ e = value.wrongKind .flag

end Shape

/-- What is reported of a value whose members should have the shapes: what is to be reported of the
first member that has not its shape, in the order of the shapes. -/
def Reports (shapes : List Shape) (value : Json) (e : DecodeError) : Prop :=
  ∃ pre s post v, shapes = pre ++ s :: post ∧
    (∀ p ∈ pre, ∀ w, value.member? p.name = some w → p.fits w) ∧
    value.member? s.name = some v ∧ s.reports v e

/-- All members that have a shape fit it. -/
def MembersFit (shapes : List Shape) (value : Json) : Prop :=
  ∀ s ∈ shapes, ∀ v, value.member? s.name = some v → s.fits v

/-- The value is an object with one name and the given value under it. -/
def IsSingle (value : Json) (name : String) (content : Json) : Prop :=
  ∀ n, value.member? n = if n = name then some content else none

end Json

open Json

/-! ### The shapes of the settings -/

/-- A strategy is its name, or an object with the name alone and nothing in it. -/
def Strategy.IsWritten (s : Strategy) (value : Json) : Prop :=
  value = .text s.name ∨ value.IsSingle s.name .null

/-- The names of the strategies, as they are listed where one is unknown. -/
def Strategy.names : List String := ["operation", "target", "target_and_operation"]

/-- What is reported of a value that is no strategy. -/
inductive Strategy.Reports : Json → DecodeError → Prop where
  | unknown {text : String} (h : text ∉ names) : Reports (.text text) (.unknownChoice text names)
  | unknownMember {value content : Json} {name : String} (h_single : value.IsSingle name content)
      (h : name ∉ names) : Reports value (.unknownChoice name names)
  | content {value content : Json} {name : String} (h_single : value.IsSingle name content)
      (h_name : name ∈ names) (h : content ≠ .null) : Reports value (content.wrongKind .nothing)
  | notSingle {members : List (String × Json)}
      (h : ∀ name content, ¬ (Json.object members).IsSingle name content) :
      Reports (.object members) .notSingleKey
  | kind {value : Json} (h_text : ∀ s, value ≠ .text s) (h_object : ∀ members, value ≠ .object members) :
      Reports value (value.wrongKind .choice)

/-- The settings for logs and metrics, in ascending order of their names. -/
def Telemetry.shapes : List Shape := [.text "log_level", .flag "metrics_enabled"]

/-- A value for logs and metrics: an object, or an array with the level first and the switch for metrics
second, which may end at any place. -/
inductive Telemetry.Fits : Json → Prop where
  | object {members : List (String × Json)} (h : MembersFit shapes (.object members)) :
      Fits (.object members)
  | none : Fits (.array [])
  | level {level : String} : Fits (.array [.text level])
  | both {level : String} {metered : Bool} : Fits (.array [.text level, .flag metered])

/-- What is reported of a value that does not fit logs and metrics. -/
inductive Telemetry.Reports : Json → DecodeError → Prop where
  | member {members : List (String × Json)} {e : DecodeError}
      (h : Json.Reports shapes (.object members) e) : Reports (.object members) e
  | level {item : Json} {items : List Json} (h : ∀ s, item ≠ .text s) :
      Reports (.array (item :: items)) (item.wrongKind .text)
  | metered {level : String} {item : Json} {items : List Json} (h : ∀ b, item ≠ .flag b) :
      Reports (.array (.text level :: item :: items)) (item.wrongKind .flag)
  | long {level : String} {metered : Bool} {item : Json} {items : List Json} :
      Reports (.array (.text level :: .flag metered :: item :: items))
        (.tooManyItems (items.length + 3))
  | kind {value : Json} (h_array : ∀ items, value ≠ .array items)
      (h_object : ∀ members, value ≠ .object members) :
      Reports value (value.wrongKind (.record "ObservabilityConfig"))

/-- The settings of a registry, in ascending order of their names. -/
def Config.shapes : List Shape :=
  [⟨"key_selector", fun value => ∃ s : Strategy, s.IsWritten value, Strategy.Reports⟩, .text "name",
    ⟨"observability", Telemetry.Fits, Telemetry.Reports⟩]

/-! ### Objects -/

namespace Datum

theorem ofJsonMembers_eq_map (members : List (String × Json)) :
    ofJsonMembers members = members.map fun m => (m.1, ofJson m.2) := by
  induction members with
  | nil => rfl
  | cons m members ih => rw [ofJsonMembers, ih, List.map_cons]

/-- The members of an object as a directory. -/
def directory (members : List (String × Json)) : Directory Datum :=
  .ofList (ofJsonMembers members)

theorem ofJson_object (members : List (String × Json)) :
    ofJson (.object members) = .table (directory members).toList := by
  rw [ofJson]
  rfl

/-- What is found in an object is what its last member of the name has. -/
theorem find?_directory (members : List (String × Json)) (name : String) :
    (directory members).find? name = ((Json.object members).member? name).map ofJson := by
  have h_lookup : ∀ ms : List (String × Json),
      (ms.map fun m => (m.1, ofJson m.2)).lookup name = (ms.lookup name).map ofJson := by
    intro ms
    induction ms with
    | nil => rfl
    | cons m ms ih =>
      rw [List.map_cons, Directory.lookup_cons_eq_ite, ih,
        show ms.cons m = (m.1, m.2) :: ms from rfl, Directory.lookup_cons_eq_ite]
      split <;> rfl
  rw [directory, Directory.find?_ofList, ofJsonMembers_eq_map, ← List.map_reverse, h_lookup,
    Json.member?]

/-- An object with one name is a table with one entry. -/
theorem toList_directory_of_isSingle {members : List (String × Json)} {name : String}
    {content : Json} (h : (Json.object members).IsSingle name content) :
    (directory members).toList = [(name, ofJson content)] := by
  refine Directory.eq_of_mem_iff (directory members).ascending (List.pairwise_singleton ..) ?_
  rintro ⟨n, datum⟩
  show (n, datum) ∈ (directory members).toList ↔ _
  rw [Directory.mem_toList_iff, find?_directory, h n, List.mem_singleton]
  by_cases h_n : n = name
  · simp [h_n, eq_comm]
  · simp [h_n]

/-- A table with one entry comes from an object with one name. -/
theorem exists_isSingle_of_toList_directory {members : List (String × Json)} {name : String}
    {datum : Datum} (h : (directory members).toList = [(name, datum)]) :
    ∃ content, (Json.object members).IsSingle name content ∧ ofJson content = datum := by
  have h_mem : ∀ n d, ((Json.object members).member? n).map ofJson = some d ↔
      n = name ∧ d = datum := by
    intro n d
    rw [← find?_directory, ← Directory.mem_toList_iff, h, List.mem_singleton, Prod.mk.injEq]
  obtain ⟨content, h_content, h_datum⟩ := Option.map_eq_some_iff.1 ((h_mem name datum).2 ⟨rfl, rfl⟩)
  refine ⟨content, fun n => ?_, h_datum⟩
  by_cases h_n : n = name
  · rw [h_n, if_pos rfl, h_content]
  · rw [if_neg h_n]
    cases h_other : (Json.object members).member? n with
    | none => rfl
    | some value => exact absurd ((h_mem n (ofJson value)).1 (by rw [h_other]; rfl)).1 h_n

end Datum

/-- Only an object has one name. -/
theorem Json.IsSingle.exists_object {value content : Json} {name : String}
    (h : value.IsSingle name content) : ∃ members, value = .object members := by
  have h_self := h name
  rw [if_pos rfl] at h_self
  cases value with
  | object members => exact ⟨members, rfl⟩
  | _ => cases h_self

/-! ### Decoders follow the rules -/

namespace Strategy

theorem named_name (s : Strategy) :
    Decoder.named (all.map fun s => (s.name, s)) s.name = .ok s := by
  cases s <;> rfl

theorem named_of_unknown {name : String} (h : name ∉ names) :
    Decoder.named (all.map fun s => (s.name, s)) name = .error (.unknownChoice name names) := by
  have h_none : (all.map fun s => (s.name, s)).lookup name = none := by
    rw [List.lookup_eq_none_iff]
    intro p h_p
    obtain ⟨s, -, rfl⟩ := List.mem_map.1 h_p
    have h_ne : name ≠ s.name := by
      rintro rfl
      exact h (by cases s <;> decide)
    simpa using h_ne
  rw [Decoder.named, h_none]
  rfl

/-- Every name of the list is that of a strategy. -/
theorem exists_of_mem_names {name : String} (h : name ∈ names) : ∃ s : Strategy, s.name = name := by
  have h_names : ∀ n ∈ names, ∃ s ∈ all, s.name = n := by decide
  obtain ⟨s, -, h_name⟩ := h_names name h
  exact ⟨s, h_name⟩

theorem decode_of_isWritten {s : Strategy} {value : Json} (h : s.IsWritten value) :
    decode .json (.ofJson value) = .ok s := by
  rcases h with rfl | h_single
  · exact named_name s
  · obtain ⟨members, rfl⟩ := h_single.exists_object
    rw [Datum.ofJson_object, Datum.toList_directory_of_isSingle h_single]
    simp only [decode, Decoder.choice, named_name]
    rfl

theorem decode_of_reports {value : Json} {e : DecodeError} (h : Reports value e) :
    decode .json (.ofJson value) = .error e := by
  cases h with
  | unknown h => exact named_of_unknown h
  | unknownMember h_single h =>
    obtain ⟨members, rfl⟩ := h_single.exists_object
    rw [Datum.ofJson_object, Datum.toList_directory_of_isSingle h_single]
    simp only [decode, Decoder.choice, named_of_unknown h]
    rfl
  | @content _ content name h_single h_name h =>
    obtain ⟨members, rfl⟩ := h_single.exists_object
    obtain ⟨s, rfl⟩ := exists_of_mem_names h_name
    rw [Datum.ofJson_object, Datum.toList_directory_of_isSingle h_single]
    have h_nothing : Decoder.nothing .json (.ofJson content)
        = .error (content.wrongKind .nothing) := by
      cases content <;> first | exact absurd rfl h | rfl
    simp only [decode, Decoder.choice, named_name]
    show Decoder.nothing .json (.ofJson content) >>= _ = _
    rw [h_nothing]
    rfl
  | @notSingle members h =>
    rw [Datum.ofJson_object]
    match h_list : (Datum.directory members).toList with
    | [] => rfl
    | [(name, datum)] =>
      obtain ⟨content, h_single, -⟩ := Datum.exists_isSingle_of_toList_directory h_list
      exact absurd h_single (h name content)
    | _ :: _ :: _ => rfl
  | kind h_text h_object =>
    cases value with
    | text s => exact absurd rfl (h_text s)
    | object members => exact absurd rfl (h_object members)
    | _ => rfl

/-- A value is a strategy, or there is something to report. -/
theorem isWritten_or_reports (value : Json) :
    (∃ s : Strategy, s.IsWritten value) ∨ ∃ e, Reports value e := by
  by_cases h_single : ∃ name content, value.IsSingle name content
  · obtain ⟨name, content, h_single⟩ := h_single
    by_cases h_name : name ∈ names
    · by_cases h_null : content = .null
      · obtain ⟨s, rfl⟩ := exists_of_mem_names h_name
        exact .inl ⟨s, .inr (h_null ▸ h_single)⟩
      · exact .inr ⟨_, .content h_single h_name h_null⟩
    · exact .inr ⟨_, .unknownMember h_single h_name⟩
  · -- all that is left are texts, and values that are no strategy in any case
    cases value with
    | text text =>
      by_cases h_name : text ∈ names
      · obtain ⟨s, rfl⟩ := exists_of_mem_names h_name
        exact .inl ⟨s, .inl rfl⟩
      · exact .inr ⟨_, .unknown h_name⟩
    | object members =>
      exact .inr ⟨_, .notSingle fun name content h => h_single ⟨name, content, h⟩⟩
    | _ => exact .inr ⟨_, .kind nofun nofun⟩

end Strategy

/-! ### Records follow the rules -/

section Records

variable {α β : Type} {shapes : List Shape} {fields order : List (Decoder.Field α)}

/-- A field takes what has the shape and refuses all else, with the report. -/
structure Json.Shape.Describes (s : Shape) (f : Decoder.Field α) : Prop where
  name : f.name = s.name
  accepts : ∀ value, s.fits value → f.Accepts .json (.ofJson value)
  refuses : ∀ value e, s.reports value e → f.Refuses .json (.ofJson value) e
  total : ∀ value, s.fits value ∨ ∃ e, s.reports value e

theorem Json.Shape.describes_ofDecoder {s : Shape} {decode : Decoder β} {put : β → α → α}
    (h_fits : ∀ value, s.fits value → ∃ b, decode .json (.ofJson value) = .ok b)
    (h_reports : ∀ value e, s.reports value e → decode .json (.ofJson value) = .error e)
    (h_total : ∀ value, s.fits value ∨ ∃ e, s.reports value e) :
    s.Describes (.ofDecoder s.name decode put) where
  name := rfl
  accepts value h := by
    obtain ⟨b, h_b⟩ := h_fits value h
    exact Decoder.Field.ofDecoder_accepts h_b
  refuses value e h := Decoder.Field.ofDecoder_refuses (h_reports value e h)
  total := h_total

theorem Json.Shape.describes_text (name : String) (put : String → α → α) :
    (Shape.text name).Describes (.ofDecoder name .text put) := by
  refine describes_ofDecoder ?fits ?reports ?total
  case fits =>
    rintro value ⟨s, rfl⟩
    exact ⟨s, rfl⟩
  case reports =>
    rintro value e ⟨h_text, rfl⟩
    cases value with
    | text s => exact absurd rfl (h_text s)
    | _ => rfl
  case total =>
    intro value
    by_cases h_text : ∃ s, value = .text s
    · exact .inl h_text
    · exact .inr ⟨_, not_exists.1 h_text, rfl⟩

theorem Json.Shape.describes_flag (name : String) (put : Bool → α → α) :
    (Shape.flag name).Describes (.ofDecoder name .flag put) := by
  refine describes_ofDecoder ?fits ?reports ?total
  case fits =>
    rintro value ⟨b, rfl⟩
    exact ⟨b, rfl⟩
  case reports =>
    rintro value e ⟨h_flag, rfl⟩
    cases value with
    | flag b => exact absurd rfl (h_flag b)
    | _ => rfl
  case total =>
    intro value
    by_cases h_flag : ∃ b, value = .flag b
    · exact .inl h_flag
    · exact .inr ⟨_, not_exists.1 h_flag, rfl⟩

/-- All members fit, or there is a first one that does not. -/
theorem Json.membersFit_or_reports (h : ∀ s ∈ shapes, ∀ v, s.fits v ∨ ∃ e, s.reports v e)
    (value : Json) : MembersFit shapes value ∨ ∃ e, Json.Reports shapes value e := by
  induction shapes with
  | nil => exact .inl fun s h_s => nomatch h_s
  | cons s shapes ih =>
    -- either there is nothing to say against the first, or it is the first misfit
    by_cases h_first : ∀ v, value.member? s.name = some v → s.fits v
    · rcases ih fun t h_t => h t (List.mem_cons_of_mem _ h_t) with h_fit | ⟨e, h_e⟩
      · exact .inl (List.forall_mem_cons.2 ⟨h_first, h_fit⟩)
      · obtain ⟨pre, t, post, v, rfl, h_pre, h_v, h_report⟩ := h_e
        exact .inr ⟨e, s :: pre, t, post, v, rfl, List.forall_mem_cons.2 ⟨h_first, h_pre⟩, h_v,
          h_report⟩
    · push Not at h_first
      obtain ⟨v, h_v, h_misfit⟩ := h_first
      obtain ⟨e, h_e⟩ := (h s List.mem_cons_self v).resolve_left h_misfit
      exact .inr ⟨e, [], s, shapes, v, rfl, List.forall_mem_nil _, h_v, h_e⟩

/-- What a record makes of an object, by what its fields make of the members in ascending order of their
names. -/
theorem record_object_eq (h_order : order.Perm fields)
    (h_ascending : (order.map (·.name)).Pairwise (· < ·)) (name : String) (default : α)
    (members : List (String × Json)) :
    Decoder.record name fields default .json (.ofJson (.object members))
      = Decoder.setFound .json (fun n => ((Json.object members).member? n).map .ofJson) order
          default := by
  rw [Datum.ofJson_object]
  show (Datum.directory members).entries.foldlM (Decoder.setByName fields .json) default = _
  rw [Decoder.foldlM_of_ascending h_order h_ascending (Datum.directory members).ascending]
  congr 1
  funext n
  exact Datum.find?_directory members n

/-! ### Records -/

/-- The fields of a record with the shapes of what stands under their names, in ascending order. -/
structure Describes (rules : List (Shape × Decoder.Field α)) (fields : List (Decoder.Field α)) :
    Prop where
  perm : (rules.map (·.2)).Perm fields
  ascending : (rules.map (·.1.name)).Pairwise (· < ·)
  rule : ∀ rule ∈ rules, rule.1.Describes rule.2

variable {rules : List (Shape × Decoder.Field α)} {name : String} {default : α}
  {members : List (String × Json)}

theorem Describes.ascending_fields (h : Describes rules fields) :
    ((rules.map (·.2)).map (·.name)).Pairwise (· < ·) := by
  have h_names : (rules.map (·.2)).map (·.name) = rules.map (·.1.name) := by
    rw [List.map_map]
    exact List.map_congr_left fun rule h_rule => (h.rule rule h_rule).name
  rw [h_names]
  exact h.ascending

/-- What the fields of some rules accept. -/
theorem Describes.accepts (h : Describes rules fields) {chosen : List (Shape × Decoder.Field α)}
    (h_chosen : ∀ rule ∈ chosen, rule ∈ rules) {value : Json}
    (h_fit : ∀ rule ∈ chosen, ∀ v, value.member? rule.1.name = some v → rule.1.fits v) :
    ∀ f ∈ chosen.map (·.2), ∀ datum, (value.member? f.name).map .ofJson = some datum →
      f.Accepts .json datum := by
  intro f h_f datum h_datum
  obtain ⟨rule, h_rule, rfl⟩ := List.mem_map.1 h_f
  obtain ⟨v, h_v, rfl⟩ := Option.map_eq_some_iff.1 h_datum
  have h_describes := h.rule rule (h_chosen rule h_rule)
  rw [h_describes.name] at h_v
  exact h_describes.accepts v (h_fit rule h_rule v h_v)

theorem Describes.total (h : Describes rules fields) :
    ∀ s ∈ rules.map (·.1), ∀ v, s.fits v ∨ ∃ e, s.reports v e := by
  intro s h_s
  obtain ⟨rule, h_rule, rfl⟩ := List.mem_map.1 h_s
  exact (h.rule rule h_rule).total

theorem Describes.membersFit_or_reports (h : Describes rules fields) (value : Json) :
    MembersFit (rules.map (·.1)) value ∨ ∃ e, Json.Reports (rules.map (·.1)) value e :=
  Json.membersFit_or_reports h.total value

/-- A record is made of an object whose members fit. -/
theorem Describes.exists_ok (h : Describes rules fields)
    (h_fit : MembersFit (rules.map (·.1)) (.object members)) :
    ∃ r, Decoder.record name fields default .json (.ofJson (.object members)) = .ok r := by
  rw [record_object_eq h.perm h.ascending_fields]
  refine Decoder.setFound_of_accepts (h.accepts (fun _ h_rule => h_rule) ?_) default
  exact fun rule h_rule => h_fit rule.1 (List.mem_map_of_mem h_rule)

/-- The first member that does not fit is reported. -/
theorem Describes.error (h : Describes rules fields) {e : DecodeError}
    (h_e : Json.Reports (rules.map (·.1)) (.object members) e) :
    Decoder.record name fields default .json (.ofJson (.object members)) = .error e := by
  obtain ⟨pre, s, post, v, h_split, h_pre, h_v, h_report⟩ := h_e
  -- the rules split where their shapes do
  obtain ⟨before, rest, h_rules, rfl, h_rest⟩ := List.map_eq_append_iff.1 h_split
  obtain ⟨rule, after, rfl, rfl, rfl⟩ := List.map_eq_cons_iff.1 h_rest
  have h_describes := h.rule rule (by simp [h_rules])
  rw [record_object_eq h.perm h.ascending_fields, h_rules, List.map_append, List.map_cons]
  refine Decoder.setFound_of_refuses (h.accepts (fun r h_r => ?_) fun r h_r => ?_) ?_
    (h_describes.refuses v e h_report) default
  · simp [h_rules, h_r]
  · exact h_pre r.1 (List.mem_map_of_mem h_r)
  · rw [h_describes.name, h_v]
    rfl

/-- **The rules are the decoder**: what is reported of an object is what the rules say. -/
theorem Describes.eq_error_iff (h : Describes rules fields) {e : DecodeError} :
    Decoder.record name fields default .json (.ofJson (.object members)) = .error e ↔
      Json.Reports (rules.map (·.1)) (.object members) e := by
  refine ⟨fun h_error => ?_, h.error⟩
  -- if something is reported by the rules, it is what the decoder reports, and it reports one thing
  rcases h.membersFit_or_reports (.object members) with h_fit | ⟨e', h_e'⟩
  · obtain ⟨r, h_r⟩ := h.exists_ok h_fit
    rw [h_r] at h_error
    cases h_error
  · have h_same := h_error.symm.trans (h.error h_e')
    rwa [Except.error.inj h_same]

/-- Nothing is reported of a value that fits. -/
theorem Describes.not_fits_of_reports (h : Describes rules fields) (record : α) {s : Shape}
    (h_s : s ∈ rules.map (·.1)) {value : Json} {e : DecodeError} (h_e : s.reports value e) :
    ¬ s.fits value := by
  intro h_fits
  obtain ⟨rule, h_rule, rfl⟩ := List.mem_map.1 h_s
  have h_describes := h.rule rule h_rule
  obtain ⟨r, h_r⟩ := h_describes.accepts value h_fits record
  rw [h_describes.refuses value e h_e record] at h_r
  cases h_r

end Records

/-! ### The settings follow the rules -/

theorem Telemetry.describes : Describes (shapes.zip fields) fields where
  perm := .refl _
  ascending := by decide
  rule := by
    rintro rule (_ | ⟨_, _ | ⟨_, h⟩⟩)
    · exact Shape.describes_text "log_level" _
    · exact Shape.describes_flag "metrics_enabled" _
    · cases h

namespace Telemetry

theorem exists_decode_of_fits {value : Json} (h : Fits value) :
    ∃ t, decode .json (.ofJson value) = .ok t := by
  cases h with
  | object h_fit => exact describes.exists_ok h_fit
  | none | level | both => exact ⟨_, rfl⟩

theorem decode_of_reports {value : Json} {e : DecodeError} (h : Reports value e) :
    decode .json (.ofJson value) = .error e := by
  cases h with
  | member h_e => exact describes.error h_e
  | @level item items h_text =>
    cases item with
    | text s => exact absurd rfl (h_text s)
    | _ => rfl
  | @metered level item items h_flag =>
    cases item with
    | flag b => exact absurd rfl (h_flag b)
    | _ => rfl
  | @long level metered item items =>
    -- both places are filled before the items are counted
    have h_length : ∀ items, (Datum.ofJsonItems items).length = items.length := by
      intro items
      induction items with
      | nil => rfl
      | cons item items ih => rw [Datum.ofJsonItems, List.length_cons, List.length_cons, ih]
    have h_set : Decoder.setByPlace .json fields (Datum.ofJsonItems
        (.text level :: .flag metered :: item :: items)) {} = .ok ⟨level, metered⟩ := rfl
    have h_count : (Datum.ofJsonItems (.text level :: .flag metered :: item :: items)).length
        = items.length + 3 := h_length _
    have h_more : Dialect.json = .json ∧ fields.length < items.length + 3 :=
      ⟨rfl, Nat.lt_of_lt_of_le (by decide) (Nat.le_add_left 3 _)⟩
    show Decoder.ofItems fields {} .json (Datum.ofJsonItems _) = _
    rw [Decoder.ofItems_of_ok h_set, h_count, if_pos h_more]
  | kind h_array h_object =>
    cases value with
    | array items => exact absurd rfl (h_array items)
    | object members => exact absurd rfl (h_object members)
    | _ => rfl

/-- An array fits logs and metrics, or there is something to report. -/
theorem fits_or_reports_array (items : List Json) :
    Fits (.array items) ∨ ∃ e, Reports (.array items) e := by
  cases items with
  | nil => exact .inl .none
  | cons first items =>
    cases first with
    | text level =>
      cases items with
      | nil => exact .inl .level
      | cons second items =>
        cases second with
        | flag metered =>
          cases items with
          | nil => exact .inl .both
          | cons item items => exact .inr ⟨_, .long⟩
        | _ => exact .inr ⟨_, .metered nofun⟩
    | _ => exact .inr ⟨_, .level nofun⟩

/-- A value fits logs and metrics, or there is something to report. -/
theorem fits_or_reports (value : Json) : Fits value ∨ ∃ e, Reports value e := by
  cases value with
  | object members =>
    rcases describes.membersFit_or_reports (.object members) with h_fit | ⟨e, h_e⟩
    · exact .inl (.object h_fit)
    · exact .inr ⟨e, .member h_e⟩
  | array items => exact fits_or_reports_array items
  | _ => exact .inr ⟨_, .kind nofun nofun⟩

end Telemetry

namespace Config

/-- The rules of the settings of a registry. The names are in ascending order, so the strategy comes
before the name. -/
def rules : List (Shape × Decoder.Field Config) :=
  shapes.zip [fields[1], fields[0], fields[2]]

theorem describes : Describes rules fields where
  perm := .swap ..
  ascending := by decide
  rule := by
    rintro rule (_ | ⟨_, _ | ⟨_, _ | ⟨_, h⟩⟩⟩)
    · refine Shape.describes_ofDecoder ?_ (fun _ _ => Strategy.decode_of_reports)
        Strategy.isWritten_or_reports
      rintro value ⟨s, h_s⟩
      exact ⟨s, Strategy.decode_of_isWritten h_s⟩
    · exact Shape.describes_text "name" _
    · exact Shape.describes_ofDecoder (fun _ => Telemetry.exists_decode_of_fits)
        (fun _ _ => Telemetry.decode_of_reports) Telemetry.fits_or_reports
    · cases h

/-- **What is reported of an object** is what is to be reported of its first misfit. -/
theorem ofJson_object_eq_error_iff {members : List (String × Json)} {e : DecodeError} :
    ofJson (.object members) = .error e ↔ Json.Reports shapes (.object members) e := by
  rw [ofJson, decode]
  exact describes.eq_error_iff

/-- An object is refused if one of its members does not fit. -/
theorem exists_ofJson_object_eq_error_iff {members : List (String × Json)} :
    (∃ e, ofJson (.object members) = .error e) ↔
      ∃ s ∈ shapes, ∃ v, (Json.object members).member? s.name = some v ∧ ¬ s.fits v := by
  constructor
  · rintro ⟨e, h_e⟩
    obtain ⟨pre, s, post, v, h_split, -, h_v, h_report⟩ := ofJson_object_eq_error_iff.1 h_e
    have h_s : s ∈ shapes := by simp [h_split]
    exact ⟨s, h_s, v, h_v, describes.not_fits_of_reports {} h_s h_report⟩
  · rintro ⟨s, h_s, v, h_v, h_misfit⟩
    rcases describes.membersFit_or_reports (.object members) with h_fit | ⟨e, h_e⟩
    · exact absurd (h_fit s h_s v h_v) h_misfit
    · exact ⟨e, ofJson_object_eq_error_iff.2 h_e⟩

end Config

end KeyedBreakers
