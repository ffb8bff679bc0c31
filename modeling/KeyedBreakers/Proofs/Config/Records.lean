import KeyedBreakers.Config.Decode
import Mathlib.Data.List.Basic
import Mathlib.Data.List.Nodup
import Mathlib.Data.List.Pairwise
import Mathlib.Data.List.Perm.Basic

/-!
# Records from tables

The decoder of a record goes through the entries of a table and sets the fields that they name. Here the
same is said from the side of the fields: each field is set to what is found under its name, if
anything is, and nothing else in the table matters. For a JSON object the fields are set in ascending
order of their names, whatever the order of the members, so it is clear which fault is reported. For a
TOML table they may be set in any order: that can change which fault is reported, but not whether there
is one, nor what the record is.

* `setFound` — each field set to what is found under its name;
* `Field.Accepts`, `Field.Refuses` — what a field makes of a datum, whatever the record;
* `foldlM_of_ascending` — entries in ascending order;
* `toOption_foldlM_setByName` — entries in any order, but for the fault that is reported;
* `setFound_of_accepts`, `setFound_of_refuses` — the first datum refused is the fault.
-/

namespace KeyedBreakers

open KeyedBreakers.Text

namespace Decoder

variable {α β : Type} {dialect : Dialect} {fields order : List (Field α)}

/-! ### Fields -/

/-- Sets the fields, one after another, to what is found under their names. -/
def setFound (dialect : Dialect) (found : String → Option Datum) :
    (fields : List (Field α)) → α → Except DecodeError α
  | [], record => .ok record
  | field :: fields, record =>
    match found field.name with
    | some datum => field.set dialect datum record >>= setFound dialect found fields
    | none => setFound dialect found fields record

theorem setFound_of_none {found : String → Option Datum} {f : Field α} (h : found f.name = none)
    (record : α) : setFound dialect found (f :: fields) record
      = setFound dialect found fields record := by
  rw [setFound, h]

theorem setFound_of_some {found : String → Option Datum} {f : Field α} {datum : Datum}
    (h : found f.name = some datum) (record : α) :
    setFound dialect found (f :: fields) record
      = f.set dialect datum record >>= setFound dialect found fields := by
  rw [setFound, h]

namespace Field

/-- The field can be set to the datum in every record. -/
def Accepts (f : Field α) (dialect : Dialect) (datum : Datum) : Prop :=
  ∀ record, ∃ record', f.set dialect datum record = .ok record'

/-- The field cannot be set to the datum in any record, always for the same reason. -/
def Refuses (f : Field α) (dialect : Dialect) (datum : Datum) (e : DecodeError) : Prop :=
  ∀ record, f.set dialect datum record = .error e

/-- The fields can be set in either order. -/
def Independent (f g : Field α) : Prop :=
  ∀ dialect datum datum' record,
    ((f.set dialect datum record).toOption.bind fun r => (g.set dialect datum' r).toOption)
      = (g.set dialect datum' record).toOption.bind fun r => (f.set dialect datum r).toOption

theorem Independent.symm {f g : Field α} (h : f.Independent g) : g.Independent f :=
  fun dialect datum datum' record => (h dialect datum' datum record).symm

variable {name name' : String} {decode : Decoder β} {put : β → α → α} {datum : Datum}

theorem ofDecoder_accepts {b : β} (h : decode dialect datum = .ok b) :
    (ofDecoder name decode put).Accepts dialect datum := by
  intro record
  refine ⟨put b record, ?_⟩
  show (decode dialect datum).map (put · record) = .ok (put b record)
  rw [h]
  rfl

theorem ofDecoder_refuses {e : DecodeError} (h : decode dialect datum = .error e) :
    (ofDecoder name decode put).Refuses dialect datum e := by
  intro record
  show (decode dialect datum).map (put · record) = .error e
  rw [h]
  rfl

/-- Fields are independent if they are different parts of the record. -/
theorem ofDecoder_independent {γ : Type} {decode' : Decoder γ} {put' : γ → α → α}
    (h : ∀ b c record, put' c (put b record) = put b (put' c record)) :
    (ofDecoder name decode put).Independent (ofDecoder name' decode' put') := by
  intro dialect datum datum' record
  simp only [ofDecoder]
  cases decode dialect datum with
  | error e => cases decode' dialect datum' <;> rfl
  | ok b =>
    cases decode' dialect datum' with
    | error e => rfl
    | ok c => exact congrArg some (h b c record)

end Field

/-! ### The entries that a record knows -/

/-- What a table has for the fields, in their order. -/
def knownOf (fields : List (Field α)) (found : String → Option Datum) : List (String × Datum) :=
  fields.filterMap fun f => (found f.name).map fun datum => (f.name, datum)

theorem setByName_of_unknown {entry : String × Datum} (h : ∀ f ∈ fields, f.name ≠ entry.1)
    (record : α) : setByName fields dialect record entry = .ok record := by
  have h_none : fields.find? (·.name = entry.1) = none :=
    List.find?_eq_none.2 fun f h_f => by simpa using h f h_f
  rw [setByName, h_none]

theorem setByName_of_mem (h_names : (fields.map (·.name)).Nodup) {f : Field α} (h_f : f ∈ fields)
    (datum : Datum) (record : α) :
    setByName fields dialect record (f.name, datum) = f.set dialect datum record := by
  have h_some : fields.find? (·.name = f.name) = some f := by
    induction fields with
    | nil => cases h_f
    | cons g fields ih =>
      rw [List.map_cons, List.nodup_cons] at h_names
      rcases List.mem_cons.1 h_f with rfl | h_f
      · exact List.find?_cons_of_pos (by simp)
      · -- the first field has another name
        have h_ne : g.name ≠ f.name := fun h_eq =>
          h_names.1 (h_eq ▸ List.mem_map_of_mem (f := (·.name)) h_f)
        rw [List.find?_cons_of_neg (by simpa using h_ne)]
        exact ih h_names.2 h_f
  rw [setByName, h_some]

/-- Setting what is known is setting each field to what is found. -/
theorem foldlM_knownOf (h_names : (fields.map (·.name)).Nodup) (h_order : ∀ f ∈ order, f ∈ fields)
    (found : String → Option Datum) (record : α) :
    (knownOf order found).foldlM (setByName fields dialect) record
      = setFound dialect found order record := by
  -- a field that nothing is found for leaves no entry, and sets nothing either
  induction order generalizing record with
  | nil => rfl
  | cons f order ih =>
    have h_rest := ih fun g h_g => h_order g (List.mem_cons_of_mem _ h_g)
    unfold knownOf at h_rest ⊢
    cases h_found : found f.name with
    | none =>
      rw [List.filterMap_cons_none (by rw [h_found]; rfl), setFound_of_none h_found]
      exact h_rest record
    | some datum =>
      rw [List.filterMap_cons_some (by rw [h_found]; rfl), List.foldlM_cons,
        setByName_of_mem h_names (h_order f List.mem_cons_self), setFound_of_some h_found]
      exact bind_congr h_rest

/-- Whether one of the fields has the name of the entry. -/
def knows (fields : List (Field α)) (entry : String × Datum) : Bool :=
  fields.any fun f => f.name = entry.1

/-- Entries that no field knows change nothing. -/
theorem foldlM_filter_knows (es : List (String × Datum)) (record : α) :
    (es.filter (knows fields)).foldlM (setByName fields dialect) record
      = es.foldlM (setByName fields dialect) record := by
  induction es generalizing record with
  | nil => rfl
  | cons e es ih =>
    cases h_knows : knows fields e with
    | true =>
      rw [List.filter_cons_of_pos h_knows, List.foldlM_cons, List.foldlM_cons]
      exact bind_congr ih
    | false =>
      have h_unknown : ∀ f ∈ fields, f.name ≠ e.1 := by simpa [knows] using h_knows
      rw [List.filter_cons_of_neg (by simp [h_knows]), List.foldlM_cons,
        setByName_of_unknown h_unknown]
      exact ih record

/-! ### Tables that have each name once -/

/-- An entry is what is found under its name. -/
theorem mem_iff_lookup {es : List (String × Datum)} (h : (es.map (·.1)).Nodup) {name : String}
    {datum : Datum} : (name, datum) ∈ es ↔ es.lookup name = some datum := by
  induction es with
  | nil => simp
  | cons e es ih =>
    rw [List.map_cons, List.nodup_cons] at h
    rw [List.mem_cons, Directory.lookup_cons_eq_ite, ih h.2]
    by_cases h_name : name = e.1
    · subst h_name
      -- the name of the first entry does not occur behind it
      have h_once : es.lookup e.1 ≠ some datum := fun h_found =>
        h.1 (List.mem_map_of_mem (f := (·.1)) ((ih h.2).2 h_found))
      rw [if_pos rfl]
      simp [h_once, Prod.ext_iff, eq_comm]
    · rw [if_neg h_name]
      simp [Prod.ext_iff, h_name]

/-- The entries that the fields know are what is found for them, in whatever order. -/
theorem mem_filter_knows_iff {es : List (String × Datum)} (h_es : (es.map (·.1)).Nodup)
    (h_order : ∀ f, f ∈ order ↔ f ∈ fields) (e : String × Datum) :
    e ∈ es.filter (knows fields) ↔ e ∈ knownOf order fun name => es.lookup name := by
  obtain ⟨name, datum⟩ := e
  simp only [List.mem_filter, mem_iff_lookup h_es, knownOf, knows, List.mem_filterMap,
    Option.map_eq_some_iff, List.any_eq_true, decide_eq_true_eq, h_order, Prod.mk.injEq]
  constructor
  · rintro ⟨h_found, f, h_f, rfl⟩
    exact ⟨f, h_f, datum, h_found, rfl, rfl⟩
  · rintro ⟨f, h_f, datum', h_found, rfl, rfl⟩
    exact ⟨h_found, f, h_f, rfl⟩

/-- What is found for fields is in the order of the fields. -/
theorem pairwise_knownOf {rel : String → String → Prop} (h : (order.map (·.name)).Pairwise rel)
    (found : String → Option Datum) : (knownOf order found).Pairwise fun a b => rel a.1 b.1 := by
  rw [List.pairwise_map] at h
  rw [knownOf, List.pairwise_filterMap]
  refine h.imp fun {f g} h_rel a h_a b h_b => ?_
  obtain ⟨datum, -, rfl⟩ := Option.map_eq_some_iff.1 h_a
  obtain ⟨datum', -, rfl⟩ := Option.map_eq_some_iff.1 h_b
  exact h_rel

/-! ### In ascending order -/

theorem nodup_of_ascending {names : List String} (h : names.Pairwise (· < ·)) : names.Nodup := by
  refine h.imp fun {a b} h_lt h_eq => ?_
  rw [h_eq] at h_lt
  exact String.lt_irrefl _ h_lt

/-- **Entries in ascending order set the fields in ascending order.** -/
theorem foldlM_of_ascending (h_order : order.Perm fields)
    (h_ascending : (order.map (·.name)).Pairwise (· < ·)) {es : List (String × Datum)}
    (h_es : es.Pairwise fun a b => a.1 < b.1) (record : α) :
    es.foldlM (setByName fields dialect) record
      = setFound dialect (fun name => es.lookup name) order record := by
  have h_names : (fields.map (·.name)).Nodup :=
    (h_order.map _).nodup_iff.1 (nodup_of_ascending h_ascending)
  have h_nodup : (es.map (·.1)).Nodup := nodup_of_ascending (List.pairwise_map.2 h_es)
  -- two ascending lists of the same entries are the same list
  have h_known : es.filter (knows fields)
      = knownOf order fun name => es.lookup name :=
    Directory.eq_of_mem_iff (h_es.filter _) (pairwise_knownOf h_ascending _)
      (mem_filter_knows_iff h_nodup fun f => h_order.mem_iff)
  rw [← foldlM_filter_knows, h_known]
  exact foldlM_knownOf h_names (fun f h_f => h_order.mem_iff.1 h_f) _ record

/-! ### In any order -/

/-- What a fold comes to, but for the fault it stops at. -/
theorem toOption_foldlM {ε γ : Type} (step : α → γ → Except ε α) (xs : List γ) (record : α) :
    (xs.foldlM step record).toOption
      = xs.foldl (fun o x => o.bind fun r => (step r x).toOption) (some record) := by
  have h_none : ∀ xs : List γ,
      xs.foldl (fun o x => o.bind fun r => (step r x).toOption) (none : Option α) = none := by
    -- nothing comes of a fold that has stopped
    intro xs
    induction xs with
    | nil => rfl
    | cons x xs ih => exact ih
  induction xs generalizing record with
  | nil => rfl
  | cons x xs ih =>
    rw [List.foldlM_cons, List.foldl_cons, Option.bind_some]
    cases step record x with
    | error e => exact (h_none xs).symm
    | ok r => exact ih r

/-- Two entries of a table can be taken in either order. -/
theorem setByName_comm (h_names : (fields.map (·.name)).Nodup)
    (h_independent : fields.Pairwise Field.Independent) {x y : String × Datum}
    (h_x : knows fields x = true) (h_y : knows fields y = true) (h_ne : x.1 ≠ y.1) (record : α) :
    ((setByName fields dialect record x).toOption.bind
        fun r => (setByName fields dialect r y).toOption)
      = (setByName fields dialect record y).toOption.bind
          fun r => (setByName fields dialect r x).toOption := by
  obtain ⟨name, datum⟩ := x
  obtain ⟨name', datum'⟩ := y
  simp only [knows, List.any_eq_true, decide_eq_true_eq] at h_x h_y
  obtain ⟨f, h_f, rfl⟩ := h_x
  obtain ⟨g, h_g, rfl⟩ := h_y
  simp only [setByName_of_mem h_names h_f, setByName_of_mem h_names h_g]
  have : Std.Symm (Field.Independent (α := α)) := ⟨fun _ _ h => h.symm⟩
  have h_fg : f ≠ g := fun h_eq => h_ne (congrArg (·.name) h_eq)
  exact h_independent.forall h_f h_g h_fg dialect datum datum' record

/-- **The order of the entries does not matter**, but for the fault that is reported. -/
theorem toOption_foldlM_setByName (h_names : (fields.map (·.name)).Nodup)
    (h_independent : fields.Pairwise Field.Independent) {es : List (String × Datum)}
    (h_es : (es.map (·.1)).Nodup) (record : α) :
    (es.foldlM (setByName fields dialect) record).toOption
      = (setFound dialect (fun name => es.lookup name) fields record).toOption := by
  -- neither list has an entry twice, so one is the other in another order
  have h_nodup : es.Nodup := List.Nodup.of_map _ h_es
  have h_known : (knownOf fields fun name => es.lookup name).Nodup :=
    (pairwise_knownOf h_names _).imp fun h_ne h_eq => h_ne (congrArg (·.1) h_eq)
  have h_perm : (es.filter (knows fields)).Perm (knownOf fields fun name => es.lookup name) :=
    (List.perm_ext_iff_of_nodup (h_nodup.filter _) h_known).2
      (mem_filter_knows_iff h_es fun _ => Iff.rfl)
  have h_comm : ∀ x ∈ es.filter (knows fields), ∀ y ∈ es.filter (knows fields),
      ∀ o : Option α,
        ((o.bind fun r => (setByName fields dialect r x).toOption).bind
            fun r => (setByName fields dialect r y).toOption)
          = (o.bind fun r => (setByName fields dialect r y).toOption).bind
              fun r => (setByName fields dialect r x).toOption := by
    intro x h_x y h_y o
    rw [List.mem_filter] at h_x h_y
    by_cases h_name : x.1 = y.1
    · -- a table has one entry for each name
      rw [List.inj_on_of_nodup_map h_es h_x.1 h_y.1 h_name]
    · cases o with
      | none => rfl
      | some record => exact setByName_comm h_names h_independent h_x.2 h_y.2 h_name record
  calc (es.foldlM (setByName fields dialect) record).toOption
      = ((es.filter (knows fields)).foldlM (setByName fields dialect) record).toOption := by
        rw [foldlM_filter_knows]
    _ = ((knownOf fields fun name => es.lookup name).foldlM (setByName fields dialect)
          record).toOption := by
        rw [toOption_foldlM, toOption_foldlM]
        exact h_perm.foldl_eq' h_comm _
    _ = (setFound dialect (fun name => es.lookup name) fields record).toOption := by
        rw [foldlM_knownOf h_names fun _ h_f => h_f]

/-! ### Missing data -/

/-- What a decoder makes of a datum that may be missing, with the default for a missing one; nothing if
the datum is refused. -/
def ofFound (decode : Decoder β) (dialect : Dialect) (default : β) : Option Datum → Option β
  | none => some default
  | some datum => (decode dialect datum).toOption

/-- A datum that is there or not, as `given` says. -/
theorem ofFound_of_ok {γ : Type} {decode : Decoder β} {toDatum : γ → Datum} {value : γ} {b : β}
    (h : decode dialect (toDatum value) = .ok b) (default : β) (given : Bool) :
    decode.ofFound dialect default ((if given then some value else none).map toDatum)
      = some (if given then b else default) := by
  cases given with
  | false => rfl
  | true =>
    show (decode dialect (toDatum value)).toOption = some b
    rw [h]
    rfl

/-- The first of some fields takes what is found, or stays as it is. -/
theorem toOption_setFound_cons {name : String} {decode : Decoder β} {put : β → α → α} {g : α → β}
    (h_g : ∀ record, put (g record) record = record) (found : String → Option Datum)
    (record : α) :
    (setFound dialect found (.ofDecoder name decode put :: fields) record).toOption
      = (decode.ofFound dialect (g record) (found name)).bind fun b =>
          (setFound dialect found fields (put b record)).toOption := by
  cases h_found : found name with
  | none =>
    rw [setFound_of_none (f := .ofDecoder name decode put) h_found, ofFound, Option.bind_some,
      h_g]
  | some datum =>
    rw [setFound_of_some (f := .ofDecoder name decode put) h_found, ofFound]
    show ((decode dialect datum).map (put · record) >>= _).toOption = _
    cases decode dialect datum <;> rfl

/-! ### Lists -/

/-- The first of some items sets the first of some fields. -/
theorem setByPlace_cons_of_ok {name : String} {decode : Decoder β} {put : β → α → α}
    {item : Datum} {b : β} (h : decode dialect item = .ok b) (items : List Datum) (record : α) :
    setByPlace dialect (.ofDecoder name decode put :: fields) (item :: items) record
      = setByPlace dialect fields items (put b record) := by
  show ((decode dialect item).map (put · record) >>= _) = _
  rw [h]
  rfl

/-- Items that fit their places make a record, unless JSON has more items than there are fields. -/
theorem ofItems_of_ok {items : List Datum} {default record : α}
    (h : setByPlace dialect fields items default = .ok record) :
    ofItems fields default dialect items
      = if dialect = .json ∧ fields.length < items.length then .error (.tooManyItems items.length)
        else .ok record := by
  rw [ofItems, h]
  rfl

/-! ### Faults -/

/-- A record is made if every field accepts what is found for it. -/
theorem setFound_of_accepts {found : String → Option Datum}
    (h : ∀ f ∈ fields, ∀ datum, found f.name = some datum → f.Accepts dialect datum) (record : α) :
    ∃ record', setFound dialect found fields record = .ok record' := by
  induction fields generalizing record with
  | nil => exact ⟨record, rfl⟩
  | cons f fields ih =>
    have h_rest := ih fun g h_g => h g (List.mem_cons_of_mem _ h_g)
    cases h_found : found f.name with
    | none =>
      rw [setFound_of_none h_found]
      exact h_rest record
    | some datum =>
      obtain ⟨next, h_next⟩ := h f List.mem_cons_self datum h_found record
      rw [setFound_of_some h_found, h_next]
      exact h_rest next

/-- **The first datum that is refused is the fault**, in the order of the fields. -/
theorem setFound_of_refuses {found : String → Option Datum} {pre post : List (Field α)}
    {f : Field α} {datum : Datum} {e : DecodeError}
    (h_pre : ∀ g ∈ pre, ∀ datum, found g.name = some datum → g.Accepts dialect datum)
    (h_found : found f.name = some datum) (h_f : f.Refuses dialect datum e) (record : α) :
    setFound dialect found (pre ++ f :: post) record = .error e := by
  -- the fields in front take what they find, and the fault is reached
  induction pre generalizing record with
  | nil =>
    rw [List.nil_append, setFound_of_some h_found, h_f record]
    rfl
  | cons g pre ih =>
    have h_rest := ih fun g' h_g' => h_pre g' (List.mem_cons_of_mem _ h_g')
    rw [List.cons_append]
    cases h_g : found g.name with
    | none =>
      rw [setFound_of_none h_g]
      exact h_rest record
    | some datum' =>
      obtain ⟨next, h_next⟩ := h_pre g List.mem_cons_self datum' h_g record
      rw [setFound_of_some h_g, h_next]
      exact h_rest next

end Decoder

end KeyedBreakers
