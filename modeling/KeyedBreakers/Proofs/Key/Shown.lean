import KeyedBreakers.Proofs.Text.Quoted
import KeyedBreakers.Registry.Basic

/-!
# Keys in messages

A key reaches a reader in two ways: the error of a call that found no breaker carries its text, and
so does the field `key` of the records on breakers that were made, dropped, or not made. The text is
built so that it gives the key back: a text stands between quotation marks, and the parts of an
endpoint between marks that neither part can hold. What follows the text of a key does not matter,
so a key cannot pass for another in a longer message either; and since no control is written as
itself, no key breaks the line that it stands in.

* `ShownApart` — keys whose texts are told apart in front of any text and hold no control;
* `shownApart_text`, `shownApart_endpoint`, `shownApart_key` — the keys of registries are such;
* `Mention` — where a key is shown, and the text that is shown there;
* `KeysAreClear`, `keys_are_clear` — the main theorem.
-/

namespace KeyedBreakers

open KeyedBreakers.Text KeyedBreakers.Unicode

/-! ### Texts of keys -/

/-- Keys whose texts are told apart, whatever stands behind them, and stay on their line. -/
structure ShownApart (K : Type) [RegistryKey K] : Prop where
  append_inj : ∀ {a b : K} {xs ys : List Char},
    (RegistryKey.shown a).toList ++ xs = (RegistryKey.shown b).toList ++ ys → a = b ∧ xs = ys
  isControl_of_mem : ∀ {a : K} {c : Char}, c ∈ (RegistryKey.shown a).toList → isControl c = false

theorem ShownApart.shown_inj {K : Type} [RegistryKey K] (h : ShownApart K) {a b : K}
    (h_eq : RegistryKey.shown a = RegistryKey.shown b) : a = b := by
  have h_chars : (RegistryKey.shown a).toList ++ [] = (RegistryKey.shown b).toList ++ [] := by
    rw [h_eq]
  exact (h.append_inj h_chars).1

theorem shownApart_text : ShownApart String where
  append_inj := Quoted.encode_append_inj
  isControl_of_mem := Quoted.isControl_of_mem_encode

/-- Ports are told apart in front of a closing bracket. -/
theorem shownPort_append_inj {p q : Option UInt16} {xs ys : List Char}
    (h : (shownPort p).toList ++ ')' :: xs = (shownPort q).toList ++ ')' :: ys) :
    p = q ∧ xs = ys := by
  have h_some : ∀ (p : UInt16) (xs : List Char), (shownPort (some p)).toList ++ ')' :: xs =
      ['S', 'o', 'm', 'e', '('] ++ (decimal p.toNat ++ ')' :: ')' :: xs) := by
    intro p xs
    simp [shownPort]
  have h_none : ∀ xs : List Char,
      (shownPort none).toList ++ ')' :: xs = ['N', 'o', 'n', 'e', ')'] ++ xs := fun xs => rfl
  have h_bracket : ∀ n, ')' ∉ decimal n := by
    intro n h_mem
    exact absurd (isDigit_of_mem_decimal h_mem) (by decide)
  cases p with
  | none =>
    cases q with
    | none => exact ⟨rfl, by simpa [h_none] using h⟩
    | some q => simp [h_none, h_some] at h
  | some p =>
    cases q with
    | none => simp [h_none, h_some] at h
    | some q =>
      -- the digits end at the first bracket
      rw [h_some, h_some, List.append_cancel_left_eq] at h
      have h_cut := congrArg (cutFirst? ')') h
      rw [cutFirst?_append _ (h_bracket _), cutFirst?_append _ (h_bracket _), Option.some.injEq,
        Prod.mk.injEq, List.cons.injEq] at h_cut
      obtain ⟨h_digits, -, h_rest⟩ := h_cut
      have h_value := congrArg readDecimal? h_digits
      rw [readDecimal?_decimal, readDecimal?_decimal, Option.some.injEq, UInt16.toNat_inj] at h_value
      exact ⟨congrArg some h_value, h_rest⟩

theorem isControl_of_mem_shownPort {p : Option UInt16} {c : Char} (h : c ∈ (shownPort p).toList) :
    isControl c = false := by
  cases p with
  | none => exact Quoted.isControl_of_spareControls (by decide) h
  | some p =>
    simp only [shownPort, String.toList_append, String.toList_ofList, List.mem_append] at h
    rcases h with (h_open | h_digit) | h_close
    · exact Quoted.isControl_of_spareControls (by decide) h_open
    · exact Quoted.isControl_of_isHexDigit (isHexDigit_of_isDigit (isDigit_of_mem_decimal h_digit))
    · exact Quoted.isControl_of_spareControls (by decide) h_close

theorem toList_endpoint_shown (e : Endpoint) (xs : List Char) :
    e.shown.toList ++ xs = '(' :: ((Quoted.encode e.host).toList ++
      ([',', ' '] ++ ((shownPort e.port).toList ++ ')' :: xs))) := by
  simp [Endpoint.shown]

theorem shownApart_endpoint : ShownApart Endpoint where
  append_inj {a b xs ys} h := by
    change a.shown.toList ++ xs = b.shown.toList ++ ys at h
    rw [toList_endpoint_shown, toList_endpoint_shown, List.cons.injEq] at h
    obtain ⟨h_host, h_rest⟩ := Quoted.encode_append_inj h.2
    rw [List.append_cancel_left_eq] at h_rest
    obtain ⟨h_port, h_end⟩ := shownPort_append_inj h_rest
    refine ⟨?_, h_end⟩
    cases a
    cases b
    cases h_host
    cases h_port
    rfl
  isControl_of_mem {a c} h := by
    change c ∈ a.shown.toList at h
    rw [← List.append_nil a.shown.toList, toList_endpoint_shown] at h
    simp only [List.mem_cons, List.mem_append, List.not_mem_nil, or_false] at h
    rcases h with rfl | h_host | (rfl | rfl) | h_port | rfl
    · decide
    · exact Quoted.isControl_of_mem_encode h_host
    · decide
    · decide
    · exact isControl_of_mem_shownPort h_port
    · decide

/-- Texts begin with a quotation mark and endpoints with a bracket, so neither passes for the
other. -/
theorem shownApart_key : ShownApart Key where
  append_inj {a b xs ys} h := by
    cases a with
    | text name =>
      cases b with
      | text name' =>
        obtain ⟨rfl, h_rest⟩ := shownApart_text.append_inj h
        exact ⟨rfl, h_rest⟩
      | endpoint e =>
        change (Quoted.encode name).toList ++ xs = e.shown.toList ++ ys at h
        rw [Quoted.toList_encode, toList_endpoint_shown] at h
        exact absurd (List.cons.inj h).1 (by decide)
    | endpoint e =>
      cases b with
      | text name =>
        change e.shown.toList ++ xs = (Quoted.encode name).toList ++ ys at h
        rw [Quoted.toList_encode, toList_endpoint_shown] at h
        exact absurd (List.cons.inj h).1 (by decide)
      | endpoint e' =>
        obtain ⟨rfl, h_rest⟩ := shownApart_endpoint.append_inj h
        exact ⟨rfl, h_rest⟩
  isControl_of_mem {a c} h := by
    cases a with
    | text name => exact shownApart_text.isControl_of_mem h
    | endpoint e => exact shownApart_endpoint.isControl_of_mem h

/-! ### Where keys are shown -/

/-- The text of a field of a record, if the record has a field of that name. -/
def Record.text? (name : String) (r : Record) : Option String :=
  (r.fields.find? (·.name = name)).map (·.value.shown)

/-- Something that a key can be shown in: what a call without a breaker gets, or the record of an
event in the log of the named registry. -/
inductive Mention (K : Type) where
  | refusal (error : ResolveError K)
  | record (registry : String) (event : Event K)

section Mentions

variable {K : Type}

/-- The key for which no breaker could be made. -/
def ResolveError.key? : ResolveError K → Option K
  | keyDerivation _ => none
  | creation key _ => some key

/-- The key that is meant. -/
def Mention.key? : Mention K → Option K
  | refusal error => error.key?
  | record _ event => event.key?

variable [RegistryKey K]

/-- The text that the error carries for the key, which is also the one in its message. -/
def ResolveError.keyText? (error : ResolveError K) : Option String :=
  error.key?.map RegistryKey.shown

/-- The text that is shown for the key. -/
def Mention.keyText? : Mention K → Option String
  | refusal error => error.keyText?
  | record registry event => (event.record registry).text? "key"

/-- Wherever a key is meant its text is shown, and no other text is shown as that of a key. -/
theorem Mention.keyText?_eq_map (m : Mention K) : m.keyText? = m.key?.map RegistryKey.shown := by
  cases m with
  | refusal error => rfl
  | record registry event => cases event <;> rfl

/-- **Keys are clear in errors and logs.** -/
structure KeysAreClear (K : Type) [RegistryKey K] : Prop where
  /-- Two mentions of keys have a text each, and the same one only if the keys are the same. -/
  apart : ∀ (m m' : Mention K) (key key' : K), m.key? = some key → m'.key? = some key' →
    m.keyText?.isSome = true ∧ (m.keyText? = m'.keyText? → key = key')
  /-- The text is on one line. -/
  oneLine : ∀ (m : Mention K) (text : String), m.keyText? = some text →
    ∀ c ∈ text.toList, isControl c = false
  /-- The message of an error gives back the key and the cause. -/
  message_inj : ∀ (key key' : K) (cause cause' : String),
    (ResolveError.creation key cause).message = (ResolveError.creation key' cause').message →
      key = key' ∧ cause = cause'

/-- A message shows the key between its opening and the cause. -/
theorem exists_toList_message_creation : ∃ opening mark : List Char, ∀ (key : K) (cause : String),
    (ResolveError.creation key cause).message.toList =
      opening ++ ((RegistryKey.shown key).toList ++ (mark ++ cause.toList)) := by
  have h_parts : ∀ a b c d : String,
      (a ++ b ++ c ++ d).toList = a.toList ++ (b.toList ++ (c.toList ++ d.toList)) := by
    intro a b c d
    rw [String.toList_append, String.toList_append, String.toList_append, List.append_assoc,
      List.append_assoc]
  exact ⟨_, _, fun key cause => h_parts _ (RegistryKey.shown key) _ cause⟩

theorem ShownApart.keysAreClear (h : ShownApart K) : KeysAreClear K where
  apart m m' key key' h_key h_key' := by
    rw [m.keyText?_eq_map, m'.keyText?_eq_map, h_key, h_key']
    exact ⟨rfl, fun h_text => h.shown_inj (Option.some.inj h_text)⟩
  oneLine m text h_text c h_c := by
    rw [m.keyText?_eq_map, Option.map_eq_some_iff] at h_text
    obtain ⟨key, -, rfl⟩ := h_text
    exact h.isControl_of_mem h_c
  message_inj key key' cause cause' h_message := by
    obtain ⟨opening, mark, h_shape⟩ := @exists_toList_message_creation K _
    have h_chars := congrArg String.toList h_message
    rw [h_shape, h_shape] at h_chars
    obtain ⟨h_key, h_rest⟩ := h.append_inj (List.append_cancel_left h_chars)
    exact ⟨h_key, String.toList_inj.1 (List.append_cancel_left h_rest)⟩

end Mentions

/-- **Keys in errors and logs are told apart and forge no lines**: keys that are texts, endpoints, and
keys of either form. -/
theorem keys_are_clear : KeysAreClear String ∧ KeysAreClear Endpoint ∧ KeysAreClear Key :=
  ⟨shownApart_text.keysAreClear, shownApart_endpoint.keysAreClear, shownApart_key.keysAreClear⟩

end KeyedBreakers
