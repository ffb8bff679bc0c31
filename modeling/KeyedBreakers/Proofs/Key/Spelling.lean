import KeyedBreakers.Key.Strategy
import Mathlib.Data.List.Forall2

/-!
# Spellings of strategies

A loosely spelled name is compared with the names of the strategies after it has been brought into
their form: capitals are made small and hyphens made underscores. Here the texts that a name can be
spelled as are told from the side of the name, character by character and each for itself: a letter
may be a capital, an underscore may be a hyphen, and all else stands as it is. A character has only
a few spellings, but a character of a text is the spelling of at most one character that names are
made of; so a text spells at most one name, and no two strategies have a name in common.

* `Strategy.SpelledAs`, `Strategy.IsSpelling` — what may stand for a character, and for a word;
* `Strategy.Denotes` — the texts that spell a name of a strategy;
* `Strategy.parse_eq_ok_iff`, `Strategy.parse_eq_error_iff` — reading accepts exactly these;
* `Strategy.Denotes.unique` — no text denotes two strategies.
-/

namespace KeyedBreakers.Strategy

/-! ### What a name may be spelled as -/

/-- What may stand in a text for the character `p` of a name: the character itself, the capital of a
small ASCII letter, which has a code point lower by 32, or a hyphen for an underscore. -/
inductive SpelledAs (p : Char) : Char → Prop where
  | same : SpelledAs p p
  | capital {c : Char} (h_small : p.isLower = true) (h_code : c.toNat + 32 = p.toNat) :
      SpelledAs p c
  | hyphen (h : p = '_') : SpelledAs p '-'

/-- The text spells the word, each character for itself. -/
def IsSpelling (word text : String) : Prop :=
  List.Forall₂ SpelledAs word.toList text.toList

/-- All names of a strategy. -/
def spellings : Strategy → List String
  | operation => ["operation", "method"]
  | target => ["target", "host"]
  | targetAndOperation => ["target_and_operation", "host_and_method"]

/-- The text spells a name of the strategy. -/
def Denotes (text : String) (s : Strategy) : Prop :=
  ∃ word ∈ s.spellings, IsSpelling word text

/-! ### Characters -/

/-- Whether names can be made of the character, which is then its own normal form. -/
def isPlain (p : Char) : Bool :=
  !p.isUpper && p != '-'

theorem isPlain_iff {p : Char} : isPlain p = true ↔ p.isUpper = false ∧ p ≠ '-' := by
  rw [isPlain, Bool.and_eq_true, Bool.not_eq_true', bne_iff_ne]

theorem isUpper_iff {c : Char} : c.isUpper = true ↔ 65 ≤ c.toNat ∧ c.toNat ≤ 90 := by
  show decide (c.val ≥ 'A'.val ∧ c.val ≤ 'Z'.val) = true ↔ _
  rw [decide_eq_true_iff, ge_iff_le, UInt32.le_iff_toNat_le, UInt32.le_iff_toNat_le]
  rfl

theorem isLower_iff {c : Char} : c.isLower = true ↔ 97 ≤ c.toNat ∧ c.toNat ≤ 122 := by
  show (decide (c.val ≥ 'a'.val) && decide (c.val ≤ 'z'.val)) = true ↔ _
  rw [Bool.and_eq_true, decide_eq_true_iff, decide_eq_true_iff, ge_iff_le,
    UInt32.le_iff_toNat_le, UInt32.le_iff_toNat_le]
  rfl

theorem toNat_toLower {c : Char} (h : c.isUpper = true) : c.toLower.toNat = c.toNat + 32 := by
  have h_code := isUpper_iff.1 h
  have h_lower : c.toLower.val = c.val + 32 := congrArg Char.val (dif_pos (of_decide_eq_true h))
  show c.toLower.val.toNat = c.val.toNat + 32
  rw [h_lower, UInt32.toNat_add]
  -- no code of a capital is near the end of the range
  exact Nat.mod_eq_of_lt (Nat.lt_of_le_of_lt (Nat.add_le_add_right h_code.2 32) (by decide))

theorem toLower_eq_self {c : Char} (h : c.isUpper = false) : c.toLower = c :=
  dif_neg (of_decide_eq_false h)

/-- A character of a name is the normal form of just the characters that may stand for it. -/
theorem eq_normalChar_iff {p c : Char} (h : isPlain p = true) :
    p = normalChar c ↔ SpelledAs p c := by
  constructor
  · rintro rfl
    by_cases h_hyphen : c = '-'
    · subst h_hyphen
      exact .hyphen rfl
    · have h_normal : normalChar c = c.toLower := if_neg h_hyphen
      rw [h_normal]
      cases h_upper : c.isUpper with
      | true =>
        -- the code of a capital and that of the small letter tell which is which
        have h_code := toNat_toLower h_upper
        have h_range := isUpper_iff.1 h_upper
        exact .capital (isLower_iff.2 (by omega)) h_code.symm
      | false =>
        rw [toLower_eq_self h_upper]
        exact .same
  · obtain ⟨h_small, h_hyphen⟩ := isPlain_iff.1 h
    intro h_spelled
    cases h_spelled with
    | same =>
      show p = if p = '-' then '_' else p.toLower
      rw [if_neg h_hyphen, toLower_eq_self h_small]
    | capital h_lower h_code =>
      have h_range := isLower_iff.1 h_lower
      have h_upper : c.isUpper = true := isUpper_iff.2 (by omega)
      have h_ne : c ≠ '-' := by
        rintro rfl
        exact absurd h_upper (by decide)
      show p = if c = '-' then '_' else c.toLower
      rw [if_neg h_ne, ← Char.toNat_inj, toNat_toLower h_upper, h_code]
    | hyphen h_p => exact h_p

/-! ### Texts -/

/-- A word of plain characters is the normal form of just its spellings. -/
theorem eq_map_normalChar_iff {word : String} (h : ∀ p ∈ word.toList, isPlain p = true)
    (text : String) :
    word.toList = text.toList.map normalChar ↔ IsSpelling word text := by
  have h_char : (fun p c => isPlain p = true ∧ p = normalChar c)
      = fun p c => isPlain p = true ∧ SpelledAs p c := by
    funext p c
    exact propext (and_congr_right eq_normalChar_iff)
  -- only at plain characters do the two relations agree, so plainness is carried along
  calc word.toList = text.toList.map normalChar
    _ ↔ List.Forall₂ (fun p c => p = normalChar c) word.toList text.toList := by
      rw [← List.forall₂_map_right_iff (R := Eq), List.forall₂_eq_eq_eq]
    _ ↔ List.Forall₂ (fun p c => isPlain p = true ∧ p = normalChar c) word.toList text.toList := by
      rw [List.forall₂_and_left]
      exact (and_iff_right h).symm
    _ ↔ List.Forall₂ (fun p c => isPlain p = true ∧ SpelledAs p c) word.toList text.toList := by
      rw [h_char]
    _ ↔ IsSpelling word text := by
      rw [List.forall₂_and_left]
      exact and_iff_right h

theorem mem_all (s : Strategy) : s ∈ all := by
  cases s <;> decide

/-- Names are made of plain characters. -/
theorem isPlain_of_mem_spellings {s : Strategy} {word : String} (h : word ∈ s.spellings) :
    ∀ p ∈ word.toList, isPlain p = true := by
  have h_all : ∀ s ∈ all, ∀ word ∈ s.spellings, word.toList.all isPlain = true := by decide
  exact List.all_eq_true.1 (h_all s (mem_all s) word h)

/-- No name belongs to two strategies. -/
theorem eq_of_mem_spellings {s s' : Strategy} {word : String} (h : word ∈ s.spellings)
    (h' : word ∈ s'.spellings) : s = s' := by
  have h_all : ∀ s ∈ all, ∀ s' ∈ all, ∀ word ∈ s.spellings, word ∈ s'.spellings → s = s' := by
    decide
  exact h_all s (mem_all s) s' (mem_all s') word h h'

/-- What is looked for when a text is read. -/
theorem denotes_iff {text : String} {s : Strategy} :
    Denotes text s ↔ s.name.toList = text.toList.map normalChar ∨
      s.otherName.toList = text.toList.map normalChar := by
  have h_spellings : s.spellings = [s.name, s.otherName] := by cases s <;> rfl
  have h_word : ∀ word ∈ s.spellings,
      (IsSpelling word text ↔ word.toList = text.toList.map normalChar) := fun word h_word =>
    (eq_map_normalChar_iff (isPlain_of_mem_spellings h_word) text).symm
  rw [h_spellings, List.forall_mem_cons, List.forall_mem_singleton] at h_word
  simp only [Denotes, h_spellings, List.mem_cons, List.not_mem_nil, or_false, exists_eq_or_imp,
    exists_eq_left, h_word]

/-- **No text denotes two strategies**: it has one normal form, which is the name of at most one. -/
theorem Denotes.unique {text : String} {s s' : Strategy} (h : Denotes text s)
    (h' : Denotes text s') : s = s' := by
  obtain ⟨word, h_mem, h_spelling⟩ := h
  obtain ⟨word', h_mem', h_spelling'⟩ := h'
  have h_word : word = word' := by
    rw [← String.toList_inj,
      (eq_map_normalChar_iff (isPlain_of_mem_spellings h_mem) text).2 h_spelling,
      (eq_map_normalChar_iff (isPlain_of_mem_spellings h_mem') text).2 h_spelling']
  exact eq_of_mem_spellings h_mem (h_word ▸ h_mem')

theorem denotes_name (s : Strategy) : Denotes s.name s := by
  refine ⟨s.name, ?_, List.forall₂_same.2 fun p _ => .same⟩
  cases s <;> decide

/-! ### Reading -/

/-- What is read is denoted. -/
theorem denotes_of_parse {text : String} {s : Strategy} (h : parse text = .ok s) :
    Denotes text s := by
  rw [parse] at h
  split at h
  · next s' h_find =>
    cases h
    exact denotes_iff.2 (by simpa using List.find?_some h_find)
  · cases h

/-- What is refused is refused for what it is, and denotes nothing. -/
theorem of_parse_eq_error {text : String} {e : UnknownStrategy} (h : parse text = .error e) :
    (∀ s, ¬ Denotes text s) ∧ e = ⟨text⟩ := by
  rw [parse] at h
  split at h
  · cases h
  · next h_find =>
    cases h
    refine ⟨fun s h_s => ?_, rfl⟩
    exact List.find?_eq_none.1 h_find s (mem_all s) (by simpa using denotes_iff.1 h_s)

/-- **The language of names**: a text is read as a strategy if it denotes it. -/
theorem parse_eq_ok_iff {text : String} {s : Strategy} : parse text = .ok s ↔ Denotes text s := by
  refine ⟨denotes_of_parse, fun h => ?_⟩
  cases h_parse : parse text with
  | ok s' => rw [h.unique (denotes_of_parse h_parse)]
  | error e => exact absurd h ((of_parse_eq_error h_parse).1 s)

/-- **Every other text is refused**, and handed back as it is. -/
theorem parse_eq_error_iff {text : String} {e : UnknownStrategy} :
    parse text = .error e ↔ (∀ s, ¬ Denotes text s) ∧ e = ⟨text⟩ := by
  refine ⟨of_parse_eq_error, fun ⟨h_none, h_e⟩ => ?_⟩
  cases h_parse : parse text with
  | ok s => exact absurd (denotes_of_parse h_parse) (h_none s)
  | error e' => rw [(of_parse_eq_error h_parse).2, h_e]

/-- The capital of the long s is an S, but it is no spelling of one. -/
example : parse "ho\u017Ft" = .error ⟨"ho\u017Ft"⟩ := by decide

end KeyedBreakers.Strategy
