import KeyedBreakers.Config.Load
import Mathlib.Data.List.Basic
import Mathlib.Data.String.Basic

/-!
# What comes of loading a configuration

A file can fail to be a configuration in three ways: its bytes are no text, the text is no document
that fits the form of a configuration, or what it gives fails a check. The first that applies is what
loading answers, and the last of them lists all checks that fail. Only a configuration that passes
every check is loaded.

The checks are stated here by the words that they are about, the characters of the name and the five
names of levels, and not by the functions that look for them.

* `isBlank_iff` — white space is what the standard lists as such;
* `Level.isSome_ofName?_iff` — a level is known if it is one of the five names but for the case of
  ASCII letters;
* `Config.problems_eq` — the problems are the checks that fail, in order;
* `Config.message_invalid` — a message that lists problems has all of them;
* `Config.parse_of_fits`, `Config.parse_of_not_fits`, `Config.parse_cases` — what comes of a text;
* `Config.verdict` — the main theorem.
-/

namespace KeyedBreakers

open KeyedBreakers.Text

namespace Text

/-- The code points with the Unicode property `White_Space`. -/
def whiteSpace : List Nat :=
  [0x09, 0x0A, 0x0B, 0x0C, 0x0D, 0x20, 0x85, 0xA0, 0x1680, 0x2000, 0x2001, 0x2002, 0x2003, 0x2004,
    0x2005, 0x2006, 0x2007, 0x2008, 0x2009, 0x200A, 0x2028, 0x2029, 0x202F, 0x205F, 0x3000]

theorem isBlank_iff {c : Char} : isBlank c = true ↔ c.toNat ∈ whiteSpace := by
  unfold isBlank whiteSpace
  simp only [Bool.or_eq_true, Bool.and_eq_true, decide_eq_true_eq, beq_iff_eq, List.mem_cons,
    List.not_mem_nil, or_false]
  omega

theorem allBlank_iff {text : String} :
    allBlank text = true ↔ ∀ c ∈ text.toList, c.toNat ∈ whiteSpace := by
  unfold allBlank
  rw [List.all_eq_true]
  exact forall₂_congr fun c _ => isBlank_iff

/-- Joining texts with a mark is joining their characters. -/
theorem joinWith_eq_intercalate (mark : List Char) (parts : List (List Char)) :
    joinWith mark parts = mark.intercalate parts := by
  induction parts with
  | nil => rfl
  | cons p parts ih =>
    cases parts with
    | nil => simp [joinWith]
    | cons q parts => rw [joinWith, ih, List.intercalate_cons_cons]

end Text

/-! ### The checks -/

/-- The names that a level of the log can have. -/
def levelNames : List String := ["trace", "debug", "info", "warn", "error"]

theorem Level.isSome_ofName?_iff {text : String} :
    (Level.ofName? text).isSome = true ↔ text.toLower ∈ levelNames := by
  have h_spelled : ∀ level : Level, level.name.toList = text.toList.map Char.toLower ↔
      level.name = text.toLower := by
    intro level
    have h_lower : text.toLower = text.map Char.toLower := rfl
    rw [← String.toList_inj, h_lower, String.toList_map]
  unfold Level.ofName?
  simp only [List.find?_isSome, decide_eq_true_eq, h_spelled]
  constructor
  · rintro ⟨level, -, h_name⟩
    rw [← h_name]
    cases level <;> decide
  · intro h_mem
    -- each of the names is that of a level
    have h_names : ∀ name ∈ levelNames, ∃ level ∈ Level.all, level.name = name := by decide
    exact h_names _ h_mem

/-- The checks that a configuration fails. -/
def Config.Fails (c : Config) : Problem → Prop
  | .emptyName => ∀ ch ∈ c.name.toList, ch.toNat ∈ whiteSpace
  | .unknownLogLevel level => level.toLower ∉ levelNames

instance (c : Config) : DecidablePred c.Fails
  | .emptyName => inferInstanceAs (Decidable (∀ ch ∈ c.name.toList, ch.toNat ∈ whiteSpace))
  | .unknownLogLevel level => inferInstanceAs (Decidable (level.toLower ∉ levelNames))

/-- All that is checked of a configuration, in order; a level that is complained of is told as it was
spelled. -/
def Config.checks (c : Config) : List Problem := [.emptyName, .unknownLogLevel c.telemetry.logLevel]

/-- **The problems are the checks that fail**, in order. -/
theorem Config.problems_eq (c : Config) : c.problems = c.checks.filter (c.Fails ·) := by
  have h_name : c.Fails .emptyName ↔ allBlank c.name = true := allBlank_iff.symm
  have h_level : c.Fails (.unknownLogLevel c.telemetry.logLevel) ↔
      ¬ (Level.ofName? c.telemetry.logLevel).isSome = true := by
    rw [Level.isSome_ofName?_iff]
    rfl
  unfold Config.problems Config.checks
  simp only [List.filter_cons, List.filter_nil, h_name, h_level, decide_eq_true_eq]
  split <;> split <;> simp_all

/-- A no-break space is white space, and a level is told as it was spelled. -/
example : ({ name := "\u00A0 ", telemetry := { logLevel := "Chatty" } } : Config).problems
    = [.emptyName, .unknownLogLevel "Chatty"] := by decide

/-- A configuration without problems has a name that shows and a level that is known. -/
theorem Config.problems_eq_nil_iff {c : Config} : c.problems = [] ↔
    (∃ ch ∈ c.name.toList, ch.toNat ∉ whiteSpace) ∧ c.telemetry.logLevel.toLower ∈ levelNames := by
  have h_name : ¬ c.Fails .emptyName ↔ ∃ ch ∈ c.name.toList, ch.toNat ∉ whiteSpace := by
    simp only [Config.Fails, not_forall, exists_prop]
  have h_level : ¬ c.Fails (.unknownLogLevel c.telemetry.logLevel) ↔
      c.telemetry.logLevel.toLower ∈ levelNames := not_not
  rw [Config.problems_eq, List.filter_eq_nil_iff, ← h_name, ← h_level]
  simp only [Config.checks, List.forall_mem_cons, decide_eq_true_eq, List.not_mem_nil,
    false_imp_iff, implies_true, and_true]

/-- The message lists what is said of each problem. -/
theorem Config.message_invalid (problems : List Problem) :
    (ConfigError.invalid problems).message
      = "Validation failed: " ++ ", ".intercalate (problems.map Problem.message) := by
  have h_mark : ", ".toList = [',', ' '] := by simp
  have h_message : (ConfigError.invalid problems).message = "Validation failed: " ++
      String.ofList (joinWith [',', ' '] (problems.map fun p => p.message.toList)) := rfl
  have h_joined : String.ofList (joinWith [',', ' '] (problems.map fun p => p.message.toList))
      = ", ".intercalate (problems.map Problem.message) := by
    rw [← String.toList_inj, String.toList_ofList, joinWith_eq_intercalate,
      String.toList_intercalate, h_mark, List.map_map]
    rfl
  rw [h_message, h_joined]

/-! ### Texts -/

namespace Config

/-- The text is a TOML document that fits the form of a configuration and gives `c`. -/
def Fits (text : String) (c : Config) : Prop :=
  ∃ root, Toml.parse? text = some root ∧ ofToml root = .ok c

variable {text : String} {c : Config}

/-- What a text gives is checked, and nothing else happens to it. -/
theorem parse_of_fits (h : Fits text c) : parse text = c.check := by
  obtain ⟨root, h_root, h_c⟩ := h
  unfold parse
  simp only [h_root, h_c]

/-- A text that gives no configuration is complained of as such. -/
theorem parse_of_not_fits (h : ∀ c, ¬ Fits text c) :
    parse text = .error .notToml ∨ ∃ cause, parse text = .error (.unfit cause) := by
  cases h_root : Toml.parse? text with
  | none =>
    left
    unfold parse
    simp only [h_root]
  | some root =>
    cases h_c : ofToml root with
    | error cause =>
      right
      refine ⟨cause, ?_⟩
      unfold parse
      simp only [h_root, h_c]
    | ok c => exact absurd ⟨root, h_root, h_c⟩ (h c)

/-- A text gives a configuration, and that is checked; or it gives none, and is complained of. -/
theorem parse_cases (text : String) :
    (∃ c, Fits text c ∧ parse text = c.check) ∨
      parse text = .error .notToml ∨ ∃ cause, parse text = .error (.unfit cause) := by
  by_cases h_fits : ∃ c, Fits text c
  · obtain ⟨c, h_c⟩ := h_fits
    exact .inl ⟨c, h_c, parse_of_fits h_c⟩
  · exact .inr (parse_of_not_fits (not_exists.1 h_fits))

theorem check_eq_ok_iff {c' : Config} : c.check = .ok c' ↔ c = c' ∧ c.problems = [] := by
  unfold check
  split
  · next h_none => simp [h_none]
  · next h_some => simp [h_some]

theorem check_eq_invalid_iff {problems : List Problem} :
    c.check = .error (.invalid problems) ↔ problems = c.problems ∧ problems ≠ [] := by
  unfold check
  split
  · next h_none => simp [h_none]
  · next h_some =>
    simp only [Except.error.injEq, ConfigError.invalid.injEq]
    constructor
    · rintro rfl
      exact ⟨rfl, h_some⟩
    · rintro ⟨rfl, -⟩
      rfl

/-- A configuration is what a text gives that has no problems. -/
theorem parse_eq_ok_iff : parse text = .ok c ↔ Fits text c ∧ c.problems = [] := by
  constructor
  · intro h_parse
    rcases parse_cases text with ⟨c', h_fits, h_check⟩ | h_fail | ⟨cause, h_fail⟩
    · rw [h_check, check_eq_ok_iff] at h_parse
      obtain ⟨rfl, h_none⟩ := h_parse
      exact ⟨h_fits, h_none⟩
    · simp [h_fail] at h_parse
    · simp [h_fail] at h_parse
  · rintro ⟨h_fits, h_none⟩
    rw [parse_of_fits h_fits, check_eq_ok_iff]
    exact ⟨rfl, h_none⟩

/-- Problems are those of the configuration that a text gives. -/
theorem parse_eq_invalid_iff {problems : List Problem} :
    parse text = .error (.invalid problems) ↔
      ∃ c, Fits text c ∧ problems = c.problems ∧ problems ≠ [] := by
  constructor
  · intro h_parse
    rcases parse_cases text with ⟨c, h_fits, h_check⟩ | h_fail | ⟨cause, h_fail⟩
    · rw [h_check, check_eq_invalid_iff] at h_parse
      exact ⟨c, h_fits, h_parse⟩
    · simp [h_fail] at h_parse
    · simp [h_fail] at h_parse
  · rintro ⟨c, h_fits, h_problems⟩
    rw [parse_of_fits h_fits, check_eq_invalid_iff]
    exact h_problems

/-! ### Files -/

/-- The bytes of a text are read back as the text. -/
theorem load_bytes_utf8Encode (cs : List Char) :
    load (.bytes cs.utf8Encode) = parse (String.ofList cs) := by
  have h_text : (FileContent.bytes cs.utf8Encode).text = .ok (String.ofList cs) := by
    unfold FileContent.text String.fromUTF8?
    simp only [dif_pos (ByteArray.IsValidUTF8.intro cs rfl)]
    rfl
  unfold load
  rw [h_text]

/-- Bytes that no text has are refused before anything is read in them. -/
theorem load_bytes_of_invalid {data : ByteArray} (h : ∀ cs : List Char, data ≠ cs.utf8Encode) :
    load (.bytes data) = .error (.unreadable .notUtf8) := by
  have h_invalid : ¬ data.IsValidUTF8 := by
    rintro ⟨cs, h_data⟩
    exact h cs h_data
  have h_text : (FileContent.bytes data).text = .error .notUtf8 := by
    unfold FileContent.text String.fromUTF8?
    simp only [dif_neg h_invalid]
  unfold load
  rw [h_text]

/-- No text is unreadable. -/
theorem parse_ne_unreadable (text : String) (cause : ReadError) :
    parse text ≠ .error (.unreadable cause) := by
  intro h_parse
  rcases parse_cases text with ⟨c, -, h_check⟩ | h_fail | ⟨cause, h_fail⟩
  · -- a check is passed, or it says what is invalid
    rw [h_check, check] at h_parse
    split at h_parse <;> simp at h_parse
  · simp [h_fail] at h_parse
  · simp [h_fail] at h_parse

/-! ### The verdict -/

/-- **Loading a configuration has one verdict, and it is the right one.** A text gives a configuration
if it is a document that fits, its name has a character that is not white space, and its level is known
but for the case of ASCII letters. If it fits and fails a check, the answer lists the checks that fail,
all of them, in order; the message says so of each. If it does not fit, nothing is checked. A file is
treated as the text that its bytes are, and if they are no text, nothing else about them matters. -/
theorem verdict (text : String) (data : ByteArray) :
    (∀ c, parse text = .ok c ↔ Fits text c ∧ (∃ ch ∈ c.name.toList, ch.toNat ∉ whiteSpace) ∧
      c.telemetry.logLevel.toLower ∈ levelNames) ∧
    (∀ problems, parse text = .error (.invalid problems) ↔
      ∃ c, Fits text c ∧ problems = c.checks.filter (c.Fails ·) ∧ problems ≠ []) ∧
    (∀ problems, (ConfigError.invalid problems).message
      = "Validation failed: " ++ ", ".intercalate (problems.map Problem.message)) ∧
    ((parse text = .error .notToml ∨ ∃ cause, parse text = .error (.unfit cause)) ↔
      ∀ c, ¬ Fits text c) ∧
    (∀ cs : List Char, load (.bytes cs.utf8Encode) = parse (String.ofList cs)) ∧
    (load (.bytes data) = .error (.unreadable .notUtf8) ↔ ∀ cs : List Char, data ≠ cs.utf8Encode) := by
  refine ⟨fun c => ?_, fun problems => ?_, message_invalid, ⟨fun h_parse => ?_, parse_of_not_fits⟩,
    load_bytes_utf8Encode, ⟨fun h_load cs h_data => ?_, load_bytes_of_invalid⟩⟩
  · rw [parse_eq_ok_iff, problems_eq_nil_iff]
  · simp only [parse_eq_invalid_iff, problems_eq]
  · intro c h_fits
    rw [parse_of_fits h_fits, check] at h_parse
    split at h_parse <;> simp at h_parse
  · rw [h_data, load_bytes_utf8Encode] at h_load
    exact parse_ne_unreadable _ _ h_load

end Config

end KeyedBreakers
