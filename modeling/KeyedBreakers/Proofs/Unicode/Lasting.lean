import KeyedBreakers.Proofs.Unicode.Rows

/-!
# Characters that no form of a name loses

Folding and composing replace characters, and a name that is refused for a character must still have
it after both. The controls, the space, the colon and the at sign are in this sense lasting: folding
leaves them, and no composed character is made of one. This cannot be said of all of ASCII, since
letters are composed with marks, and so are `<`, `=` and `>`.

* `isLasting` — the lasting characters;
* `mem_foldText?`, `mem_compose` — they stay.
-/

namespace KeyedBreakers.Unicode

open KeyedBreakers.Text

/-- The controls, the space, the colon and the at sign. -/
def isLasting (c : Char) : Bool :=
  c.toNat ≤ 0x20 || c == ':' || c == '@'

theorem toNat_of_isLasting {c : Char} (h : isLasting c = true) :
    c.toNat < 0x3C ∨ c.toNat = 0x40 := by
  simp only [isLasting, Bool.or_eq_true, decide_eq_true_eq, beq_iff_eq] at h
  rcases h with (h_le | rfl) | rfl
  · exact .inl (by omega)
  · exact .inl (by decide)
  · exact .inr (by decide)

theorem toNat_lt_of_isLasting {c : Char} (h : isLasting c = true) : c.toNat < 0x80 := by
  have h_c := toNat_of_isLasting h
  omega

/-- What holds of the lasting characters one by one. They are in ASCII, so there are few to go
through. -/
theorem forall_lasting {P : Char → Prop}
    (h : ∀ n < 0x80, isLasting (Char.ofNat n) = true → P (Char.ofNat n)) {c : Char}
    (h_c : isLasting c = true) : P c :=
  forall_ascii (P := fun d => isLasting d = true → P d) h (toNat_lt_of_isLasting h_c) h_c

/-- A fold that takes characters in one by one, and loses none, has every character of its list. -/
theorem foldl_of_mem {S : Type} {step : S → Char → S} {P : S → Prop} {c : Char}
    (h_step : ∀ s d, P s ∨ c = d → P (step s d)) {cs : List Char} {s : S} (h : P s ∨ c ∈ cs) :
    P (cs.foldl step s) := by
  induction cs generalizing s with
  | nil => simpa using h
  | cons d cs ih =>
    rw [List.mem_cons, ← or_assoc] at h
    exact ih (h.imp_left (h_step s d))

/-! ### Folding -/

theorem fold?_of_isLasting {c : Char} (h : isLasting c = true) : fold? c = some [c] := by
  have h_lower : c.toLower = c := forall_lasting (P := fun d => d.toLower = d) (by decide) h
  rw [fold?_of_ascii (toNat_lt_of_isLasting h), h_lower]

/-- Folding keeps a lasting character. -/
theorem mem_foldText? {c : Char} {cs folded : List Char} (h : isLasting c = true)
    (h_fold : foldText? cs = some folded) (h_mem : c ∈ cs) : c ∈ folded := by
  obtain ⟨parts, h_parts, rfl⟩ := Option.map_eq_some_iff.1 h_fold
  obtain ⟨part, h_part, h_c⟩ := exists_of_mapM_eq_some h_parts h_mem
  rw [fold?_of_isLasting h, Option.some_inj] at h_c
  exact List.mem_flatten.2 ⟨part, h_part, h_c ▸ List.mem_singleton_self c⟩

/-! ### Composing -/

theorem find?_compositions_of_ascii {c : Char} (h : c.toNat < 0x80) :
    compositions.find? c = none := by
  unfold RunTable.find?
  cases h_run : compositions.run? c.toNat with
  | none => rfl
  | some run =>
    obtain ⟨h_mem, h_first, -⟩ := RunTable.mem_of_search_eq_some h_run
    have h_row := isPlainComposition_of_mem run h_mem
    rw [isPlainComposition, Bool.and_eq_true, decide_eq_true_eq] at h_row
    omega

theorem decomposeChar_of_ascii {depth : Nat} {c : Char} (h : c.toNat < 0x80) :
    decomposeChar depth c = [c] := by
  cases depth with
  | zero => rfl
  | succ depth =>
    rw [decomposeChar, find?_compositions_of_ascii h]
    -- syllables are far beyond ASCII
    have h_syllable : ¬ (jamo.syllables ≤ c.toNat ∧ c.toNat < jamo.syllables + 19 * 21 * 28) := by
      intro h_range
      have h_le : 0xAC00 ≤ c.toNat := h_range.1
      omega
    rw [takeApart, syllableLetters?, if_neg h_syllable]
    · rfl
    · nofun

theorem mem_insertMark {c d : Char} {cs : List Char} : d ∈ insertMark c cs ↔ d = c ∨ d ∈ cs := by
  induction cs with
  | nil => simp [insertMark]
  | cons e cs ih =>
    rw [insertMark]
    split
    · rw [List.mem_cons, ih, List.mem_cons, or_left_comm]
    · rw [List.mem_cons]

/-- Ordering marks loses no character. -/
theorem mem_orderMarks {c : Char} {cs : List Char} (h : c ∈ cs) : c ∈ orderMarks cs := by
  refine List.mem_reverse.2 (foldl_of_mem (P := fun done => c ∈ done) ?_ (.inr h))
  intro done d h_mem
  split
  · exact List.mem_cons.2 h_mem.symm
  · exact mem_insertMark.2 h_mem.symm

/-- A lasting character makes no character with another. -/
theorem pair?_of_isLasting {a b : Char} (h : isLasting a = true ∨ isLasting b = true) :
    pair? a b = none := by
  have h_low : a.toNat < 0x80 ∨ b.toNat < 0x80 :=
    h.imp toNat_lt_of_isLasting toNat_lt_of_isLasting
  -- letters of syllables are not in ASCII
  have h_syllable : syllable? a b = none := by
    unfold syllable?
    have h_jamo : jamo = { } := rfl
    rw [h_jamo]
    dsimp only
    rw [if_neg (by omega), if_neg (by omega)]
  rw [pair?, h_syllable]
  dsimp only
  rw [Option.map_eq_none_iff, Array.find?_eq_none]
  -- a row made of the two characters would have the lasting one as a part
  intro run h_run h_value
  have h_row := isPlainComposition_of_mem run h_run
  rw [isPlainComposition, of_decide_eq_true h_value] at h_row
  simp only [List.all_cons, List.all_nil, Bool.and_true, Bool.and_eq_true, decide_eq_true_eq,
    bne_iff_ne] at h_row
  rcases h with h_a | h_b
  · have := toNat_of_isLasting h_a
    omega
  · have := toNat_of_isLasting h_b
    omega

/-- One more character combines with the base, or takes a place of its own. -/
theorem Composing.push_cases (s : Composing) (d : Char) :
    (∃ b composed, s.base = some b ∧ pair? b d = some composed ∧
      s.push d = { s with base := some composed }) ∨
    ∀ c, c ∈ (s.push d).reversed ↔ c = d ∨ c ∈ s.reversed := by
  unfold push
  split
  · next b h_base =>
    split
    · next composed h_pair =>
      split at h_pair
      · cases h_pair
      · exact .inl ⟨b, composed, h_base, h_pair, rfl⟩
    · refine .inr fun c => ?_
      split
      · simp [reversed]
      · simp [reversed]
  · next h_base =>
    refine .inr fun c => ?_
    split
    · simp [reversed]
    · simp only [reversed, List.mem_append, List.mem_cons]
      grind

/-- Composing keeps a lasting character that has been passed, and the one that comes next. -/
theorem Composing.mem_push {s : Composing} {c d : Char} (h : isLasting c = true)
    (h_mem : c ∈ s.reversed ∨ c = d) : c ∈ (s.push d).reversed := by
  rcases s.push_cases d with ⟨b, composed, h_base, h_pair, h_push⟩ | h_push
  · -- the base and the character that combined are not the lasting one
    have h_b : c ≠ b := by
      rintro rfl
      rw [pair?_of_isLasting (.inl h)] at h_pair
      cases h_pair
    have h_d : c ≠ d := by
      rintro rfl
      rw [pair?_of_isLasting (.inr h)] at h_pair
      cases h_pair
    have h_old := h_mem.resolve_right h_d
    rw [h_push]
    simp only [reversed, h_base, Option.toList_some, List.mem_append, List.mem_singleton] at h_old ⊢
    rcases h_old with (h_marks | h_eq) | h_done
    · exact .inl (.inl h_marks)
    · exact absurd h_eq h_b
    · exact .inr h_done
  · rw [h_push]
    exact h_mem.symm

/-- Composing keeps a lasting character. -/
theorem mem_compose {c : Char} {cs : List Char} (h : isLasting c = true) (h_mem : c ∈ cs) :
    c ∈ compose cs := by
  unfold compose
  split
  · exact h_mem
  · -- the character is its own decomposition, and no step of the composition loses it
    have h_decomposed : c ∈ decompose cs := by
      rw [decompose, List.mem_flatMap]
      refine ⟨c, h_mem, ?_⟩
      rw [decomposeChar_of_ascii (toNat_lt_of_isLasting h)]
      exact List.mem_singleton_self c
    exact List.mem_reverse.2 (foldl_of_mem (P := fun s : Composing => c ∈ s.reversed)
      (fun s d => Composing.mem_push h) (.inr (mem_orderMarks h_decomposed)))

end KeyedBreakers.Unicode
