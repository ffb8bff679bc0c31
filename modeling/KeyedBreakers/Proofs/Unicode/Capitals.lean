import KeyedBreakers.Proofs.Unicode.Lasting

/-!
# Folded names have no capitals

Folding puts the letters of ASCII into small ones, and whatever else it writes has no capital letter of
ASCII either. Composing a text without capitals makes none: a composed character is outside ASCII, and
the characters it is made of are small. So what is in ASCII of a folded and composed name is its own
folding.

* `isCapital` — the capital letters of ASCII;
* `isCapital_of_mem_foldText?`, `isCapital_of_mem_compose` — none are left, and none are made;
* `foldText?_eq_self` — small ASCII text is its own folding.
-/

namespace KeyedBreakers.Unicode

open KeyedBreakers.Text

/-- A capital letter of ASCII. -/
def isCapital (c : Char) : Bool :=
  isCapitalCode c.toNat

theorem isCapital_of_not_ascii {c : Char} (h : 0x80 ≤ c.toNat) : isCapital c = false :=
  isCapitalCode_eq_false_iff.2 (.inr (by omega))

/-- A code point that is not the one of a capital letter makes none. -/
theorem isCapital_ofNat {n : Nat} (h : isCapitalCode n = false) : isCapital (Char.ofNat n) = false := by
  by_cases h_valid : n.isValidChar
  · have h_char : Char.ofNat n = Char.ofNatAux n h_valid := dif_pos h_valid
    rw [isCapital, h_char]
    exact h
  · have h_char : Char.ofNat n = Char.ofNat 0 := dif_neg h_valid
    rw [h_char]
    rfl

theorem isCapital_ofNat_of_lt {n : Nat} (h : 0x5A < n) : isCapital (Char.ofNat n) = false :=
  isCapital_ofNat (isCapitalCode_eq_false_iff.2 (.inr h))

/-! ### Folding -/

theorem isCapital_toLower {c : Char} (h : c.toNat < 0x80) : isCapital c.toLower = false :=
  forall_ascii (P := fun d => isCapital d.toLower = false) (by decide) h

theorem toLower_eq_self {c : Char} (h_ascii : c.toNat < 0x80) (h : isCapital c = false) :
    c.toLower = c :=
  forall_ascii (P := fun d => isCapital d = false → d.toLower = d) (by decide) h_ascii h

/-- A replacement brings no capital. -/
theorem isCapital_of_mem_foldIn {run : Run Folding} (h_run : isSmallReplacement run = true) {c d : Char}
    (h_c : isCapital c = false) (h_last : c.toNat ≤ run.last) (h_d : d ∈ foldIn run c) :
    isCapital d = false := by
  unfold isSmallReplacement at h_run
  unfold foldIn at h_d
  cases h_value : run.value with
  | onto codes =>
    rw [h_value] at h_run h_d
    obtain ⟨code, h_code, rfl⟩ := List.mem_map.1 h_d
    exact isCapital_ofNat (by simpa using List.all_eq_true.1 h_run code h_code)
  | inStep stride target =>
    simp only [h_value, Bool.or_eq_true, decide_eq_true_eq] at h_run h_d
    split at h_d
    · obtain rfl := List.mem_singleton.1 h_d
      refine isCapital_ofNat (isCapitalCode_eq_false_iff.2 ?_)
      omega
    · obtain rfl := List.mem_singleton.1 h_d
      exact h_c

theorem isCapital_of_mem_fold? {c d : Char} {part : List Char} (h_fold : fold? c = some part)
    (h_d : d ∈ part) : isCapital d = false := by
  unfold fold? at h_fold
  split at h_fold
  · next h_ascii =>
    cases h_fold
    obtain rfl := List.mem_singleton.1 h_d
    exact isCapital_toLower h_ascii
  · next h_high =>
    -- a character outside ASCII is no capital, whether it stays or is replaced
    have h_c : isCapital c = false := isCapital_of_not_ascii (Nat.not_lt.1 h_high)
    split at h_fold
    · cases h_fold
    · split at h_fold
      · cases h_fold
        cases h_d
      · split at h_fold
        · next run h_run =>
          cases h_fold
          obtain ⟨h_mem, -, h_last⟩ := RunTable.mem_of_search_eq_some h_run
          exact isCapital_of_mem_foldIn (isSmallReplacement_of_mem run h_mem) h_c h_last h_d
        · cases h_fold
          obtain rfl := List.mem_singleton.1 h_d
          exact h_c

/-- **Folded text has no capitals.** -/
theorem isCapital_of_mem_foldText? {cs folded : List Char} (h : foldText? cs = some folded) :
    ∀ c ∈ folded, isCapital c = false := by
  intro c h_c
  obtain ⟨parts, h_parts, rfl⟩ := Option.map_eq_some_iff.1 h
  obtain ⟨part, h_part, h_c⟩ := List.mem_flatten.1 h_c
  obtain ⟨d, -, h_d⟩ := exists_of_mem_of_mapM_eq_some h_parts h_part
  exact isCapital_of_mem_fold? h_d h_c

/-- **Small ASCII text is its own folding.** -/
theorem foldText?_eq_self {cs : List Char} (h : ∀ c ∈ cs, c.toNat < 0x80 ∧ isCapital c = false) :
    foldText? cs = some cs := by
  have h_fold : cs.mapM fold? = some (cs.map fun c => [c]) := by
    refine mapM_eq_some_map fun c h_c => ?_
    obtain ⟨h_ascii, h_small⟩ := h c h_c
    rw [fold?_of_ascii h_ascii, toLower_eq_self h_ascii h_small]
  rw [foldText?, h_fold, Option.map_some, ← List.flatMap_def, List.flatMap_singleton']

/-! ### Composing -/

/-- The letters of syllables are far beyond ASCII. -/
theorem isCapital_of_mem_syllableLetters {c : Char} {letters : List Char}
    (h : syllableLetters? c = some letters) : ∀ d ∈ letters, isCapital d = false := by
  have h_first : ∀ {first : Nat} (n : Nat), 0x5A < first → isCapital (Char.ofNat (first + n)) = false :=
    fun n h_lt => isCapital_ofNat_of_lt (Nat.lt_add_right n h_lt)
  unfold syllableLetters? at h
  split at h
  · obtain rfl := Option.some.inj h
    refine List.forall_mem_cons.2 ⟨h_first _ (by decide), List.forall_mem_cons.2
      ⟨h_first _ (by decide), ?_⟩⟩
    split
    · nofun
    · exact List.forall_mem_singleton.2 (h_first _ (by decide))
  · cases h

theorem isCapital_of_syllable? {a b c : Char} (h : syllable? a b = some c) : isCapital c = false := by
  unfold syllable? at h
  dsimp only at h
  split at h
  · obtain rfl := Option.some.inj h
    exact isCapital_ofNat_of_lt (Nat.lt_add_right _ (by decide))
  · split at h
    · next h_open =>
      obtain rfl := Option.some.inj h
      have h_a : 0x5A < a.toNat := Nat.lt_of_lt_of_le (by decide) h_open.1
      exact isCapital_ofNat_of_lt (Nat.lt_add_right _ h_a)
    · cases h

/-- No composed character is made of a capital. -/
theorem isCapitalCode_of_find?_compositions {c : Char} {codes : List Nat}
    (h : compositions.find? c = some codes) : ∀ code ∈ codes, isCapitalCode code = false := by
  obtain ⟨run, h_run, rfl⟩ := Option.map_eq_some_iff.1 h
  have h_row := isPlainComposition_of_mem run (RunTable.mem_of_search_eq_some h_run).1
  rw [isPlainComposition, Bool.and_eq_true, List.all_eq_true] at h_row
  intro code h_code
  have h_plain := h_row.2 code h_code
  rw [Bool.and_eq_true, Bool.not_eq_true'] at h_plain
  exact h_plain.2

/-- Taking a character apart once brings no capital. -/
theorem isCapital_of_mem_takeApart {again : Char → List Char} {found : Option (List Nat)} {c : Char}
    (h_again : ∀ b, isCapital b = false → ∀ d ∈ again b, isCapital d = false)
    (h_found : ∀ codes, found = some codes → ∀ code ∈ codes, isCapitalCode code = false)
    (h_c : isCapital c = false) : ∀ d ∈ takeApart again found c, isCapital d = false := by
  unfold takeApart
  split
  · next a b =>
    have h_codes := h_found [a, b] rfl
    have h_a : isCapital (Char.ofNat a) = false := isCapital_ofNat (h_codes a (.head _))
    have h_b : isCapital (Char.ofNat b) = false := isCapital_ofNat (h_codes b (.tail _ (.head _)))
    exact List.forall_mem_append.2 ⟨h_again _ h_a, List.forall_mem_singleton.2 h_b⟩
  · cases h_letters : syllableLetters? c with
    | none => exact List.forall_mem_singleton.2 h_c
    | some letters => exact isCapital_of_mem_syllableLetters h_letters

/-- Taking a character apart brings no capital. -/
theorem isCapital_of_mem_decomposeChar {depth : Nat} {c : Char} (h_c : isCapital c = false) :
    ∀ d ∈ decomposeChar depth c, isCapital d = false := by
  -- the first part of two is taken apart in turn
  induction depth generalizing c with
  | zero => exact List.forall_mem_singleton.2 h_c
  | succ depth ih =>
    exact isCapital_of_mem_takeApart (fun b h_b => ih h_b)
      (fun codes h_codes => isCapitalCode_of_find?_compositions h_codes) h_c

theorem mem_of_mem_orderMarks {c : Char} {cs : List Char} (h : c ∈ orderMarks cs) : c ∈ cs := by
  rw [orderMarks, List.mem_reverse] at h
  have h_nil : c ∈ [] → c ∈ cs := fun h_c => absurd h_c List.not_mem_nil
  refine List.foldlRecOn (motive := fun done => c ∈ done → c ∈ cs) cs _ h_nil ?_ h
  intro done ih d h_d h_mem
  split at h_mem
  · rcases List.mem_cons.1 h_mem with rfl | h_mem
    · exact h_d
    · exact ih h_mem
  · rcases mem_insertMark.1 h_mem with rfl | h_mem
    · exact h_d
    · exact ih h_mem

/-- No capital is a composed character. -/
theorem isCapital_of_pair? {a b c : Char} (h : pair? a b = some c) : isCapital c = false := by
  unfold pair? at h
  split at h
  · next composed h_syllable =>
    obtain rfl := Option.some.inj h
    exact isCapital_of_syllable? h_syllable
  · obtain ⟨run, h_run, rfl⟩ := Option.map_eq_some_iff.1 h
    have h_row := isPlainComposition_of_mem run (Array.mem_of_find?_eq_some h_run)
    rw [isPlainComposition, Bool.and_eq_true, decide_eq_true_eq] at h_row
    exact isCapital_ofNat_of_lt (by omega)

/-- One more character makes no capital. -/
theorem Composing.isCapital_of_mem_push {s : Composing} {c : Char} (h_c : isCapital c = false)
    (h : ∀ d ∈ s.reversed, isCapital d = false) : ∀ d ∈ (s.push c).reversed, isCapital d = false := by
  intro d h_d
  -- either the character disappears in a composed one, or it takes its place
  rcases s.push_cases c with ⟨b, composed, h_base, h_pair, h_push⟩ | h_push
  · rw [h_push] at h_d
    simp only [reversed, Option.toList_some, List.mem_append, List.mem_singleton] at h_d
    rcases h_d with (h_d | rfl) | h_d
    · exact h d (by simp [reversed, h_d])
    · exact isCapital_of_pair? h_pair
    · exact h d (by simp [reversed, h_d])
  · rcases (h_push d).1 h_d with rfl | h_d
    · exact h_c
    · exact h d h_d

/-- **Composing makes no capitals.** -/
theorem isCapital_of_mem_compose {cs : List Char} (h : ∀ c ∈ cs, isCapital c = false) :
    ∀ c ∈ compose cs, isCapital c = false := by
  unfold compose
  split
  · exact h
  · intro c h_c
    have h_start : ∀ d ∈ ({} : Composing).reversed, isCapital d = false :=
      fun d h_d => absurd h_d List.not_mem_nil
    refine List.foldlRecOn (motive := fun s : Composing => ∀ d ∈ s.reversed, isCapital d = false)
      _ _ h_start ?_ c (List.mem_reverse.1 h_c)
    intro s h_s d h_d
    obtain ⟨e, h_e, h_d⟩ := List.mem_flatMap.1 (mem_of_mem_orderMarks h_d)
    exact Composing.isCapital_of_mem_push (isCapital_of_mem_decomposeChar (h e h_e) d h_d) h_s

end KeyedBreakers.Unicode
