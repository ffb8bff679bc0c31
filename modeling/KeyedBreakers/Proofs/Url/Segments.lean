import KeyedBreakers.Proofs.Url.Encoding
import KeyedBreakers.Proofs.Url.Refusal
import KeyedBreakers.Url.Path

/-!
# Segments in normal form

A path is read segment by segment: each is encoded, and those that stand for the place itself or for
the place above are gone through. What is left neither needs encoding nor moves, so that reading it
once more leads to the same place. Only a drive at the head of the path of a file could be taken for
something else.

* `Path.IsSegment` — a segment that stands in a path as it is;
* `Path.IsNormal`, `Path.exists_isNormal_resolve` — every path that is read is in normal form;
* `Path.resolve_joinWith` — a path in normal form leads to itself.
-/

namespace KeyedBreakers.Url

open KeyedBreakers.Text

/-! ### Dots -/

namespace Path

/-- A spelling of a dot at the head of an encoded text is there before encoding. -/
theorem exists_of_encode_eq_append {cs dot rest : List Char} (h_dot : isDot dot = true)
    (h : encode EncodeSet.path cs = dot ++ rest) :
    ∃ cs', cs = dot ++ cs' ∧ encode EncodeSet.path cs' = rest := by
  simp only [isDot, Bool.or_eq_true, beq_iff_eq, or_assoc] at h_dot
  rcases h_dot with rfl | h_percent
  · exact exists_of_encode_eq_cons (by decide) h
  · obtain ⟨e, rfl, h_e⟩ : ∃ e, dot = ['%', '2', e] ∧ (e = 'e' ∨ e = 'E') := by
      rcases h_percent with rfl | rfl
      · exact ⟨'e', rfl, .inl rfl⟩
      · exact ⟨'E', rfl, .inr rfl⟩
    have h_ne : e ≠ '%' := by
      rcases h_e with rfl | rfl <;> decide
    cases cs with
    | nil => cases h
    | cons c cs =>
      rw [encode_cons] at h
      rcases encodeChar_cases EncodeSet.path c with h_c | ⟨h_escaped, b, bs, h_bytes, h_c⟩
      · -- the percent sign is written, and so are the two characters behind it
        rw [h_c] at h
        obtain rfl := (List.cons.inj h).1
        have h₀ : encode EncodeSet.path cs = '2' :: e :: rest := (List.cons.inj h).2
        obtain ⟨cs₁, rfl, h₁⟩ := exists_of_encode_eq_cons (by decide) h₀
        obtain ⟨cs₂, rfl, h₂⟩ := exists_of_encode_eq_cons h_ne h₁
        exact ⟨cs₂, rfl, h₂⟩
      · -- the escape of a dot is never written, since a dot is not encoded
        exfalso
        rw [h_c] at h
        simp only [percentByte, List.cons_append, List.nil_append, List.cons.injEq] at h
        obtain ⟨-, h_high, h_low, -⟩ := h
        have h_b : b.toNat = 0x2E := by
          have h_lt := b.toNat_lt
          have h_two : ∀ d < 16, capitalHexDigit d = '2' → d = 2 := by decide
          have h_letter : ∀ d < 16, (capitalHexDigit d = 'e' ∨ capitalHexDigit d = 'E') → d = 14 := by
            decide
          have h_high := h_two (b.toNat / 16) (by omega) h_high
          have h_low := h_letter (b.toNat % 16) (by omega) (h_low ▸ h_e)
          omega
        have h_toNat := toNat_eq_of_mem_utf8EncodeChar (by omega)
          (show b ∈ String.utf8EncodeChar c by rw [h_bytes]; exact List.mem_cons_self)
        obtain rfl : c = '.' := Char.toNat_inj.1 (h_toNat.trans h_b)
        exact h_escaped (by decide)

/-- A segment stands for the place above if it is two spellings of a dot. -/
theorem isDoubleDot_iff {text : List Char} :
    isDoubleDot text = true ↔ ∃ dot rest, text = dot ++ rest ∧ isDot dot = true ∧
      isDot rest = true := by
  constructor
  · intro h
    unfold isDoubleDot at h
    split at h
    · next rest => exact ⟨['.'], rest, rfl, rfl, h⟩
    · next e rest =>
      rw [Bool.and_eq_true, Bool.or_eq_true, beq_iff_eq, beq_iff_eq] at h
      refine ⟨['%', '2', e], rest, rfl, ?_, h.2⟩
      rcases h.1 with rfl | rfl <;> rfl
    · cases h
  · rintro ⟨dot, rest, rfl, h_dot, h_rest⟩
    simp only [isDot, Bool.or_eq_true, beq_iff_eq, or_assoc] at h_dot
    rcases h_dot with rfl | rfl | rfl <;> exact h_rest

/-- Encoding makes no dot. -/
theorem isDot_of_isDot_encode {text : List Char} (h : isDot (encode EncodeSet.path text) = true) :
    isDot text = true := by
  obtain ⟨rest, h_text, h_rest⟩ := exists_of_encode_eq_append h (List.append_nil _).symm
  obtain rfl := encode_eq_nil h_rest
  rw [List.append_nil] at h_text
  rwa [← h_text] at h

/-- Encoding makes no two dots. -/
theorem isDoubleDot_of_isDoubleDot_encode {text : List Char}
    (h : isDoubleDot (encode EncodeSet.path text) = true) : isDoubleDot text = true := by
  obtain ⟨dot, dot', h_text, h_dot, h_dot'⟩ := isDoubleDot_iff.1 h
  obtain ⟨rest, rfl, h_rest⟩ := exists_of_encode_eq_append h_dot h_text
  rw [← h_rest] at h_dot'
  exact isDoubleDot_iff.2 ⟨dot, rest, rfl, h_dot, isDot_of_isDot_encode h_dot'⟩

/-! ### Segments -/

/-- A segment that stands in a path as it is. -/
structure IsSegment (kind : SchemeKind) (text : List Char) : Prop where
  encoded : IsEncoded EncodeSet.path text
  whole : ∀ c ∈ text, kind.isSlash c = false
  here : isDot text = false
  above : isDoubleDot text = false

theorem isSegment_nil (kind : SchemeKind) : IsSegment kind [] where
  encoded := nofun
  whole := nofun
  here := rfl
  above := rfl

theorem isEncoded_encode_path (cs : List Char) :
    IsEncoded EncodeSet.path (encode EncodeSet.path cs) :=
  isEncoded_encode (by decide) (by decide) cs

/-- No escape is a slash. -/
theorem isSlash_of_mem_encode {kind : SchemeKind} {text : List Char}
    (h : ∀ c ∈ text, kind.isSlash c = false) :
    ∀ c ∈ encode EncodeSet.path text, kind.isSlash c = false := by
  intro c h_c
  rcases mem_encode h_c with h_c | rfl | h_digit
  · exact h c h_c
  · cases kind <;> rfl
  · have h_free := Host.isForbidden_of_isHexDigit h_digit
    simp only [Host.isForbidden, Bool.or_eq_false_iff] at h_free
    simp only [SchemeKind.isSlash, h_free, Bool.and_false, Bool.or_self]

theorem isSegment_encode {kind : SchemeKind} {text : List Char}
    (h_whole : ∀ c ∈ text, kind.isSlash c = false) (h_here : isDot text = false)
    (h_above : isDoubleDot text = false) : IsSegment kind (encode EncodeSet.path text) where
  encoded := isEncoded_encode_path text
  whole := isSlash_of_mem_encode h_whole
  here := Bool.eq_false_iff.2 fun h => by rw [isDot_of_isDot_encode h] at h_here; cases h_here
  above := Bool.eq_false_iff.2 fun h => by
    rw [isDoubleDot_of_isDoubleDot_encode h] at h_above
    cases h_above

/-- The segment of a drive. -/
theorem isSegment_drive {kind : SchemeKind} {text : List Char} (h : isDrive text = true) :
    IsSegment kind [text.headD ' ', ':'] := by
  obtain ⟨letter, mark, rfl, h_letter⟩ : ∃ letter mark, text = [letter, mark] ∧
      letter.isAlpha = true := by
    unfold isDrive at h
    split at h
    · next letter mark => exact ⟨letter, mark, rfl, (Bool.and_eq_true_iff.1 h).1⟩
    · cases h
  have h_ascii := toNat_lt_of_isAlphanum (Bool.or_eq_true_iff.2 (.inl h_letter))
  have h_free : EncodeSet.path letter = false ∧ letter ≠ '/' ∧ letter ≠ '\\' ∧ letter ≠ '.' ∧
      letter ≠ '%' :=
    forall_ascii (P := fun c => c.isAlpha = true → EncodeSet.path c = false ∧ c ≠ '/' ∧ c ≠ '\\' ∧
      c ≠ '.' ∧ c ≠ '%') (by decide) h_ascii h_letter
  obtain ⟨h_set, h_slash, h_backslash, h_point, h_percent⟩ := h_free
  refine ⟨?_, ?_, ?_, ?_⟩
  · exact List.forall_mem_cons.2 ⟨⟨h_ascii, h_set⟩, List.forall_mem_singleton.2 (by decide)⟩
  · refine List.forall_mem_cons.2 ⟨?_, List.forall_mem_singleton.2 ?_⟩
    · simp [SchemeKind.isSlash, h_slash, h_backslash]
    · cases kind <;> rfl
  · simp [isDot]
  · unfold isDoubleDot
    split
    · next h_eq => exact absurd (List.cons.inj h_eq).1 h_point
    · next h_eq => exact absurd (List.cons.inj h_eq).1 h_percent
    · rfl

/-! ### Going through a path -/

variable {kind : SchemeKind}

theorem mem_above {done : List (List Char)} {name : List Char} (h : name ∈ above done) :
    name ∈ done := by
  unfold above at h
  split at h
  · split at h
    · exact h
    · exact List.dropLast_subset done h
  · exact h

theorem isSegment_enter {done : List (List Char)} {segment : List Char}
    (h_done : ∀ name ∈ done, IsSegment kind name) (h_whole : ∀ c ∈ segment, kind.isSlash c = false)
    (h_here : isDot segment = false) (h_above : isDoubleDot segment = false) :
    ∀ name ∈ (enter kind done segment).1, IsSegment kind name := by
  intro name h_name
  unfold enter at h_name
  split at h_name
  · next h_drive =>
    obtain rfl := List.mem_singleton.1 h_name
    exact isSegment_drive h_drive.2.2
  · rcases List.mem_append.1 h_name with h_name | h_name
    · exact h_done name h_name
    · obtain rfl := List.mem_singleton.1 h_name
      exact isSegment_encode h_whole h_here h_above

/-- A walk leads to segments that stand as they are. -/
theorem isSegment_walk {done written : List (List Char)}
    (h_done : ∀ name ∈ done, IsSegment kind name)
    (h_written : ∀ segment ∈ written, ∀ c ∈ segment, kind.isSlash c = false) :
    ∀ name ∈ (walk kind done written).1, IsSegment kind name := by
  -- a path that ends at a place has an empty segment there
  have h_concat : ∀ {names : List (List Char)}, (∀ name ∈ names, IsSegment kind name) →
      ∀ name ∈ names ++ [[]], IsSegment kind name := by
    intro names h_names name h_name
    rcases List.mem_append.1 h_name with h_name | h_name
    · exact h_names name h_name
    · obtain rfl := List.mem_singleton.1 h_name
      exact isSegment_nil kind
  fun_induction walk kind done written with
  | case1 done => exact h_done
  | case2 done last h_above => exact h_concat fun name h_name => h_done name (mem_above h_name)
  | case3 done last h_above h_here => exact h_concat h_done
  | case4 done last h_above h_here =>
    exact isSegment_enter h_done (h_written last List.mem_cons_self) (Bool.eq_false_iff.2 h_here)
      (Bool.eq_false_iff.2 h_above)
  | case5 done segment rest h_rest h_above ih =>
    exact ih (fun name h_name => h_done name (mem_above h_name))
      fun s h_s => h_written s (List.mem_cons_of_mem _ h_s)
  | case6 done segment rest h_rest h_above h_here ih =>
    exact ih h_done fun s h_s => h_written s (List.mem_cons_of_mem _ h_s)
  | case7 done segment rest h_rest h_above h_here entered drive h_enter final laterDrive h_walk ih =>
    rw [h_walk] at ih
    refine ih ?_ fun s h_s => h_written s (List.mem_cons_of_mem _ h_s)
    have h_entered := isSegment_enter h_done (h_written segment List.mem_cons_self)
      (Bool.eq_false_iff.2 h_here) (Bool.eq_false_iff.2 h_above)
    rwa [h_enter] at h_entered

/-- A written path leads somewhere. -/
theorem walk_ne_nil {done written : List (List Char)} (h : written ≠ []) :
    (walk kind done written).1 ≠ [] := by
  have h_enter : ∀ done segment, (enter kind done segment).1 ≠ [] := by
    intro done segment
    unfold enter
    split
    · exact List.cons_ne_nil _ _
    · exact List.append_ne_nil_of_right_ne_nil _ (List.cons_ne_nil _ _)
  fun_induction walk kind done written with
  | case1 done => exact absurd rfl h
  | case2 done last h_above => exact List.append_ne_nil_of_right_ne_nil _ (List.cons_ne_nil _ _)
  | case3 done last h_above h_here =>
    exact List.append_ne_nil_of_right_ne_nil _ (List.cons_ne_nil _ _)
  | case4 done last h_above h_here => exact h_enter done last
  | case5 done segment rest h_rest h_above ih => exact ih h_rest
  | case6 done segment rest h_rest h_above h_here ih => exact ih h_rest
  | case7 done segment rest h_rest h_above h_here entered drive h_enter final laterDrive h_walk ih =>
    rw [h_walk] at ih
    exact ih h_rest

/-- **A walk along segments in normal form adds them one by one**, unless the first is taken for a
drive. -/
theorem walk_of_isSegment {done names : List (List Char)} (h_ne : names ≠ [])
    (h_names : ∀ name ∈ names, IsSegment kind name)
    (h_drive : kind = .file → done = [] → ∀ name ∈ names.head?, isDrive name = false) :
    walk kind done names = (done ++ names, false) := by
  -- only the first segment can be a drive: behind it the walk has somewhere to be
  induction names generalizing done with
  | nil => exact absurd rfl h_ne
  | cons name names ih =>
    have h_name := h_names name List.mem_cons_self
    have h_enter : enter kind done name = (done ++ [name], false) := by
      unfold enter
      rw [if_neg, encode_eq_self h_name.encoded]
      rintro ⟨h_kind, h_done, h_eq⟩
      rw [h_drive h_kind h_done name rfl] at h_eq
      cases h_eq
    cases names with
    | nil =>
      unfold walk
      rw [if_neg (by simp [h_name.above]), if_neg (by simp [h_name.here]), h_enter]
    | cons next names =>
      have h_rest : walk kind (done ++ [name]) (next :: names)
          = ((done ++ [name]) ++ next :: names, false) :=
        ih (List.cons_ne_nil _ _) (fun s h_s => h_names s (List.mem_cons_of_mem _ h_s))
          fun _ h_nil => absurd h_nil (by simp)
      unfold walk
      rw [if_neg (by simp [h_name.above]), if_neg (by simp [h_name.here]), h_enter]
      dsimp only
      rw [h_rest]
      simp

/-! ### Empty segments at the head -/

theorem mem_dropEmptyHead {names : List (List Char)} {name : List Char}
    (h : name ∈ dropEmptyHead names) : name ∈ names := by
  fun_induction dropEmptyHead names with
  | case1 next rest ih => exact List.mem_cons_of_mem _ (ih h)
  | case2 names h_names => exact h

theorem dropEmptyHead_ne_nil {names : List (List Char)} (h : names ≠ []) :
    dropEmptyHead names ≠ [] := by
  fun_induction dropEmptyHead names with
  | case1 next rest ih => exact ih (List.cons_ne_nil _ _)
  | case2 names h_names => exact h

theorem dropEmptyHead_idem (names : List (List Char)) :
    dropEmptyHead (dropEmptyHead names) = dropEmptyHead names := by
  fun_induction dropEmptyHead names with
  | case1 next rest ih => exact ih
  | case2 names h_names => rw [dropEmptyHead]; exact h_names

/-! ### Whole paths -/

/-- Segments that are a path in normal form. -/
structure IsNormal (kind : SchemeKind) (names : List (List Char)) : Prop where
  segments : ∀ name ∈ names, IsSegment kind name
  dense : kind = .file → dropEmptyHead names = names

theorem isNormal_nil (kind : SchemeKind) : IsNormal kind [] where
  segments := nofun
  dense _ := rfl

/-- **Every path that is read is in normal form.** -/
theorem exists_isNormal_resolve (kind : SchemeKind) (text : List Char) :
    ∃ names, names ≠ [] ∧ IsNormal kind names ∧
      (resolve kind text).1 = .segments (names.map String.ofList) := by
  have h_walk : ∀ name ∈ (walk kind [] (piecesBy kind.isSlash text)).1, IsSegment kind name :=
    isSegment_walk nofun fun _ h_segment _ h_c => eq_false_of_mem_piecesBy h_segment h_c
  have h_ne : (walk kind [] (piecesBy kind.isSlash text)).1 ≠ [] := walk_ne_nil (piecesBy_ne_nil _ _)
  unfold resolve
  generalize walk kind [] (piecesBy kind.isSlash text) = walked at h_walk h_ne
  obtain ⟨done, drive⟩ := walked
  by_cases h_kind : kind = .file
  · refine ⟨dropEmptyHead done, dropEmptyHead_ne_nil h_ne, ⟨?_, ?_⟩, ?_⟩
    · exact fun name h_name => h_walk name (mem_dropEmptyHead h_name)
    · exact fun _ => dropEmptyHead_idem done
    · dsimp only
      rw [if_pos h_kind]
  · refine ⟨done, h_ne, ⟨h_walk, fun h => absurd h h_kind⟩, ?_⟩
    dsimp only
    rw [if_neg h_kind]

/-- **A path in normal form leads to itself**, unless it starts with a drive. -/
theorem resolve_joinWith {names : List (List Char)} (h_ne : names ≠ []) (h : IsNormal kind names)
    (h_drive : kind = .file → ∀ name ∈ names.head?, isDrive name = false) :
    resolve kind (joinWith ['/'] names) = (.segments (names.map String.ofList), false) := by
  have h_slash : kind.isSlash '/' = true := rfl
  unfold resolve
  rw [piecesBy_joinWith h_slash h_ne fun name h_name => (h.segments name h_name).whole,
    walk_of_isSegment h_ne h.segments fun h_kind _ => h_drive h_kind]
  dsimp only
  rw [List.nil_append]
  split
  · next h_kind => rw [h.dense h_kind]
  · rfl

end Path

end KeyedBreakers.Url
