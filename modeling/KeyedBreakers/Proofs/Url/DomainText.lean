import KeyedBreakers.Proofs.Unicode.Capitals
import KeyedBreakers.Url.Domain

/-!
# Domain names in ASCII are their own ASCII form

A name in ASCII can be brought into ASCII again, and nothing happens to it: folding and composing leave
it, it falls into the same labels, and each label with the mark stands for the label it was made of. The
last holds because a label is written with the mark only if it reads back; but a reader refuses a label
that is too long to be decoded, so the labels must not be that long.

* `Punycode.exists_digits_of_encode` — the two parts of an encoded label;
* `Label.ofText?_ascii` — a label is read back from its ASCII form;
* `toAscii?_ascii` — so is a name.
-/

namespace KeyedBreakers.Url

open KeyedBreakers.Text KeyedBreakers.Unicode

/-! ### Encoded labels -/

namespace Punycode

/-- A digit of a distance. -/
def IsDigit (c : Char) : Prop :=
  ∃ d < base, c = digitChar d

/-- What holds of the digits one by one. -/
theorem IsDigit.elim {P : Char → Prop} (h : ∀ d < 36, P (digitChar d)) {c : Char} (h_c : IsDigit c) :
    P c := by
  obtain ⟨d, h_d, rfl⟩ := h_c
  exact h d h_d

theorem isDigit_of_mem_distanceDigits {bias k q : Nat} {c : Char}
    (h : c ∈ distanceDigits bias k q) : IsDigit c := by
  fun_induction distanceDigits bias k q with
  | case1 k q t h_lt =>
    have h_t : t ≤ 26 := threshold_le k bias
    obtain rfl := List.mem_singleton.1 h
    exact ⟨q, Nat.lt_of_lt_of_le h_lt (Nat.le_trans h_t (by decide)), rfl⟩
  | case2 k q t h_lt ih =>
    rcases List.mem_cons.1 h with rfl | h_rest
    · have h_t : t ≤ 26 := threshold_le k bias
      have h_mod : (q - t) % (base - t) < base - t :=
        Nat.mod_lt _ (Nat.sub_pos_of_lt (Nat.lt_of_le_of_lt h_t (by decide)))
      exact ⟨_, by omega, rfl⟩
    · exact ih h_rest

/-- Only digits have been written. -/
def Writing.IsClean (s : Writing) : Prop :=
  ∀ c ∈ s.reversed, IsDigit c

theorem Writing.IsClean.pass {s : Writing} (h : s.IsClean) (code : Nat) (c : Char) :
    (s.pass code c).IsClean := by
  unfold Writing.pass
  split
  · exact h
  · split
    · intro d h_d
      rcases List.mem_append.1 h_d with h_d | h_d
      · exact isDigit_of_mem_distanceDigits (List.mem_reverse.1 h_d)
      · exact h d h_d
    · exact h

theorem Writing.IsClean.writeCodes {label : List Char} {codes : List Nat} {next : Nat} {s : Writing}
    (h : s.IsClean) : (writeCodes label codes next s).IsClean := by
  induction codes generalizing next s with
  | nil => exact h
  | cons code codes ih =>
    refine ih (s := { label.foldl (Writing.pass code) _ with distance := _ }) ?_
    exact List.foldlRecOn (motive := Writing.IsClean) label (Writing.pass code) h
      fun s h_s c _ => h_s.pass code c

/-- **The two parts of an encoded label**: its own characters in ASCII, and digits behind a hyphen. -/
theorem exists_digits_of_encode (label : List Char) :
    ∃ digits, (∀ c ∈ digits, IsDigit c) ∧
      ((label.filter (·.toNat < firstCode) = [] ∧ encode label = digits) ∨
        (label.filter (·.toNat < firstCode) ≠ [] ∧
          encode label = label.filter (·.toNat < firstCode) ++ '-' :: digits)) := by
  have h_clean : ∀ codes, (writeCodes label codes firstCode
      ⟨0, firstBias, (label.filter (·.toNat < firstCode)).length, true, []⟩).IsClean :=
    fun codes => Writing.IsClean.writeCodes fun c h_c => absurd h_c List.not_mem_nil
  unfold encode
  dsimp only
  refine ⟨_, fun c h_c => h_clean ((label.filter (firstCode ≤ ·.toNat)).foldl
    (fun ns c => insertCode c.toNat ns) []) c (List.mem_reverse.1 h_c), ?_⟩
  split
  · next h_nil => exact .inl ⟨h_nil, rfl⟩
  · next h_ne => exact .inr ⟨h_ne, rfl⟩

theorem of_mem_encode {label : List Char} {c : Char} (h : c ∈ encode label) :
    c ∈ label ∨ c = '-' ∨ IsDigit c := by
  obtain ⟨digits, h_digits, ⟨-, h_code⟩ | ⟨-, h_code⟩⟩ := exists_digits_of_encode label
  · rw [h_code] at h
    exact .inr (.inr (h_digits c h))
  · rw [h_code, List.mem_append, List.mem_cons] at h
    rcases h with h | rfl | h
    · exact .inl (List.mem_filter.1 h).1
    · exact .inr (.inl rfl)
    · exact .inr (.inr (h_digits c h))

/-- An encoded label that reads back as one outside ASCII ends with a digit. -/
theorem getLast?_encode {label : List Char} (h : decode? (encode label) = some label)
    (h_high : label.all (·.toNat < 0x80) = false) :
    encode label ≠ [] ∧ (encode label).getLast? ≠ some '-' := by
  have h_hyphen : ¬ IsDigit '-' := fun h_digit =>
    IsDigit.elim (P := fun c => c ≠ '-') (by decide) h_digit rfl
  obtain ⟨digits, h_digits, ⟨h_basic, h_code⟩ | ⟨h_basic, h_code⟩⟩ := exists_digits_of_encode label
  · constructor
    · intro h_nil
      -- no digits mean no label
      rw [h_nil] at h
      obtain rfl := Option.some.inj h
      cases h_high
    · intro h_last
      rw [h_code] at h_last
      exact h_hyphen (h_digits _ (List.mem_of_getLast? h_last))
  · rw [h_code] at h ⊢
    refine ⟨List.append_ne_nil_of_right_ne_nil _ (List.cons_ne_nil _ _), fun h_last => ?_⟩
    cases digits with
    | nil =>
      -- nothing behind the hyphen means that all characters are in front of it
      unfold decode? at h
      rw [cutLast?_append _ List.not_mem_nil] at h
      dsimp only at h
      rw [if_neg h_basic] at h
      have h_label : label.filter (·.toNat < firstCode) = label := Option.some.inj h
      have h_low : label.all (·.toNat < 0x80) = true := List.filter_eq_self.1 h_label |> List.all_eq_true.2
      rw [h_low] at h_high
      cases h_high
    | cons d ds =>
      rw [List.getLast?_append, List.getLast?_cons_cons] at h_last
      have h_some : (d :: ds).getLast? = some '-' := by
        rw [List.getLast?_eq_some_getLast (List.cons_ne_nil d ds)] at h_last ⊢
        exact h_last
      exact h_hyphen (h_digits _ (List.mem_of_getLast? h_some))

end Punycode

/-! ### Labels -/

namespace Label

/-- The characters of the ASCII form. -/
theorem of_mem_ascii {text : List Char} {label : Label} (h : ofText? text = some label) {c : Char}
    (h_c : c ∈ label.ascii) : c ∈ text ∨ c = '-' ∨ Punycode.IsDigit c := by
  have h_mark : ∀ c ∈ mark, c = '-' ∨ Punycode.IsDigit c := by
    simp only [mark, List.mem_cons, List.not_mem_nil, or_false]
    rintro c (rfl | rfl | rfl | rfl)
    · exact .inr ⟨23, by decide, by decide⟩
    · exact .inr ⟨13, by decide, by decide⟩
    · exact .inl rfl
    · exact .inl rfl
  rcases ofText?_cases h with h_same | ⟨-, -, -, rfl⟩
  · rw [h_same] at h_c
    exact .inl h_c
  · rcases List.mem_append.1 h_c with h_c | h_c
    · exact .inr (h_mark c h_c)
    · exact Punycode.of_mem_encode h_c

/-- **A label is read back from its ASCII form**, unless that is too long. -/
theorem ofText?_ascii {text : List Char} {label : Label} (h : ofText? text = some label)
    (h_point : '.' ∉ text) (h_ascii : ∀ c ∈ label.ascii, c.toNat < 0x80)
    (h_short : ∀ code, label.ascii = mark ++ code → code.length ≤ asciiLimit) :
    ofText? label.ascii = some label := by
  rcases ofText?_cases h with h_same | ⟨h_high, h_fits, h_back, rfl⟩
  · rw [h_same]
    exact h
  -- the code reads back as the label, which has been checked already
  · obtain ⟨h_ne, h_last⟩ := Punycode.getLast?_encode h_back h_high
    have h_length : ¬ asciiLimit < (Punycode.encode text).length := Nat.not_lt.2 (h_short _ rfl)
    have h_readable : ¬ (Punycode.encode text = [] ∨ (Punycode.encode text).getLast? = some '-' ∨
        asciiLimit < (Punycode.encode text).length) :=
      not_or.2 ⟨h_ne, not_or.2 ⟨h_last, h_length⟩⟩
    have h_shown : (fits text && !text.contains '.') = true := by
      rw [h_fits, List.contains_eq_mem, decide_eq_false h_point]
      rfl
    have h_all : (mark ++ Punycode.encode text).all (·.toNat < 0x80) = true :=
      List.all_eq_true.2 fun c h_c => decide_eq_true (h_ascii c h_c)
    unfold ofText?
    dsimp only
    rw [dropText?_append, h_all]
    dsimp only
    rw [if_pos rfl, ofMarked?, if_neg h_readable, h_back]
    show (if (fits text && !text.contains '.') = true then _ else none) = _
    rw [if_pos h_shown]

end Label

/-! ### Names -/

/-- A name falls into its labels. -/
theorem pieces_joinLabels {labels : List Label} (h_ne : labels ≠ [])
    (h_point : ∀ label ∈ labels, '.' ∉ label.ascii) :
    pieces '.' (joinLabels labels) = labels.map Label.ascii := by
  refine piecesBy_joinWith (decide_eq_true rfl) (by simpa using h_ne) fun p h_p c h_c => ?_
  obtain ⟨label, h_label, rfl⟩ := List.mem_map.1 h_p
  rw [decide_eq_false_iff_not]
  rintro rfl
  exact h_point label h_label h_c

/-- Text without capitals whose labels are in ASCII form already is its own ASCII form. -/
theorem toAscii?_joinLabels {labels : List Label} (h_ne : labels ≠ [])
    (h_small : ∀ c ∈ joinLabels labels, isCapital c = false)
    (h_point : ∀ label ∈ labels, '.' ∉ label.ascii)
    (h_labels : ∀ label ∈ labels, Label.ofText? label.ascii = some label)
    (h_directions : directionsAgree (labels.map Label.shown) = true)
    (h_chars : ∀ c ∈ joinLabels labels, isDomainChar c = true) :
    toAscii? (joinLabels labels) = some (joinLabels labels) := by
  have h_ascii : ∀ c ∈ joinLabels labels, c.toNat < 0x80 := fun c h_c =>
    of_decide_eq_true (Bool.and_eq_true_iff.1 (h_chars c h_c)).1
  have h_fold : foldText? (joinLabels labels) = some (joinLabels labels) :=
    foldText?_eq_self fun c h_c => ⟨h_ascii c h_c, h_small c h_c⟩
  have h_read : (labels.map Label.ascii).mapM Label.ofText? = some labels := by
    have h_each : labels.mapM (Label.ofText? ∘ Label.ascii) = some (labels.map id) :=
      mapM_eq_some_map h_labels
    rw [List.mapM_map, h_each, List.map_id]
  have h_all : (joinLabels labels).all isDomainChar = true := List.all_eq_true.2 h_chars
  unfold toAscii?
  rw [h_fold]
  show ((pieces '.' (compose (joinLabels labels))).mapM Label.ofText?).bind _ = _
  rw [compose_of_ascii h_ascii, pieces_joinLabels h_ne h_point, h_read]
  show (if _ then _ else _) = _
  rw [h_directions, h_all]
  rfl

/-- **The ASCII form of a name is its own ASCII form**, unless a label of it is too long. -/
theorem toAscii?_ascii {name ascii : List Char} (h : toAscii? name = some ascii)
    (h_short : ∀ code, Label.mark ++ code ∈ pieces '.' ascii → code.length ≤ Label.asciiLimit) :
    toAscii? ascii = some ascii := by
  have h_chars := isDomainChar_of_mem_toAscii? h
  simp only [toAscii?, Option.bind_eq_bind, Option.bind_eq_some_iff] at h
  obtain ⟨folded, h_fold, labels, h_labels, h⟩ := h
  split at h
  · next h_checks =>
    obtain rfl := Option.some.inj h
    rw [Bool.and_eq_true] at h_checks
    have h_read : ∀ label ∈ labels, ∃ text ∈ pieces '.' (compose folded),
        Label.ofText? text = some label :=
      fun label h_label => exists_of_mem_of_mapM_eq_some h_labels h_label
    -- capitals are neither in what has been folded and composed nor written by encoding
    have h_small : ∀ c ∈ joinLabels labels, isCapital c = false := by
      intro c h_c
      rcases mem_or_mem_of_mem_joinWith h_c with h_c | ⟨p, h_p, h_c⟩
      · obtain rfl := List.mem_singleton.1 h_c
        rfl
      · obtain ⟨label, h_label, rfl⟩ := List.mem_map.1 h_p
        obtain ⟨text, h_text, h_label⟩ := h_read label h_label
        rcases Label.of_mem_ascii h_label h_c with h_c | rfl | h_c
        · have h_in : c ∈ joinWith ['.'] (pieces '.' (compose folded)) :=
            mem_joinWith_of_mem h_text h_c
          rw [joinWith_pieces] at h_in
          exact isCapital_of_mem_compose (isCapital_of_mem_foldText? h_fold) c h_in
        · rfl
        · exact Punycode.IsDigit.elim (P := fun c => isCapital c = false) (by decide) h_c
    -- the name has been cut at its points, and encoding writes none
    have h_point : ∀ label ∈ labels, '.' ∉ label.ascii := by
      intro label h_label h_c
      obtain ⟨text, h_text, h_label⟩ := h_read label h_label
      rcases Label.of_mem_ascii h_label h_c with h_c | h_c | h_c
      · exact absurd (eq_false_of_mem_piecesBy h_text h_c) (by decide)
      · exact absurd h_c (by decide)
      · exact Punycode.IsDigit.elim (P := fun c => c ≠ '.') (by decide) h_c rfl
    have h_ne : labels ≠ [] := by
      rintro rfl
      obtain ⟨p, h_p⟩ := List.exists_mem_of_ne_nil _ (piecesBy_ne_nil (· = '.') (compose folded))
      obtain ⟨label, h_label, -⟩ := exists_of_mapM_eq_some h_labels h_p
      cases h_label
    rw [pieces_joinLabels h_ne h_point] at h_short
    refine toAscii?_joinLabels h_ne h_small h_point (fun label h_label => ?_) h_checks.1 h_chars
    obtain ⟨text, h_text, h_read⟩ := h_read label h_label
    refine Label.ofText?_ascii h_read (fun h_c => ?_) (fun c h_c => ?_) fun code h_code => ?_
    · exact absurd (eq_false_of_mem_piecesBy h_text h_c) (by decide)
    · have h_domain := h_chars c (mem_joinWith_of_mem (List.mem_map_of_mem h_label) h_c)
      exact of_decide_eq_true (Bool.and_eq_true_iff.1 h_domain).1
    · exact h_short code (List.mem_map.2 ⟨label, h_label, h_code⟩)
  · cases h

end KeyedBreakers.Url
