import KeyedBreakers.Text.Quoted

/-!
# Reading quoted text

Quoted text can be read back, also where other text follows it: the code of a character tells where
it ends, and a quotation mark that stands alone ends the text. So two texts are quoted alike only if
they are the same, wherever the quotations stand. No code holds a control, so a quotation stays on its
line.

* `readChar?` — the character whose code stands at the head, and what follows the code;
* `readChar?_escape` — it reads what `escape` has written;
* `body_append_inj`, `encode_append_inj` — quotations are told apart in front of any text;
* `isControl_of_mem_encode` — the alphabet of quotations.
-/

namespace KeyedBreakers.Text.Quoted

open KeyedBreakers.Unicode

/-! ### Reading one character -/

/-- The characters that are written by a letter or sign after the backslash. -/
def signs : List (Char × Char) :=
  [('0', '\x00'), ('t', '\t'), ('r', '\r'), ('n', '\n'), ('\\', '\\'), ('"', '"')]

/-- Reads what follows a backslash. -/
def readEscaped? : List Char → Option (Char × List Char)
  | 'u' :: '\x7b' :: cs => do
    let (digits, rest) ← cutFirst? '\x7d' cs
    let code ← readHexadecimal? digits
    some (Char.ofNat code, rest)
  | sign :: rest => (signs.lookup sign).map fun c => (c, rest)
  | [] => none

/-- The character whose code stands at the head of a text, and what follows it; none where the
quotation ends. -/
def readChar? : List Char → Option (Char × List Char)
  | [] => none
  | c :: cs =>
    if c = '"' then none
    else if c = '\\' then readEscaped? cs
    else some (c, cs)

theorem readEscaped?_byCode (c : Char) (rest : List Char) :
    readEscaped? ('u' :: '\x7b' :: (hexadecimal c.toNat ++ '\x7d' :: rest)) = some (c, rest) := by
  have h_bracket : '\x7d' ∉ hexadecimal c.toNat := by
    intro h_mem
    exact absurd (isHexDigit_of_mem_hexadecimal h_mem) (by decide)
  rw [readEscaped?, cutFirst?_append rest h_bracket, Option.bind_eq_bind, Option.bind_some]
  dsimp only
  rw [readHexadecimal?_hexadecimal, Option.bind_eq_bind, Option.bind_some, Char.ofNat_toNat]

/-- **The three ways to write a character**: by its sign, as itself, or by its code. -/
theorem escape_cases (c : Char) :
    (∃ sign, (sign, c) ∈ signs ∧ escape c = ['\\', sign]) ∨
      (c ≠ '"' ∧ c ≠ '\\' ∧ isShown c = true ∧ escape c = [c]) ∨ escape c = byCode c := by
  by_cases h_sign : c ∈ signs.map Prod.snd
  · refine .inl ?_
    simp only [signs, List.map_cons, List.map_nil, List.mem_cons, List.not_mem_nil, or_false] at h_sign
    rcases h_sign with rfl | rfl | rfl | rfl | rfl | rfl
    all_goals exact ⟨_, by decide, rfl⟩
  · refine .inr ?_
    simp only [signs, List.map_cons, List.map_nil, List.mem_cons, List.not_mem_nil, or_false,
      not_or] at h_sign
    obtain ⟨h_nul, h_tab, h_return, h_line, h_slash, h_quote⟩ := h_sign
    rw [escape, if_neg h_nul, if_neg h_tab, if_neg h_return, if_neg h_line, if_neg h_slash,
      if_neg h_quote]
    split
    · next h_shown => exact .inl ⟨h_quote, h_slash, h_shown, rfl⟩
    · exact .inr rfl

/-- **A character is read back from its code**, whatever follows. -/
theorem readChar?_escape (c : Char) (rest : List Char) :
    readChar? (escape c ++ rest) = some (c, rest) := by
  rcases escape_cases c with ⟨sign, h_sign, h_eq⟩ | ⟨h_quote, h_slash, -, h_eq⟩ | h_eq
  · rw [h_eq]
    simp only [signs, List.mem_cons, Prod.mk.injEq, List.not_mem_nil, or_false] at h_sign
    rcases h_sign with ⟨rfl, rfl⟩ | ⟨rfl, rfl⟩ | ⟨rfl, rfl⟩ | ⟨rfl, rfl⟩ | ⟨rfl, rfl⟩ | ⟨rfl, rfl⟩
    all_goals rfl
  · rw [h_eq, List.singleton_append, readChar?, if_neg h_quote, if_neg h_slash]
  · have h_code : escape c ++ rest =
        '\\' :: 'u' :: '\x7b' :: (hexadecimal c.toNat ++ '\x7d' :: rest) := by
      simp [h_eq, byCode]
    rw [h_code, readChar?, if_neg (by decide), if_pos rfl, readEscaped?_byCode]

/-! ### Telling quotations apart -/

/-- **Texts are told apart in front of the closing mark**: where two quoted texts agree up to what
follows them, the texts are the same and so is what follows. -/
theorem body_append_inj {cs ds xs ys : List Char}
    (h : body cs ++ '"' :: xs = body ds ++ '"' :: ys) : cs = ds ∧ xs = ys := by
  have h_end : ∀ rest, readChar? ('"' :: rest) = none := fun rest => rfl
  induction cs generalizing ds with
  | nil =>
    cases ds with
    | nil => exact ⟨rfl, (List.cons.inj h).2⟩
    | cons d ds =>
      -- one text ends where the other goes on
      have h_read := congrArg readChar? h
      rw [body_nil, body_cons, List.nil_append, List.append_assoc, h_end, readChar?_escape] at h_read
      cases h_read
  | cons c cs ih =>
    have h_read := congrArg readChar? h
    cases ds with
    | nil =>
      rw [body_nil, body_cons, List.nil_append, List.append_assoc, h_end, readChar?_escape] at h_read
      cases h_read
    | cons d ds =>
      rw [body_cons, body_cons, List.append_assoc, List.append_assoc, readChar?_escape,
        readChar?_escape, Option.some.injEq, Prod.mk.injEq] at h_read
      obtain ⟨rfl, h_rest⟩ := h_read
      obtain ⟨rfl, rfl⟩ := ih h_rest
      exact ⟨rfl, rfl⟩

/-- **Quotations are told apart** in front of any text. -/
theorem encode_append_inj {a b : String} {xs ys : List Char}
    (h : (encode a).toList ++ xs = (encode b).toList ++ ys) : a = b ∧ xs = ys := by
  simp only [toList_encode, List.append_assoc, List.cons_append, List.nil_append] at h
  obtain ⟨h_text, h_rest⟩ := body_append_inj (List.cons.inj h).2
  exact ⟨String.toList_inj.1 h_text, h_rest⟩

/-- A quotation mark, a backslash and a line break stay inside. -/
example : encode "\"\\\n" = "\"\\\"\\\\\\n\"" := rfl

/-! ### The alphabet of quotations -/

/-- No character of the list is a control. -/
def spareControls (cs : List Char) : Bool :=
  cs.all fun c => !isControl c

theorem isControl_of_spareControls {cs : List Char} (h : spareControls cs = true) {c : Char}
    (h_c : c ∈ cs) : isControl c = false := by
  have h_not := List.all_eq_true.1 h c h_c
  simpa using h_not

theorem isControl_of_isHexDigit {c : Char} (h : isHexDigit c = true) : isControl c = false := by
  have h_chars : ('0' ≤ c ∧ c ≤ '9') ∨ ('a' ≤ c ∧ c ≤ 'f') ∨ ('A' ≤ c ∧ c ≤ 'F') := by
    unfold isHexDigit hexDigit? at h
    grind
  have h_range : 0x30 ≤ c.toNat ∧ c.toNat < 0x67 := by
    rcases h_chars with ⟨h_low, h_high⟩ | ⟨h_low, h_high⟩ | ⟨h_low, h_high⟩
    · exact ⟨h_low, Nat.lt_of_le_of_lt h_high (by decide)⟩
    · exact ⟨Nat.le_trans (by decide) h_low, Nat.lt_of_le_of_lt h_high (by decide)⟩
    · exact ⟨Nat.le_trans (by decide) h_low, Nat.lt_of_le_of_lt h_high (by decide)⟩
  simp only [isControl, Bool.or_eq_false_iff, Bool.and_eq_false_imp, decide_eq_false_iff_not,
    decide_eq_true_eq]
  omega

/-- No character is written with a control. -/
theorem isControl_of_mem_escape {c d : Char} (h : d ∈ escape c) : isControl d = false := by
  rcases escape_cases c with ⟨sign, h_sign, h_eq⟩ | ⟨-, -, h_shown, h_eq⟩ | h_eq
  · have h_signs : ∀ s ∈ signs, isControl s.1 = false := by decide
    rw [h_eq, List.mem_cons, List.mem_singleton] at h
    rcases h with rfl | rfl
    · decide
    · exact h_signs _ h_sign
  · rw [h_eq, List.mem_singleton] at h
    exact h ▸ isControl_eq_false_of_isShown h_shown
  · rw [h_eq, byCode, List.mem_append, List.mem_append] at h
    rcases h with (h_open | h_digit) | h_close
    · exact isControl_of_spareControls (by decide) h_open
    · exact isControl_of_isHexDigit (isHexDigit_of_mem_hexadecimal h_digit)
    · exact isControl_of_spareControls (by decide) h_close

/-- **No quotation holds a control**: no line break above all. -/
theorem isControl_of_mem_encode {text : String} {c : Char} (h : c ∈ (encode text).toList) :
    isControl c = false := by
  rw [toList_encode, List.mem_append, List.mem_cons, List.mem_singleton] at h
  rcases h with (rfl | h) | rfl
  · decide
  · obtain ⟨d, -, h_d⟩ := List.mem_flatMap.1 h
    exact isControl_of_mem_escape h_d
  · decide

end KeyedBreakers.Text.Quoted
