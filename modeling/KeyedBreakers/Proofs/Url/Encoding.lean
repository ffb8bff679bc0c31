import KeyedBreakers.Url.Percent

/-!
# Encoded text

What has been percent-encoded needs no encoding: no character of the set is left, and all is in ASCII.
Nothing else is said of the text, and in particular nothing of the escapes in it.

* `toNat_lt_of_isAlphanum`, `lt_toNat_of_class` — where classes of characters lie;
* `IsEncoded`, `isEncoded_encode` — text that encoding leaves as it is;
* `exists_of_encode_eq_cons` — where the characters of encoded text come from.
-/

namespace KeyedBreakers.Url

open KeyedBreakers.Text

/-! ### Classes of characters -/

/-- Letters and digits are in ASCII. -/
theorem toNat_lt_of_isAlphanum {c : Char} (h : c.isAlphanum = true) : c.toNat < 0x80 := by
  unfold Char.isAlphanum Char.isAlpha Char.isUpper Char.isLower Char.isDigit at h
  simp only [Bool.or_eq_true, Bool.and_eq_true, decide_eq_true_eq, ge_iff_le,
    UInt32.le_iff_toNat_le] at h
  show c.val.toNat < 0x80
  grind

theorem toNat_lt_of_isDigit {c : Char} (h : c.isDigit = true) : c.toNat < 0x80 :=
  toNat_lt_of_isAlphanum (by rw [Char.isAlphanum, h, Bool.or_true])

/-- A class without controls and the space has printed characters only. -/
theorem lt_toNat_of_class {p : Char → Bool} (h_low : ∀ n < 0x21, p (Char.ofNat n) = false) {c : Char}
    (h : p c = true) : 0x20 < c.toNat := by
  rw [← Nat.not_le]
  intro h_le
  have h_c := h_low c.toNat (Nat.lt_succ_of_le h_le)
  rw [Char.ofNat_toNat, h] at h_c
  cases h_c

/-! ### Encoding -/

/-- Text that an encoding leaves as it is. -/
def IsEncoded (set : EncodeSet) (cs : List Char) : Prop :=
  ∀ c ∈ cs, c.toNat < 0x80 ∧ set c = false

theorem eq_of_mem_percentByte {b : UInt8} {c : Char} (h : c ∈ percentByte b) :
    c = '%' ∨ ∃ d < 16, c = capitalHexDigit d := by
  have h_b := b.toNat_lt
  simp only [percentByte, List.mem_cons, List.not_mem_nil, or_false] at h
  rcases h with h | h | h
  · exact .inl h
  · exact .inr ⟨_, by omega, h⟩
  · exact .inr ⟨_, Nat.mod_lt _ (by decide), h⟩

/-- **What has been encoded stays as it is**, if the set leaves alone what encoding writes. -/
theorem isEncoded_encode {set : EncodeSet} (h_percent : set '%' = false)
    (h_digit : ∀ d < 16, set (capitalHexDigit d) = false) (cs : List Char) :
    IsEncoded set (encode set cs) := by
  have h_ascii : ∀ d < 16, (capitalHexDigit d).toNat < 0x80 := by decide
  intro c h_c
  obtain ⟨d, -, h_d⟩ := List.mem_flatMap.1 h_c
  unfold encodeChar at h_d
  split at h_d
  · obtain ⟨b, -, h_b⟩ := List.mem_flatMap.1 h_d
    rcases eq_of_mem_percentByte h_b with rfl | ⟨n, h_n, rfl⟩
    · exact ⟨by decide, h_percent⟩
    · exact ⟨h_ascii n h_n, h_digit n h_n⟩
  · next h_plain =>
    rw [Bool.or_eq_true, not_or, decide_eq_true_eq, Nat.not_le, Bool.not_eq_true] at h_plain
    obtain rfl := List.mem_singleton.1 h_d
    exact h_plain

/-- A character is encoded to itself or to escapes. -/
theorem encodeChar_cases (set : EncodeSet) (c : Char) :
    (encodeChar set c = [c]) ∨
      (¬ (c.toNat < 0x80 ∧ set c = false) ∧
        ∃ b bs, String.utf8EncodeChar c = b :: bs ∧
          encodeChar set c = percentByte b ++ bs.flatMap percentByte) := by
  unfold encodeChar
  split
  · next h_escaped =>
    obtain ⟨b, bs, h_bytes⟩ := List.exists_cons_of_ne_nil (@String.utf8EncodeChar_ne_nil c)
    refine .inr ⟨fun ⟨h_ascii, h_set⟩ => ?_, b, bs, h_bytes, ?_⟩
    · rw [h_set, Bool.or_false, decide_eq_true_eq] at h_escaped
      omega
    · rw [h_bytes, List.flatMap_cons]
  · exact .inl rfl

/-- A character that encoding does not write is in the text already. -/
theorem exists_of_encode_eq_cons {set : EncodeSet} {cs rest : List Char} {d : Char} (h_d : d ≠ '%')
    (h : encode set cs = d :: rest) : ∃ cs', cs = d :: cs' ∧ encode set cs' = rest := by
  cases cs with
  | nil => cases h
  | cons c cs =>
    rw [encode_cons] at h
    rcases encodeChar_cases set c with h_c | ⟨-, b, bs, -, h_c⟩
    · rw [h_c] at h
      obtain ⟨rfl, h_rest⟩ := List.cons.inj h
      exact ⟨cs, rfl, h_rest⟩
    · -- an escape begins with a percent sign
      rw [h_c] at h
      exact absurd (List.cons.inj h).1.symm h_d

theorem encode_eq_nil {set : EncodeSet} {cs : List Char} (h : encode set cs = []) : cs = [] := by
  cases cs with
  | nil => rfl
  | cons c cs =>
    rw [encode_cons, List.append_eq_nil_iff] at h
    rcases encodeChar_cases set c with h_c | ⟨-, b, bs, -, h_c⟩
    · rw [h_c] at h
      cases h.1
    · rw [h_c] at h
      cases h.1

end KeyedBreakers.Url
