import Mathlib.Data.List.Basic
import Mathlib.Data.String.Basic

/-!
# The order of texts is the order of their bytes

Texts are compared by their code points, and a directory keeps its texts in that order. In the
encoding of texts as bytes a character with a greater code point has a greater code, so to compare
the bytes comes to the same.

* `utf8EncodeChar_append_lt` — the codes of two characters differ at a byte, and there the code of
  the smaller one is smaller;
* `lt_iff_utf8Bytes_lt` — texts are in order if and only if their bytes are.
-/

namespace KeyedBreakers.Text

/-- The bytes of a text. -/
def utf8Bytes (s : String) : List UInt8 := s.toUTF8.data.toList

theorem utf8Bytes_eq_flatMap (s : String) : utf8Bytes s = s.toList.flatMap String.utf8EncodeChar := by
  have h_bytes : s.toByteArray = s.toList.utf8Encode := by
    rw [← String.toByteArray_ofList, String.ofList_toList]
  rw [utf8Bytes, String.toUTF8, h_bytes, List.utf8Encode, List.toList_data_toByteArray]

/-- Bytes made from numbers that fit are compared like the numbers. -/
theorem ofNat_cons_lt_iff {m n : Nat} (h_m : m < 256) (h_n : n < 256) (as bs : List UInt8) :
    UInt8.ofNat m :: as < UInt8.ofNat n :: bs ↔ m < n ∨ m = n ∧ as < bs := by
  have h_toNat : ∀ {k : Nat}, k < 256 → (UInt8.ofNat k).toNat = k := fun h =>
    UInt8.toNat_ofNat_of_lt' h
  rw [List.cons_lt_cons_iff, UInt8.lt_iff_toNat_lt, ← UInt8.toNat_inj, h_toNat h_m, h_toNat h_n]

/-- **Characters are coded in order.** Whatever follows the codes, a smaller character has the
smaller one. -/
theorem utf8EncodeChar_append_lt {c d : Char} (h : c.toNat < d.toNat) (as bs : List UInt8) :
    String.utf8EncodeChar c ++ as < String.utf8EncodeChar d ++ bs := by
  have h_lt : c.val.toNat < d.val.toNat := h
  have h_valid : d.val.toNat < 0x110000 := by
    have h_d := d.valid
    simp only [UInt32.isValidChar, Nat.isValidChar] at h_d
    omega
  unfold String.utf8EncodeChar
  generalize c.val.toNat = m at h_lt ⊢
  generalize d.val.toNat = n at h_lt h_valid ⊢
  -- the digits of a code point to the base sixty-four
  have h_digits : ∀ k : Nat, k / 4096 = k / 64 / 64 ∧ k / 262144 = k / 64 / 64 / 64 := by
    intro k
    omega
  simp only [h_digits]
  -- a longer code starts with a greater byte; codes of one length differ in one of the digits
  split_ifs <;> simp only [List.cons_append, List.nil_append] <;>
    repeat (rw [ofNat_cons_lt_iff (by omega) (by omega)])
  all_goals omega

/-- Texts are in order if and only if their bytes are. -/
theorem lt_iff_utf8Bytes_lt {a b : String} : a < b ↔ utf8Bytes a < utf8Bytes b := by
  have h_mono : ∀ {cs ds : List Char}, cs < ds →
      cs.flatMap String.utf8EncodeChar < ds.flatMap String.utf8EncodeChar := by
    intro cs ds h
    induction h with
    | nil =>
      rename_i d ds
      rw [List.flatMap_cons, List.flatMap_nil]
      obtain ⟨b, bs, h_code⟩ := List.exists_cons_of_ne_nil (@String.utf8EncodeChar_ne_nil d)
      rw [h_code]
      exact List.nil_lt_cons b _
    | rel h =>
      rw [List.flatMap_cons, List.flatMap_cons]
      exact utf8EncodeChar_append_lt h _ _
    | cons h ih =>
      rw [List.flatMap_cons, List.flatMap_cons]
      exact List.append_left_lt ih
  have h_texts : ∀ {a b : String}, a < b → utf8Bytes a < utf8Bytes b := by
    intro a b h
    rw [utf8Bytes_eq_flatMap, utf8Bytes_eq_flatMap]
    exact h_mono (String.lt_iff_toList_lt.1 h)
  refine ⟨h_texts, fun h => ?_⟩
  -- texts in another order have bytes in another order
  by_contra h_not
  rcases lt_or_eq_of_le (not_lt.1 h_not) with h_lt | rfl
  · exact List.lt_asymm h (h_texts h_lt)
  · exact List.lt_irrefl _ h

end KeyedBreakers.Text
