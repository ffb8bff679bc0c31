import KeyedBreakers.Text.Digits

/-!
# Percent encoding

Characters that may not stand in a part of an address are written as `%` and two capital hexadecimal
digits for each byte of their UTF-8 form. Which ones these are depends on the part; characters
outside ASCII are always encoded, and `%` itself never is, so encoding what is already encoded
changes nothing.

* `EncodeSet` and its members — the characters that each part encodes;
* `encode` — percent encoding with such a set;
* `decodeBytes` — the bytes that a percent-encoded text stands for;
* `encode_eq_self`, `decode?_eq_self` — text that neither changes.
-/

namespace KeyedBreakers.Url

open KeyedBreakers.Text

/-- The ASCII characters that a part of an address encodes. -/
abbrev EncodeSet := Char → Bool

namespace EncodeSet

/-- The C0 controls and the delete character; all that an unstructured part encodes. -/
def controls : EncodeSet := fun c => c.toNat < 0x20 || c.toNat == 0x7F

/-- What a fragment encodes. -/
def fragment : EncodeSet := fun c =>
  controls c || c == ' ' || c == '"' || c == '<' || c == '>' || c == '\x60'

/-- What a query encodes. -/
def query : EncodeSet := fun c =>
  controls c || c == ' ' || c == '"' || c == '#' || c == '<' || c == '>'

/-- What the query of an address with a special scheme encodes. -/
def specialQuery : EncodeSet := fun c => query c || c == '\x27'

/-- What a segment of a path encodes. -/
def path : EncodeSet := fun c =>
  fragment c || c == '#' || c == '?' || c == '\x7b' || c == '\x7d'

/-- What a user name or password encodes. -/
def userinfo : EncodeSet := fun c =>
  path c || c == '/' || c == ':' || c == ';' || c == '=' || c == '@' || c == '[' || c == '\\'
    || c == ']' || c == '^' || c == '|'

end EncodeSet

/-- A byte as `%` and two capital hexadecimal digits. -/
def percentByte (b : UInt8) : List Char :=
  ['%', capitalHexDigit (b.toNat / 16), capitalHexDigit (b.toNat % 16)]

/-- One character, encoded if it is not ASCII or belongs to the set. -/
def encodeChar (set : EncodeSet) (c : Char) : List Char :=
  if 0x80 ≤ c.toNat || set c then (String.utf8EncodeChar c).flatMap percentByte else [c]

/-- The text with the characters of the set and all characters outside ASCII encoded. -/
def encode (set : EncodeSet) (cs : List Char) : List Char :=
  cs.flatMap (encodeChar set)

/-- The bytes that a text stands for: each `%` with two hexadecimal digits is one byte, every other
character is the bytes of its UTF-8 form. -/
def decodeBytes : List Char → List UInt8
  | '%' :: a :: b :: rest =>
    match hexDigit? a, hexDigit? b with
    | some high, some low => UInt8.ofNat (16 * high + low) :: decodeBytes rest
    | _, _ => String.utf8EncodeChar '%' ++ decodeBytes (a :: b :: rest)
  | c :: rest => String.utf8EncodeChar c ++ decodeBytes rest
  | [] => []

/-- The text that a percent-encoded text stands for, if its bytes are the UTF-8 form of one. -/
def decode? (cs : List Char) : Option (List Char) :=
  (String.fromUTF8? ⟨(decodeBytes cs).toArray⟩).map String.toList

/-! ### Small equations -/

@[simp] theorem encode_nil (set : EncodeSet) : encode set [] = [] := rfl

@[simp] theorem encode_cons (set : EncodeSet) (c : Char) (cs : List Char) :
    encode set (c :: cs) = encodeChar set c ++ encode set cs := rfl

/-- Text without characters to encode stands as it is. -/
theorem encode_eq_self {set : EncodeSet} {cs : List Char}
    (h : ∀ c ∈ cs, c.toNat < 0x80 ∧ set c = false) : encode set cs = cs := by
  induction cs with
  | nil => rfl
  | cons c cs ih =>
    obtain ⟨hc, hs⟩ := h c (List.mem_cons_self ..)
    have hn : ¬ 0x80 ≤ c.toNat := Nat.not_le.2 hc
    rw [encode_cons, ih fun d hd => h d (List.mem_cons_of_mem _ hd)]
    simp [encodeChar, hs, hn]

/-! ### Text without escapes -/

theorem decodeBytes_of_plain {cs : List Char} (h : '%' ∉ cs) :
    decodeBytes cs = cs.flatMap String.utf8EncodeChar := by
  fun_induction decodeBytes cs with
  | case1 a b rest high low h_high h_low ih => exact absurd List.mem_cons_self h
  | case2 a b rest h_digits ih => exact absurd List.mem_cons_self h
  | case3 c rest h_c ih => rw [List.flatMap_cons, ih fun h_mem => h (List.mem_cons_of_mem c h_mem)]
  | case4 => rfl

/-- Text without percent signs stands for itself. -/
theorem decode?_eq_self {cs : List Char} (h : '%' ∉ cs) : decode? cs = some cs := by
  have h_bytes : (⟨(cs.flatMap String.utf8EncodeChar).toArray⟩ : ByteArray) = cs.utf8Encode :=
    ByteArray.ext List.data_toByteArray.symm
  unfold decode? String.fromUTF8?
  rw [decodeBytes_of_plain h, h_bytes, dif_pos (ByteArray.IsValidUTF8.intro cs rfl)]
  exact congrArg some String.toList_ofList

/-! ### What encoding writes -/

theorem mem_percentByte {c : Char} {b : UInt8} (h : c ∈ percentByte b) :
    c = '%' ∨ isHexDigit c = true := by
  have h_digit : ∀ d < 16, isHexDigit (capitalHexDigit d) = true := by decide
  have h_b := b.toNat_lt
  simp only [percentByte, List.mem_cons, List.not_mem_nil, or_false] at h
  rcases h with rfl | rfl | rfl
  · exact .inl rfl
  · exact .inr (h_digit _ (by omega))
  · exact .inr (h_digit _ (Nat.mod_lt _ (by decide)))

/-- Encoding writes percent signs, hexadecimal digits and characters of the text. -/
theorem mem_encode {set : EncodeSet} {cs : List Char} {c : Char} (h : c ∈ encode set cs) :
    c ∈ cs ∨ c = '%' ∨ isHexDigit c = true := by
  obtain ⟨d, h_d, h_c⟩ := List.mem_flatMap.1 h
  unfold encodeChar at h_c
  split at h_c
  · obtain ⟨b, -, h_b⟩ := List.mem_flatMap.1 h_c
    exact .inr (mem_percentByte h_b)
  · exact .inl (List.mem_singleton.1 h_c ▸ h_d)

end KeyedBreakers.Url
