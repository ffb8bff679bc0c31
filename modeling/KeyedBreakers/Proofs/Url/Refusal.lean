import KeyedBreakers.Proofs.Unicode.Lasting
import KeyedBreakers.Proofs.Url.HostText

/-!
# Names that are refused

A host is taken apart before it is judged: percent-encoded bytes are decoded, characters are folded
and composed, labels outside ASCII are written anew. A character that is forbidden in the result may
be the work of these steps, and one that is forbidden in the text may have vanished. The lasting
characters cannot vanish, so a domain name with one of them is refused, and the only host with one
is an IPv6 literal, which has colons.

* `toAscii?_eq_none_of_mem` — no name with a lasting character has an ASCII form;
* `Host.eq_colon_of_mem` — where a host may have a lasting character.
-/

namespace KeyedBreakers.Url

open KeyedBreakers.Text KeyedBreakers.Unicode

/-! ### Decoding -/

theorem utf8EncodeChar_of_ascii {c : Char} (h : c.toNat < 0x80) :
    String.utf8EncodeChar c = [UInt8.ofNat c.toNat] := by
  have h_le : c.val.toNat ≤ 0x7F := Nat.le_of_lt_succ h
  unfold String.utf8EncodeChar
  exact if_pos h_le

/-- Only an ASCII character has a byte below `0x80`, and that is its code. -/
theorem toNat_eq_of_mem_utf8EncodeChar {c : Char} {b : UInt8} (h_b : b.toNat < 0x80)
    (h : b ∈ String.utf8EncodeChar c) : c.toNat = b.toNat := by
  have h_high : ∀ n, 0x80 ≤ n → n < 0x100 → b ≠ UInt8.ofNat n := by
    rintro n h_n h_lt rfl
    rw [UInt8.toNat_ofNat_of_lt' h_lt] at h_b
    omega
  by_cases h_c : c.toNat < 0x80
  · rw [utf8EncodeChar_of_ascii h_c, List.mem_singleton] at h
    rw [h, UInt8.toNat_ofNat_of_lt' (Nat.lt_trans h_c (by decide))]
  · -- all bytes of a longer form have their high bit set
    exfalso
    have h_le : ¬ c.val.toNat ≤ 0x7F := fun h_le => h_c (Nat.lt_succ_of_le h_le)
    unfold String.utf8EncodeChar at h
    dsimp only at h
    rw [if_neg h_le] at h
    split at h
    · simp only [List.mem_cons, List.not_mem_nil, or_false] at h
      rcases h with h | h
      all_goals exact h_high _ (by omega) (by omega) h
    · split at h
      · simp only [List.mem_cons, List.not_mem_nil, or_false] at h
        rcases h with h | h | h
        all_goals exact h_high _ (by omega) (by omega) h
      · simp only [List.mem_cons, List.not_mem_nil, or_false] at h
        rcases h with h | h | h | h
        all_goals exact h_high _ (by omega) (by omega) h

/-- A lasting character is no part of a percent-encoded byte. -/
theorem hexDigit?_of_isLasting {c : Char} (h : isLasting c = true) :
    c ≠ '%' ∧ hexDigit? c = none :=
  forall_lasting (P := fun d => d ≠ '%' ∧ hexDigit? d = none) (by decide) h

theorem isDomainChar_of_isLasting {c : Char} (h : isLasting c = true) : isDomainChar c = false :=
  forall_lasting (P := fun d => isDomainChar d = false) (by decide) h

theorem mem_decodeBytes {c : Char} {cs : List Char} (h : isLasting c = true) (h_mem : c ∈ cs) :
    UInt8.ofNat c.toNat ∈ decodeBytes cs := by
  obtain ⟨h_percent, h_digit⟩ := hexDigit?_of_isLasting h
  fun_induction decodeBytes cs with
  | case1 a b rest high low h_low h_high ih =>
    -- the two digits are not lasting
    have h_a : c ≠ a := by
      rintro rfl
      rw [h_digit] at h_high
      cases h_high
    have h_b : c ≠ b := by
      rintro rfl
      rw [h_digit] at h_low
      cases h_low
    simp only [List.mem_cons, h_percent, h_a, h_b, false_or] at h_mem
    exact List.mem_cons_of_mem _ (ih h_mem)
  | case2 a b rest h_none ih =>
    exact List.mem_append_right _ (ih ((List.mem_cons.1 h_mem).resolve_left h_percent))
  | case3 d rest h_d ih =>
    rw [List.mem_append]
    rcases List.mem_cons.1 h_mem with rfl | h_mem
    · rw [utf8EncodeChar_of_ascii (toNat_lt_of_isLasting h)]
      exact .inl (List.mem_singleton_self _)
    · exact .inr (ih h_mem)
  | case4 => cases h_mem

/-- The bytes of a decoded text are those that were encoded. -/
theorem flatMap_of_decode? {cs decoded : List Char} (h : decode? cs = some decoded) :
    decoded.flatMap String.utf8EncodeChar = decodeBytes cs := by
  obtain ⟨s, h_s, rfl⟩ := Option.map_eq_some_iff.1 h
  unfold String.fromUTF8? at h_s
  split at h_s
  · obtain rfl := Option.some.inj h_s
    have h_bytes := congrArg ByteArray.data (String.utf8Encode_toList (b := String.fromUTF8 _ ‹_›))
    rw [List.utf8Encode, List.data_toByteArray] at h_bytes
    exact congrArg Array.toList h_bytes
  · cases h_s

/-- Decoding keeps a lasting character. -/
theorem mem_decode? {c : Char} {cs decoded : List Char} (h : isLasting c = true)
    (h_decode : decode? cs = some decoded) (h_mem : c ∈ cs) : c ∈ decoded := by
  have h_lt := toNat_lt_of_isLasting h
  have h_toNat : (UInt8.ofNat c.toNat).toNat = c.toNat :=
    UInt8.toNat_ofNat_of_lt' (Nat.lt_trans h_lt (by decide))
  have h_byte := mem_decodeBytes h h_mem
  rw [← flatMap_of_decode? h_decode, List.mem_flatMap] at h_byte
  obtain ⟨d, h_d, h_byte⟩ := h_byte
  -- the byte belongs to a decoded character, which then is the lasting one
  have h_eq := toNat_eq_of_mem_utf8EncodeChar (h_toNat.symm ▸ h_lt) h_byte
  rw [h_toNat] at h_eq
  rwa [← Char.toNat_inj.1 h_eq]

/-! ### Labels -/

/-- The ASCII characters of a label are characters of its Punycode form. -/
theorem Punycode.mem_encode {c : Char} {label : List Char} (h : c.toNat < 0x80)
    (h_mem : c ∈ label) : c ∈ Punycode.encode label := by
  have h_basic : c ∈ label.filter (·.toNat < firstCode) :=
    List.mem_filter.2 ⟨h_mem, decide_eq_true h⟩
  unfold Punycode.encode
  dsimp only
  rw [if_neg (List.ne_nil_of_mem h_basic)]
  exact List.mem_append_left _ h_basic

/-- The ASCII form of a label keeps the ASCII characters of its text. -/
theorem Label.mem_ascii_of_ofText? {c : Char} {text : List Char} {label : Label}
    (h : Label.ofText? text = some label) (h_c : c.toNat < 0x80) (h_mem : c ∈ text) :
    c ∈ label.ascii := by
  rcases Label.ofText?_cases h with h_same | ⟨-, -, -, rfl⟩
  · rwa [h_same]
  · exact List.mem_append_right _ (Punycode.mem_encode h_c h_mem)

/-- **No name with a lasting character has an ASCII form.** -/
theorem toAscii?_eq_none_of_mem {c : Char} {name : List Char} (h : isLasting c = true)
    (h_mem : c ∈ name) : toAscii? name = none := by
  rw [Option.eq_none_iff_forall_ne_some]
  intro ascii h_ascii
  have h_domain := isDomainChar_of_mem_toAscii? h_ascii
  unfold toAscii? at h_ascii
  simp only [Option.bind_eq_bind, Option.bind_eq_some_iff] at h_ascii
  obtain ⟨folded, h_folded, labels, h_labels, h_ascii⟩ := h_ascii
  split at h_ascii
  · obtain rfl := Option.some.inj h_ascii
    -- the character is in a label, hence in its ASCII form and in the name
    have h_point : c ≠ '.' := by
      rintro rfl
      exact absurd h (by decide)
    obtain ⟨piece, h_piece, h_c⟩ :=
      exists_mem_pieces (mem_compose h (mem_foldText? h h_folded h_mem)) h_point
    obtain ⟨label, h_label, h_text⟩ := exists_of_mapM_eq_some h_labels h_piece
    have h_in := Label.mem_ascii_of_ofText? h_text (toNat_lt_of_isLasting h) h_c
    have h_join : c ∈ joinLabels labels :=
      mem_joinWith_of_mem (List.mem_map_of_mem (f := Label.ascii) h_label) h_in
    have h_domain := h_domain c h_join
    rw [isDomainChar_of_isLasting h] at h_domain
    cases h_domain
  · cases h_ascii

/-! ### Hosts -/

namespace Ipv6

/-- The characters of an IPv6 literal. -/
def isLiteralChar (c : Char) : Bool :=
  isHexDigit c || c == ':' || c == '.'

theorem isLiteralChar_of_readGroup? {group : List Char} {n : Nat} (h : readGroup? group = some n)
    {c : Char} (h_mem : c ∈ group) : isLiteralChar c = true := by
  unfold readGroup? readHexadecimal? at h
  split at h
  · split at h
    · next h_all => simp [isLiteralChar, List.all_eq_true.1 h_all.2 c h_mem]
    · cases h
  · cases h

theorem isLiteralChar_of_readByte? {part : List Char} {n : Nat} (h : readByte? part = some n)
    {c : Char} (h_mem : c ∈ part) : isLiteralChar c = true := by
  unfold readByte? readDecimal? at h
  split at h
  · split at h
    · next h_all =>
      have h_digit := isHexDigit_of_isDigit (List.all_eq_true.1 h_all.2 c h_mem)
      simp [isLiteralChar, h_digit]
    · cases h
  · cases h

theorem isLiteralChar_of_readEmbedded? {group : List Char} {gs : List Nat}
    (h : readEmbedded? group = some gs) {c : Char} (h_mem : c ∈ group) :
    isLiteralChar c = true := by
  unfold readEmbedded? at h
  rw [Option.bind_eq_bind, Option.bind_eq_some_iff] at h
  obtain ⟨bytes, h_bytes, -⟩ := h
  by_cases h_point : c = '.'
  · rw [h_point]
    decide
  · obtain ⟨part, h_part, h_c⟩ := exists_mem_pieces h_mem h_point
    obtain ⟨n, -, h_n⟩ := exists_of_mapM_eq_some h_bytes h_part
    exact isLiteralChar_of_readByte? h_n h_c

theorem isLiteralChar_of_readGroups? {atEnd : Bool} {text : List Char} {gs : List Nat}
    (h : readGroups? atEnd text = some gs) {c : Char} (h_mem : c ∈ text) :
    isLiteralChar c = true := by
  by_cases h_colon : c = ':'
  · rw [h_colon]
    decide
  · obtain ⟨part, h_part, h_c⟩ := exists_mem_pieces h_mem h_colon
    unfold readGroups? at h
    rw [if_neg (List.ne_nil_of_mem h_mem)] at h
    dsimp only at h
    split at h
    · cases h
    · next last h_last =>
      split at h
      · rw [Option.bind_eq_bind, Option.bind_eq_some_iff] at h
        obtain ⟨front, h_front, h⟩ := h
        rw [Option.bind_eq_some_iff] at h
        obtain ⟨back, h_back, -⟩ := h
        -- the character is in the embedded address or in a group before it
        obtain ⟨groups, h_groups⟩ := List.getLast?_eq_some_iff.1 h_last
        rw [h_groups, List.dropLast_concat] at h_front
        rw [h_groups, List.mem_append] at h_part
        rcases h_part with h_part | h_part
        · obtain ⟨n, -, h_n⟩ := exists_of_mapM_eq_some h_front h_part
          exact isLiteralChar_of_readGroup? h_n h_c
        · rw [List.mem_singleton.1 h_part] at h_c
          exact isLiteralChar_of_readEmbedded? h_back h_c
      · obtain ⟨n, -, h_n⟩ := exists_of_mapM_eq_some h h_part
        exact isLiteralChar_of_readGroup? h_n h_c

/-- An IPv6 address is read from digits, colons and points. -/
theorem isLiteralChar_of_parse? {text : List Char} {address : Ipv6}
    (h : parse? text = some address) {c : Char} (h_mem : c ∈ text) : isLiteralChar c = true := by
  unfold parse? at h
  split at h
  · rw [Option.bind_eq_bind, Option.bind_eq_some_iff] at h
    obtain ⟨gs, h_gs, -⟩ := h
    exact isLiteralChar_of_readGroups? h_gs h_mem
  · next before after h_cut =>
    rw [Option.bind_eq_bind, Option.bind_eq_some_iff] at h
    obtain ⟨front, h_front, h⟩ := h
    rw [Option.bind_eq_some_iff] at h
    obtain ⟨back, h_back, -⟩ := h
    rw [eq_of_cutAtText? h_cut, List.mem_append, List.mem_append] at h_mem
    rcases h_mem with (h_mem | h_colons) | h_mem
    · exact isLiteralChar_of_readGroups? h_front h_mem
    · obtain rfl : c = ':' := by simpa using h_colons
      decide
    · exact isLiteralChar_of_readGroups? h_back h_mem

end Ipv6

/-- The only lasting character of an IPv6 literal is the colon. -/
theorem Ipv6.eq_colon_of_isLiteralChar {c : Char} (h : isLasting c = true)
    (h_literal : isLiteralChar c = true) : c = ':' :=
  forall_lasting (P := fun d => isLiteralChar d = true → d = ':') (by decide) h h_literal

namespace Host

variable {cs : List Char} {host : Host} {c : Char}

theorem notMem_of_parseDomain (h_parse : parseDomain cs = .ok host) (h : isLasting c = true) :
    c ∉ cs := by
  intro h_mem
  obtain ⟨decoded, name, h_decoded, h_ascii, -⟩ := parseDomain_eq_ok h_parse
  rw [toAscii?_eq_none_of_mem h (mem_decode? h h_decoded h_mem)] at h_ascii
  cases h_ascii

theorem eq_colon_of_parseBracketed (h_parse : parseBracketed ('[' :: cs) = .ok host)
    (h : isLasting c = true) (h_mem : c ∈ '[' :: cs) : c = ':' := by
  obtain ⟨h_last, address, h_address, -⟩ := parseBracketed_eq_ok h_parse
  have h_brackets : c ≠ '[' ∧ c ≠ ']' := by
    constructor <;> rintro rfl <;> exact absurd h (by decide)
  have h_mem := (List.mem_cons.1 h_mem).resolve_left h_brackets.1
  rw [List.getLast?_cons_of_ne_nil (List.ne_nil_of_mem h_mem)] at h_last
  obtain ⟨inner, rfl⟩ := List.getLast?_eq_some_iff.1 h_last
  -- what stands before the closing bracket is a literal
  rw [List.tail_cons, List.dropLast_concat] at h_address
  rw [List.mem_append, List.mem_singleton] at h_mem
  exact Ipv6.eq_colon_of_isLiteralChar h
    (Ipv6.isLiteralChar_of_parse? h_address (h_mem.resolve_right h_brackets.2))

/-- **Where a host has a lasting character.** Where hosts are domain names, only a literal in
brackets has one, and that is a colon. -/
theorem eq_colon_of_mem (h_parse : parse true cs = .ok host) (h : isLasting c = true)
    (h_mem : c ∈ cs) : c = ':' ∧ cs.getLast? = some ']' := by
  unfold parse at h_parse
  split at h_parse
  · exact ⟨eq_colon_of_parseBracketed h_parse h h_mem, (parseBracketed_eq_ok h_parse).1⟩
  · exact absurd h_mem (notMem_of_parseDomain h_parse h)

end Host

end KeyedBreakers.Url
