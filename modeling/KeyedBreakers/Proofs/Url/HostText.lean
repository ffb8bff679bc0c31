import KeyedBreakers.Proofs.Url.Encoding
import KeyedBreakers.Url.Host

/-!
# The alphabet of hosts

Whatever text a host is read from, it is written without the characters that delimit the parts of an
address, but for the brackets and colons of an IPv6 literal. Keys are built from hosts with such
characters in between, and can be taken apart again because of this.

* `IsHostText` — the two shapes of a written host;
* `Host.isHostText_of_parse` — every host that is read has one of them.
-/

namespace KeyedBreakers.Url

open KeyedBreakers.Text

/-- The text of a host: digits and colons in brackets, or a name without delimiters. -/
inductive IsHostText : List Char → Prop
  | bracketed {inner : List Char} (h_inner : ∀ c ∈ inner, isHexDigit c = true ∨ c = ':') :
      IsHostText ('[' :: inner ++ [']'])
  | name {cs : List Char} (h_free : ∀ c ∈ cs, Host.isForbidden c = false) : IsHostText cs

namespace IsHostText

variable {cs : List Char}

/-- No host has a number sign. -/
theorem hash_notMem (h : IsHostText cs) : '#' ∉ cs := by
  intro h_mem
  cases h with
  | bracketed h_inner =>
    rw [List.cons_append, List.mem_cons, List.mem_append, List.mem_singleton] at h_mem
    rcases h_mem with h_eq | h_in | h_eq
    · exact absurd h_eq (by decide)
    · exact absurd (h_inner _ h_in) (by decide)
    · exact absurd h_eq (by decide)
  | name h_free => exact absurd (h_free _ h_mem) (by decide)

/-- A host with a colon is a literal in brackets. -/
theorem getLast?_of_colon_mem (h : IsHostText cs) (h_mem : ':' ∈ cs) : cs.getLast? = some ']' := by
  cases h with
  | bracketed h_inner => exact List.getLast?_concat
  | name h_free => exact absurd (h_free _ h_mem) (by decide)

end IsHostText

/-! ### Classes of characters -/

namespace Host

/-- The characters that no host has, one by one. -/
def forbidden : List Char :=
  ['\x00', '\t', '\n', '\r', ' ', '#', '/', ':', '<', '>', '?', '@', '[', '\\', ']', '^', '|']

theorem isForbidden_iff_mem_forbidden (c : Char) : isForbidden c = true ↔ c ∈ forbidden := by
  simp only [isForbidden, forbidden, Bool.or_eq_true, beq_iff_eq, List.mem_cons, List.not_mem_nil,
    or_assoc, or_false]

/-- A class of characters that holds of no forbidden character makes characters allowed. -/
theorem isForbidden_eq_false {p : Char → Bool} (h_p : forbidden.all (!p ·) = true) {c : Char}
    (h : p c = true) : isForbidden c = false := by
  rw [Bool.eq_false_iff, ne_eq, isForbidden_iff_mem_forbidden]
  intro h_mem
  have h_c := List.all_eq_true.1 h_p c h_mem
  rw [h] at h_c
  exact Bool.false_ne_true h_c

theorem isForbidden_of_isHexDigit {c : Char} (h : isHexDigit c = true) : isForbidden c = false :=
  isForbidden_eq_false (by decide) h

theorem isForbidden_of_isDigit {c : Char} (h : c.isDigit = true) : isForbidden c = false :=
  isForbidden_eq_false (by decide) h

theorem isForbidden_of_isDomainChar {c : Char} (h : isDomainChar c = true) :
    isForbidden c = false :=
  isForbidden_eq_false (by decide) h

end Host

/-! ### The characters of each kind of host -/

theorem Ipv4.mem_render {a : Ipv4} {c : Char} (h : c ∈ a.render) : c.isDigit = true ∨ c = '.' := by
  rcases mem_or_mem_of_mem_joinWith h with h_point | ⟨p, h_p, h_c⟩
  · exact .inr (List.mem_singleton.1 h_point)
  · obtain ⟨n, -, rfl⟩ := List.mem_map.1 h_p
    exact .inl (isDigit_of_mem_decimal h_c)

theorem Ipv4.isForbidden_of_mem_render {a : Ipv4} {c : Char} (h : c ∈ a.render) :
    Host.isForbidden c = false := by
  rcases mem_render h with h_digit | rfl
  · exact Host.isForbidden_of_isDigit h_digit
  · decide

theorem Ipv4.render_ne_nil (a : Ipv4) : a.render ≠ [] := by
  intro h_nil
  have h_point : '.' ∈ a.render := by simp [render, bytes, joinWith]
  rw [h_nil] at h_point
  cases h_point

theorem Ipv6.mem_renderGroups {gs : List UInt16} {c : Char} (h : c ∈ renderGroups gs) :
    isHexDigit c = true ∨ c = ':' := by
  rcases mem_or_mem_of_mem_joinWith h with h_colon | ⟨p, h_p, h_c⟩
  · exact .inr (List.mem_singleton.1 h_colon)
  · obtain ⟨g, -, rfl⟩ := List.mem_map.1 h_p
    exact .inl (isHexDigit_of_mem_hexadecimal h_c)

theorem Ipv6.mem_render {a : Ipv6} {c : Char} (h : c ∈ a.render) :
    isHexDigit c = true ∨ c = ':' := by
  unfold render at h
  dsimp only at h
  split at h
  · exact mem_renderGroups h
  · rw [List.mem_append, List.mem_append] at h
    rcases h with (h_front | h_colons) | h_back
    · exact mem_renderGroups h_front
    · exact .inr (by simpa using h_colons)
    · exact mem_renderGroups h_back

/-! ### Reading a host -/

theorem isEncoded_encode_controls (cs : List Char) :
    IsEncoded EncodeSet.controls (encode EncodeSet.controls cs) :=
  isEncoded_encode (by decide) (by decide) cs

namespace Host

/-- A bracketed literal is read as an IPv6 address or not at all. -/
theorem parseBracketed_eq_ok {cs : List Char} {h : Host} (h_parse : parseBracketed cs = .ok h) :
    cs.getLast? = some ']' ∧
      ∃ address, Ipv6.parse? cs.tail.dropLast = some address ∧ h = .ipv6 address := by
  unfold parseBracketed at h_parse
  split at h_parse
  · next h_last =>
    split at h_parse
    · next address h_address => exact ⟨h_last, address, h_address, (Except.ok.inj h_parse).symm⟩
    · cases h_parse
  · cases h_parse

/-- A domain name is read from its ASCII form, unless that ends in a number. -/
theorem parseDomain_eq_ok {cs : List Char} {h : Host} (h_parse : parseDomain cs = .ok h) :
    ∃ decoded name, decode? cs = some decoded ∧ toAscii? decoded = some name ∧ name ≠ [] ∧
      (h = .domain (String.ofList name) ∧ Ipv4.endsInNumber name = false ∨
        ∃ address, h = .ipv4 address) := by
  unfold parseDomain at h_parse
  split at h_parse
  · cases h_parse
  · cases h_parse
  · next name h_ne h_name =>
    rw [Option.bind_eq_bind, Option.bind_eq_some_iff] at h_name
    obtain ⟨decoded, h_decoded, h_ascii⟩ := h_name
    refine ⟨decoded, name, h_decoded, h_ascii, h_ne, ?_⟩
    split at h_parse
    · split at h_parse
      · next address _ => exact .inr ⟨address, (Except.ok.inj h_parse).symm⟩
      · cases h_parse
    · next h_number => exact .inl ⟨(Except.ok.inj h_parse).symm, Bool.eq_false_iff.2 h_number⟩

theorem parseVerbatim_eq_ok {cs : List Char} {h : Host} (h_parse : parseVerbatim cs = .ok h) :
    (∀ c ∈ cs, isForbidden c = false) ∧
      h = .verbatim (String.ofList (encode EncodeSet.controls cs)) := by
  unfold parseVerbatim at h_parse
  split at h_parse
  · cases h_parse
  · next h_any =>
    rw [List.any_eq_true, not_exists] at h_any
    refine ⟨fun c h_c => ?_, (Except.ok.inj h_parse).symm⟩
    simpa [h_c] using h_any c

/-- Encoding adds percent signs and digits only, which hosts may have. -/
theorem isForbidden_of_mem_encode {set : EncodeSet} {cs : List Char}
    (h_free : ∀ c ∈ cs, isForbidden c = false) : ∀ c ∈ encode set cs, isForbidden c = false := by
  intro c h_c
  rcases mem_encode h_c with h_in | rfl | h_digit
  · exact h_free c h_in
  · decide
  · exact isForbidden_of_isHexDigit h_digit

/-- No host that is read is empty, unless it is read from nothing. -/
theorem chars_ne_nil_of_parse {domains : Bool} {cs : List Char} {h : Host} (h_cs : cs ≠ [])
    (h_parse : parse domains cs = .ok h) : h.chars ≠ [] := by
  unfold parse at h_parse
  split at h_parse
  · obtain ⟨-, address, -, rfl⟩ := parseBracketed_eq_ok h_parse
    exact List.cons_ne_nil _ _
  · split at h_parse
    · obtain ⟨decoded, name, -, -, h_ne, ⟨rfl, -⟩ | ⟨address, rfl⟩⟩ := parseDomain_eq_ok h_parse
      · rw [chars, String.toList_ofList]
        exact h_ne
      · exact Ipv4.render_ne_nil address
    · obtain ⟨-, rfl⟩ := parseVerbatim_eq_ok h_parse
      rw [chars, String.toList_ofList]
      exact fun h_nil => h_cs (encode_eq_nil h_nil)

/-- No host has a control or a space. -/
theorem lt_toNat_of_mem_chars {domains : Bool} {cs : List Char} {h : Host}
    (h_parse : parse domains cs = .ok h) {c : Char} (h_c : c ∈ h.chars) : 0x20 < c.toNat := by
  have h_hex : ∀ {c : Char}, isHexDigit c = true → 0x20 < c.toNat := lt_toNat_of_class (by decide)
  unfold parse at h_parse
  split at h_parse
  · obtain ⟨-, address, -, rfl⟩ := parseBracketed_eq_ok h_parse
    rw [chars, List.cons_append, List.mem_cons, List.mem_append, List.mem_singleton] at h_c
    rcases h_c with rfl | h_c | rfl
    · decide
    · rcases Ipv6.mem_render h_c with h_digit | rfl
      · exact h_hex h_digit
      · decide
    · decide
  · split at h_parse
    · obtain ⟨decoded, name, -, h_ascii, -, ⟨rfl, -⟩ | ⟨address, rfl⟩⟩ := parseDomain_eq_ok h_parse
      · rw [chars, String.toList_ofList] at h_c
        exact lt_toNat_of_class (by decide) (isDomainChar_of_mem_toAscii? h_ascii c h_c)
      · rcases Ipv4.mem_render h_c with h_digit | rfl
        · exact h_hex (isHexDigit_of_isDigit h_digit)
        · decide
    · obtain ⟨h_free, rfl⟩ := parseVerbatim_eq_ok h_parse
      rw [chars, String.toList_ofList] at h_c
      have h_encoded : EncodeSet.controls c = false := (isEncoded_encode_controls cs c h_c).2
      rcases mem_encode h_c with h_in | rfl | h_digit
      · -- the space is forbidden, and controls are encoded
        have h_space : c ≠ ' ' := by
          rintro rfl
          exact absurd (h_free _ h_in) (by decide)
        rw [EncodeSet.controls, Bool.or_eq_false_iff, decide_eq_false_iff_not] at h_encoded
        have h_ne : c.toNat ≠ 0x20 := fun h_eq => h_space (Char.toNat_inj.1 h_eq)
        omega
      · decide
      · exact h_hex h_digit

/-- **Every host that is read has the text of a host.** -/
theorem isHostText_of_parse {domains : Bool} {cs : List Char} {h : Host}
    (h_parse : parse domains cs = .ok h) : IsHostText h.chars := by
  unfold parse at h_parse
  split at h_parse
  · obtain ⟨-, address, -, rfl⟩ := parseBracketed_eq_ok h_parse
    exact .bracketed fun _ => Ipv6.mem_render
  · split at h_parse
    · obtain ⟨decoded, name, -, h_ascii, -, ⟨rfl, -⟩ | ⟨address, rfl⟩⟩ := parseDomain_eq_ok h_parse
      · refine .name fun c h_c => isForbidden_of_isDomainChar ?_
        rw [chars, String.toList_ofList] at h_c
        exact isDomainChar_of_mem_toAscii? h_ascii c h_c
      · exact .name fun _ => Ipv4.isForbidden_of_mem_render
    · obtain ⟨h_free, rfl⟩ := parseVerbatim_eq_ok h_parse
      rw [chars, String.toList_ofList]
      exact .name (isForbidden_of_mem_encode h_free)

end Host

end KeyedBreakers.Url
