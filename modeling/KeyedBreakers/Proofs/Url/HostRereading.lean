import KeyedBreakers.Proofs.Url.DomainText
import KeyedBreakers.Proofs.Url.HostText
import KeyedBreakers.Proofs.Url.Literals

/-!
# Reading the text of a host

The text of a host is read as that host again. For a literal this is the matter of its own notation. A
name that no rule applies to has been encoded and needs no encoding. A domain name is its own ASCII
form; the exception are names with a label too long to be decoded.

* `Ipv4.toAscii?_render` — an IPv4 address is its own ASCII form;
* `Host.parse_chars` — hosts are read back.
-/

namespace KeyedBreakers.Url

open KeyedBreakers.Text KeyedBreakers.Unicode

/-! ### Names -/

/-- No character of ASCII turns a name. -/
theorem turnsName_of_ascii {c : Char} (h : c.toNat < 0x80) : turnsName c = false := by
  unfold turnsName direction RunTable.find?
  cases h_run : directions.run? c.toNat with
  | none => rfl
  | some run =>
    obtain ⟨h_mem, h_first, -⟩ := RunTable.mem_of_search_eq_some h_run
    have h_row := isQuietDirection_of_mem run h_mem
    have h_low : ¬ 0x80 ≤ run.first := Nat.not_le.2 (Nat.lt_of_le_of_lt h_first h)
    rw [isQuietDirection, decide_eq_false h_low, Bool.false_or, Bool.and_eq_true, bne_iff_ne,
      bne_iff_ne] at h_row
    simp [h_row.1, h_row.2]

theorem toNat_lt_of_mem_decimal {n : Nat} {c : Char} (h : c ∈ decimal n) : c.toNat < 0x80 :=
  toNat_lt_of_isDigit (isDigit_of_mem_decimal h)

/-- A label of digits is its own ASCII form. -/
theorem Label.ofText?_decimal (n : Nat) : Label.ofText? (decimal n) = some ⟨decimal n, decimal n⟩ := by
  have h_digit : ∀ c ∈ decimal n, c.isDigit = true := fun c h_c => isDigit_of_mem_decimal h_c
  have h_all : (decimal n).all (·.toNat < 0x80) = true :=
    List.all_eq_true.2 fun c h_c => decide_eq_true (toNat_lt_of_mem_decimal h_c)
  have h_plain : dropText? mark (decimal n) = none := by
    obtain ⟨c, cs, h_eq⟩ := List.exists_cons_of_ne_nil (decimal_ne_nil n)
    rw [h_eq] at h_digit ⊢
    -- the mark begins with a letter
    have h_c : 'x' ≠ c := by
      rintro rfl
      exact absurd (h_digit _ List.mem_cons_self) (by decide)
    rw [mark, dropText?, if_neg h_c]
  unfold Label.ofText?
  dsimp only
  rw [h_plain, h_all]
  rfl

/-- The text of an IPv4 address is its own ASCII form. -/
theorem Ipv4.toAscii?_render (a : Ipv4) : toAscii? a.render = some a.render := by
  have h_join : joinLabels (a.bytes.map fun n => ⟨decimal n, decimal n⟩) = a.render := by
    rw [joinLabels, List.map_map]
    rfl
  have h_class : ∀ c ∈ joinLabels (a.bytes.map fun n => ⟨decimal n, decimal n⟩),
      isCapital c = false ∧ isDomainChar c = true := by
    intro c h_c
    rw [h_join] at h_c
    rcases mem_render h_c with h_digit | rfl
    · exact forall_ascii (P := fun d => d.isDigit = true → isCapital d = false ∧ isDomainChar d = true)
        (by decide) (toNat_lt_of_isDigit h_digit) h_digit
    · decide
  -- what holds of every label of digits holds of the labels
  have h_labels : ∀ {P : Label → Prop}, (∀ n, P ⟨decimal n, decimal n⟩) →
      ∀ label ∈ a.bytes.map fun n => (⟨decimal n, decimal n⟩ : Label), P label := by
    intro P h label h_label
    obtain ⟨n, -, rfl⟩ := List.mem_map.1 h_label
    exact h n
  have h_directions :
      directionsAgree ((a.bytes.map fun n => (⟨decimal n, decimal n⟩ : Label)).map Label.shown)
        = true := by
    have h_quiet : ∀ shown ∈ (a.bytes.map fun n => (⟨decimal n, decimal n⟩ : Label)).map Label.shown,
        ¬ shown.any turnsName = true := by
      refine List.forall_mem_map.2 (h_labels fun n h_any => ?_)
      obtain ⟨c, h_c, h_turns⟩ := List.any_eq_true.1 h_any
      rw [turnsName_of_ascii (toNat_lt_of_mem_decimal h_c)] at h_turns
      cases h_turns
    rw [directionsAgree, List.any_eq_false.2 h_quiet]
    rfl
  have h_ascii := toAscii?_joinLabels (by simp [bytes]) (fun c h_c => (h_class c h_c).1)
    (h_labels fun n h_c => absurd (isDigit_of_mem_decimal h_c) (by decide))
    (h_labels Label.ofText?_decimal) h_directions fun c h_c => (h_class c h_c).2
  rw [h_join] at h_ascii
  exact h_ascii

namespace Host

/-- A name that is its own ASCII form needs no decoding. -/
theorem decode?_bind_toAscii? {name : List Char} (h : toAscii? name = some name) :
    decode? name >>= toAscii? = some name := by
  have h_percent : '%' ∉ name := fun h_mem =>
    absurd (isDomainChar_of_mem_toAscii? h '%' h_mem) (by decide)
  rw [decode?_eq_self h_percent]
  exact h

/-- A text that does not begin with a bracket is a name. -/
theorem parse_of_free {domains : Bool} {cs : List Char} (h : ∀ c ∈ cs, isForbidden c = false) :
    parse domains cs = if domains then parseDomain cs else parseVerbatim cs := by
  unfold parse
  split
  · exact absurd (h '[' List.mem_cons_self) (by decide)
  · rfl

/-- **A host is read back from its text**, unless it is a domain name with a label too long to be
decoded. -/
theorem parse_chars {domains : Bool} {cs : List Char} {h : Host} (h_parse : parse domains cs = .ok h)
    (h_short : ∀ name, h = .domain name → ∀ code, Label.mark ++ code ∈ pieces '.' name.toList →
      code.length ≤ Label.asciiLimit) : parse domains h.chars = .ok h := by
  unfold parse at h_parse
  split at h_parse
  · obtain ⟨-, address, -, rfl⟩ := parseBracketed_eq_ok h_parse
    show parseBracketed ('[' :: address.render ++ [']']) = .ok (.ipv6 address)
    unfold parseBracketed
    rw [if_pos List.getLast?_concat, List.cons_append, List.tail_cons, List.dropLast_concat,
      Ipv6.parse?_render]
  · split at h_parse
    · next h_domains =>
      obtain ⟨decoded, name, -, h_ascii, h_ne, ⟨rfl, h_number⟩ | ⟨address, rfl⟩⟩ :=
        parseDomain_eq_ok h_parse
      · -- the name is its own ASCII form, and ends in no number now as before
        have h_name : toAscii? name = some name :=
          toAscii?_ascii h_ascii fun code h_code =>
            h_short _ rfl code (by rw [String.toList_ofList]; exact h_code)
        have h_free : ∀ c ∈ name, isForbidden c = false := fun c h_c =>
          isForbidden_of_isDomainChar (isDomainChar_of_mem_toAscii? h_ascii c h_c)
        obtain ⟨c, cs, rfl⟩ := List.exists_cons_of_ne_nil h_ne
        rw [chars, String.toList_ofList, parse_of_free h_free, if_pos h_domains, parseDomain,
          decode?_bind_toAscii? h_name]
        dsimp only
        rw [h_number, if_neg Bool.false_ne_true]
      · have h_free : ∀ c ∈ address.render, isForbidden c = false :=
          fun c h_c => Ipv4.isForbidden_of_mem_render h_c
        rw [chars, parse_of_free h_free, if_pos h_domains, parseDomain,
          decode?_bind_toAscii? address.toAscii?_render]
        obtain ⟨c, cs, h_eq⟩ := List.exists_cons_of_ne_nil address.render_ne_nil
        have h_number := address.endsInNumber_render
        have h_read := address.parse?_render
        rw [h_eq] at h_number h_read ⊢
        dsimp only
        rw [h_number, if_pos rfl, h_read]
    · next h_domains =>
      obtain ⟨h_free, rfl⟩ := parseVerbatim_eq_ok h_parse
      -- the text has been encoded, and needs no encoding
      have h_encoded : ∀ c ∈ encode EncodeSet.controls cs, isForbidden c = false :=
        isForbidden_of_mem_encode h_free
      have h_any : (encode EncodeSet.controls cs).any isForbidden = false :=
        List.any_eq_false.2 fun c h_c => Bool.eq_false_iff.1 (h_encoded c h_c)
      rw [chars, String.toList_ofList, parse_of_free h_encoded, if_neg h_domains, parseVerbatim, h_any,
        if_neg Bool.false_ne_true, encode_eq_self (isEncoded_encode_controls cs)]

end Host

end KeyedBreakers.Url
