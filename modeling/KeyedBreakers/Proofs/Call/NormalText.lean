import KeyedBreakers.Proofs.Call.WrittenTarget
import KeyedBreakers.Proofs.Url.NormalForm

/-!
# The text of an address, part by part

An address with a host is written in the usual form of a target: scheme, `://`, credentials up to an
`@`, a host, a port after a colon, and the rest. No part has anything in it that could be taken for the
end of another, because the parts are in normal form: credentials are encoded, hosts have an alphabet
of their own, and the rest starts with a delimiter.

* `Url.IsNormal.written` — the text of an address as a written target;
* `Url.IsNormal.chars_written`, `Url.IsNormal.port?_written` — it is that text, with the port of the
  address.
-/

namespace KeyedBreakers

open KeyedBreakers.Text KeyedBreakers.Url

/-! ### The parts of an address -/

theorem endsLocation_of_userinfo {c : Char} (h : EncodeSet.userinfo c = false) :
    endsLocation c = false := by
  rw [Bool.eq_false_iff]
  intro h_ends
  simp only [endsLocation, isIgnored, Bool.or_eq_true, beq_iff_eq, or_assoc] at h_ends
  rcases h_ends with rfl | rfl | rfl | rfl | rfl | rfl | rfl <;> exact absurd h (by decide)

theorem Url.IsHostText.isWrittenHost {cs : List Char} (h : IsHostText cs) (h_ne : cs ≠ []) :
    IsWrittenHost cs := by
  have h_delimits : ∀ {c : Char}, Host.isForbidden c = false → delimitsHost c = false := by
    intro c h_c
    simp only [Host.isForbidden, Bool.or_eq_false_iff] at h_c
    simp only [delimitsHost, endsLocation, isIgnored, h_c, Bool.or_self]
  -- whatever delimits a host is forbidden in names
  cases h with
  | bracketed h_inner =>
    exact .literal fun c h_c => (h_inner c h_c).imp_left fun h_digit =>
      h_delimits (Host.isForbidden_of_isHexDigit h_digit)
  | name h_free => exact .name h_ne fun c h_c => h_delimits (h_free c h_c)

/-- The text of credentials before the `@`, if there are any. -/
def Url.Credentials.userinfo? (c : Credentials) : Option (List Char) :=
  if c.isWritten then
    some (c.username.toList ++ if c.password = "" then [] else ':' :: c.password.toList)
  else none

theorem Url.Credentials.chars_eq (c : Credentials) :
    c.chars = (c.userinfo?.map (· ++ ['@'])).getD [] := by
  unfold chars userinfo?
  by_cases h : c.isWritten = true
  · rw [if_pos h, if_pos h, Option.map_some, Option.getD_some]
  · rw [if_neg h, if_neg h, Option.map_none, Option.getD_none]

theorem Url.Path.isTail_chars (names : List String) {rest : List Char} (h : IsTail rest) :
    IsTail ((Path.segments names).chars ++ rest) := by
  cases names with
  | nil => exact h
  | cons name names =>
    rintro c ⟨⟩
    exact .inl rfl

/-- What stands behind the authority of an address in normal form. -/
theorem Url.IsNormal.isTail_tailChars {u : Url} {host : Host} {a : Authority}
    {names : List (List Char)} (h : u.IsNormal host a names) : IsTail u.tailChars := by
  have h_fragment : IsTail (markedChars '#' u.fragment) := by
    cases u.fragment with
    | none => nofun
    | some f =>
      rintro c ⟨⟩
      exact .inr (.inr rfl)
  have h_query : IsTail (markedChars '?' u.query ++ markedChars '#' u.fragment) := by
    cases u.query with
    | none => exact h_fragment
    | some q =>
      rintro c ⟨⟩
      exact .inr (.inl rfl)
  rw [tailChars, h.path_eq, List.append_assoc]
  exact Path.isTail_chars _ h_query

/-! ### The address as a written target -/

namespace Url.IsNormal

variable {u : Url} {host : Host} {a : Authority} {names : List (List Char)}

/-- The text of an address, part by part. -/
def written (h : u.IsNormal host a names) : WrittenTarget where
  scheme := u.scheme.toList
  userinfo := a.credentials.userinfo?
  host := host.chars
  digits := a.port.map fun p => decimal p.toNat
  tail := u.tailChars
  h_scheme := by
    obtain ⟨c, cs, h_eq, h_alpha, h_cs⟩ := h.scheme.head
    exact ⟨c, cs, h_eq, h_alpha, List.all_eq_true.2 h_cs⟩
  h_userinfo := by
    intro text h_text c h_c
    unfold Credentials.userinfo? at h_text
    split at h_text
    · obtain rfl := Option.some.inj h_text
      rw [List.mem_append] at h_c
      rcases h_c with h_c | h_c
      · exact endsLocation_of_userinfo (h.authority.username c h_c).2
      · split at h_c
        · cases h_c
        · rcases List.mem_cons.1 h_c with rfl | h_c
          · decide
          · exact endsLocation_of_userinfo (h.authority.password c h_c).2
    · cases h_text
  h_host := by
    obtain ⟨cs, h_cs, h_parse⟩ := h.authority.parsed
    exact (Host.isHostText_of_parse h_parse).isWrittenHost (Host.chars_ne_nil_of_parse h_cs h_parse)
  h_digits := by
    intro ds h_ds
    obtain ⟨p, -, rfl⟩ := Option.map_eq_some_iff.1 h_ds
    exact List.all_eq_true.2 fun c h_c => isDigit_of_mem_decimal h_c
  h_tail := h.isTail_tailChars

theorem credentials_written (h : u.IsNormal host a names) :
    h.written.credentials = a.credentials.chars := by
  have h_userinfo : h.written.userinfo = a.credentials.userinfo? := rfl
  rw [WrittenTarget.credentials, h_userinfo, Credentials.chars_eq]
  cases a.credentials.userinfo? <;> rfl

theorem portPart_written (h : u.IsNormal host a names) :
    h.written.portPart = (a.port.map fun p => ':' :: decimal p.toNat).getD [] := by
  have h_digits : h.written.digits = a.port.map fun p => decimal p.toNat := rfl
  rw [WrittenTarget.portPart, h_digits]
  cases a.port <;> rfl

/-- It is the text of the address. -/
theorem chars_written (h : u.IsNormal host a names) : h.written.chars = u.chars := by
  have h_authority : a.chars = a.credentials.chars ++ (host.chars ++ h.written.portPart) := by
    rw [h.portPart_written, ← List.append_assoc]
    unfold Authority.chars
    rw [h.authority.host_eq]
    cases a.port <;> rfl
  have h_slashes : h.written.chars = u.scheme.toList
      ++ ':' :: '/' :: '/' :: (h.written.credentials ++ (host.chars ++ h.written.portPart)
        ++ u.tailChars) :=
    List.append_assoc _ _ _
  rw [h_slashes, h.chars_eq, h_authority, h.credentials_written]

/-- The port that is written is that of the address. -/
theorem port?_written (h : u.IsNormal host a names) :
    h.written.port? = u.port?.map UInt16.toNat := by
  have h_port : u.port? = a.port := by
    rw [port?, h.authority_eq]
    rfl
  rw [WrittenTarget.port?_eq_bind, h_port]
  show (a.port.map fun p => decimal p.toNat).bind readDecimal? = _
  cases a.port with
  | none => rfl
  | some p => exact readDecimal?_decimal p.toNat

end Url.IsNormal

end KeyedBreakers
