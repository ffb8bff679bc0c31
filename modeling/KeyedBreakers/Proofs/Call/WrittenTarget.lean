import KeyedBreakers.Call.Target
import KeyedBreakers.Proofs.Url.Endpoint
import KeyedBreakers.Proofs.Url.HostText
import Mathlib.Data.List.DropRight

/-!
# Targets as they are written

The usual form of a target is a scheme, `://`, credentials up to an `@`, a host, a port after a
colon, and the rest of the address. Two readers look at such a text: the reader of addresses, which
drops what it ignores and then separates the parts from left to right, and the scan for the port,
which goes by the last occurrence of each mark. Here the scan is shown to end at the written port,
whatever the credentials and the rest hold, and the text that the other reader sees is given.

* `WrittenTarget` — a target in the usual form;
* `WrittenTarget.portAsWritten?_chars` — what the scan finds;
* `WrittenTarget.significant_chars` — what is left of the text when the ignored characters are
  dropped.
-/

namespace KeyedBreakers

open KeyedBreakers.Text KeyedBreakers.Url

/-! ### The parts -/

/-- A character that no part before the rest of an address may hold: a delimiter of parts, or one
that is ignored in addresses. -/
def endsLocation (c : Char) : Bool :=
  c == '/' || c == '?' || c == '#' || c == '\\' || isIgnored c

/-- A character that a plain name of a host may not hold. -/
def delimitsHost (c : Char) : Bool :=
  endsLocation c || c == '@' || c == ':' || c == '[' || c == ']'

theorem delimitsHost_eq_false_iff {c : Char} :
    delimitsHost c = false ↔
      endsLocation c = false ∧ c ≠ '@' ∧ c ≠ ':' ∧ c ≠ '[' ∧ c ≠ ']' := by
  simp only [delimitsHost, Bool.or_eq_false_iff, beq_eq_false_iff_ne, and_assoc, ne_eq]

theorem delimitsHost_of_isDigit {c : Char} (h : c.isDigit = true) : delimitsHost c = false := by
  have h_free := Host.isForbidden_of_isDigit h
  simp only [Host.isForbidden, Bool.or_eq_false_iff] at h_free
  simp only [delimitsHost, endsLocation, isIgnored, h_free, Bool.or_self]

/-- A host as it is written: a literal in brackets, which may hold colons, or a name. -/
inductive IsWrittenHost : List Char → Prop
  | literal {inner : List Char} (h_inner : ∀ c ∈ inner, delimitsHost c = false ∨ c = ':') :
      IsWrittenHost ('[' :: inner ++ [']'])
  | name {cs : List Char} (h_ne : cs ≠ []) (h_free : ∀ c ∈ cs, delimitsHost c = false) :
      IsWrittenHost cs

theorem IsWrittenHost.eq_literal_or_name {cs : List Char} (h : IsWrittenHost cs) :
    (∃ inner, cs = '[' :: inner ++ [']'] ∧ ∀ c ∈ inner, delimitsHost c = false ∨ c = ':') ∨
      cs ≠ [] ∧ ∀ c ∈ cs, delimitsHost c = false := by
  cases h with
  | literal h_inner => exact .inl ⟨_, rfl, h_inner⟩
  | name h_ne h_free => exact .inr ⟨h_ne, h_free⟩

/-- The rest of an address: nothing, or a path, a query or a fragment. -/
def IsTail (cs : List Char) : Prop :=
  ∀ c ∈ cs.head?, c = '/' ∨ c = '?' ∨ c = '#'

/-- A target in the usual form, part by part. -/
structure WrittenTarget where
  scheme : List Char
  /-- The text before the `@`, if there is one. -/
  userinfo : Option (List Char)
  host : List Char
  /-- The digits after the colon, if there is one. -/
  digits : Option (List Char)
  tail : List Char
  h_scheme : ∃ c cs, scheme = c :: cs ∧ c.isAlpha = true ∧ cs.all Scheme.isNameChar = true
  h_userinfo : ∀ text ∈ userinfo, ∀ c ∈ text, endsLocation c = false
  h_host : IsWrittenHost host
  h_digits : ∀ ds ∈ digits, ds.all Char.isDigit = true
  h_tail : IsTail tail

namespace WrittenTarget

/-- The text before the host. -/
def credentials (w : WrittenTarget) : List Char :=
  match w.userinfo with
  | some text => text ++ ['@']
  | none => []

/-- The text between the host and the tail. -/
def portPart (w : WrittenTarget) : List Char :=
  match w.digits with
  | some ds => ':' :: ds
  | none => []

/-- The target as it is written. -/
def chars (w : WrittenTarget) : List Char :=
  w.scheme ++ [':', '/', '/'] ++ (w.credentials ++ (w.host ++ w.portPart) ++ w.tail)

/-- The target as it is written. -/
def text (w : WrittenTarget) : String :=
  String.ofList w.chars

/-- The port that is written: the value of the digits, if there are any. -/
def port? (w : WrittenTarget) : Option Nat :=
  w.digits.bind fun ds => if ds = [] then none else some (Nat.ofDigitChars 10 ds 0)

/-! ### The characters of the parts -/

variable {w : WrittenTarget}

theorem mem_scheme {c : Char} (h : c ∈ w.scheme) : Scheme.isNameChar c = true := by
  obtain ⟨d, cs, h_eq, h_alpha, h_all⟩ := w.h_scheme
  rw [h_eq] at h
  rcases List.mem_cons.1 h with rfl | h
  · simp [Scheme.isNameChar, Char.isAlphanum, h_alpha]
  · exact List.all_eq_true.1 h_all c h

theorem colon_notMem_scheme : ':' ∉ w.scheme := by
  intro h
  exact absurd (mem_scheme h) (by decide)

theorem mem_portPart {c : Char} (h : c ∈ w.portPart) : c = ':' ∨ c.isDigit = true := by
  unfold portPart at h
  split at h
  · next ds h_ds =>
    exact (List.mem_cons.1 h).imp_right (List.all_eq_true.1 (w.h_digits ds h_ds) c)
  · cases h

theorem mem_host {c : Char} (h : c ∈ w.host) :
    delimitsHost c = false ∨ c = ':' ∨ c = '[' ∨ c = ']' := by
  rcases w.h_host.eq_literal_or_name with ⟨inner, h_eq, h_inner⟩ | ⟨-, h_free⟩
  · rw [h_eq, List.cons_append, List.mem_cons, List.mem_append, List.mem_singleton] at h
    rcases h with h_open | h_in | h_close
    · exact .inr (.inr (.inl h_open))
    · exact (h_inner c h_in).imp_right .inl
    · exact .inr (.inr (.inr h_close))
  · exact .inl (h_free c h)

/-- Nothing in front of the tail ends the location or is ignored. -/
theorem mem_location {host : List Char} (h_host : host ⊆ w.host) {c : Char}
    (h : c ∈ w.credentials ++ (host ++ w.portPart)) : endsLocation c = false := by
  rw [List.mem_append, List.mem_append] at h
  rcases h with h | h | h
  · unfold credentials at h
    split at h
    · next text h_text =>
      rcases List.mem_append.1 h with h | h
      · exact w.h_userinfo text h_text c h
      · rw [List.mem_singleton.1 h]
        decide
    · cases h
  · rcases mem_host (h_host h) with h | rfl | rfl | rfl
    · exact (delimitsHost_eq_false_iff.1 h).1
    all_goals decide
  · rcases mem_portPart h with rfl | h
    · decide
    · exact (delimitsHost_eq_false_iff.1 (delimitsHost_of_isDigit h)).1

theorem at_notMem {host : List Char} (h_host : host ⊆ w.host) : '@' ∉ host ++ w.portPart := by
  intro h
  rcases List.mem_append.1 h with h | h
  · exact absurd (mem_host (h_host h)) (by decide)
  · exact absurd (mem_portPart h) (by decide)

/-! ### The scan -/

/-- What a reading up to the first delimiter takes. -/
theorem takeWhile_append_tail {p : Char → Bool} {cs tail : List Char}
    (h_cs : ∀ c ∈ cs, p c = true) (h_tail : ∀ c ∈ tail.head?, p c = false) :
    (cs ++ tail).takeWhile p = cs := by
  rw [List.takeWhile_append_of_pos h_cs]
  cases tail with
  | nil => simp
  | cons c tail => rw [List.takeWhile_cons, h_tail c rfl]; simp

/-- What it leaves. -/
theorem dropWhile_append_tail {p : Char → Bool} {cs tail : List Char}
    (h_cs : ∀ c ∈ cs, p c = true) (h_tail : ∀ c ∈ tail.head?, p c = false) :
    (cs ++ tail).dropWhile p = tail := by
  rw [List.dropWhile_append_of_pos h_cs]
  cases tail with
  | nil => rfl
  | cons c tail => rw [List.dropWhile_cons, h_tail c rfl]; simp

theorem afterCredentials_append {host : List Char} (h_host : host ⊆ w.host) :
    Target.afterCredentials (w.credentials ++ (host ++ w.portPart)) = host ++ w.portPart := by
  unfold Target.afterCredentials credentials
  cases w.userinfo with
  | none => rw [List.nil_append, cutLast?_of_notMem (at_notMem h_host)]
  | some text =>
    dsimp only
    rw [List.append_assoc, List.singleton_append, cutLast?_append text (at_notMem h_host)]

theorem colon_notMem_digits {ds : List Char} (h_ds : w.digits = some ds) : ':' ∉ ds := by
  intro h
  exact absurd (List.all_eq_true.1 (w.h_digits ds h_ds) _ h) (by decide)

theorem bracket_notMem_portPart : ']' ∉ w.portPart := by
  intro h
  exact absurd (mem_portPart h) (by decide)

/-- The port starts after the bracket that ends a literal, or after the only colon. -/
theorem afterPortColon?_append : Target.afterPortColon? (w.host ++ w.portPart) = w.digits := by
  unfold Target.afterPortColon?
  rcases w.h_host.eq_literal_or_name with ⟨inner, h_eq, h_inner⟩ | ⟨-, h_free⟩
  · rw [h_eq, List.append_assoc, List.singleton_append,
      cutLast?_append _ bracket_notMem_portPart]
    unfold portPart
    cases w.digits <;> rfl
  -- a plain name has neither a bracket nor a colon, so the last colon is that of the port
  · have h_bracket : ']' ∉ w.host ++ w.portPart := by
      intro h
      rcases List.mem_append.1 h with h | h
      · exact absurd (h_free _ h) (by decide)
      · exact bracket_notMem_portPart h
    have h_colon : ':' ∉ w.host := by
      intro h
      exact absurd (h_free _ h) (by decide)
    rw [cutLast?_of_notMem h_bracket]
    unfold portPart
    cases h_ds : w.digits with
    | none => simp [cutLast?_of_notMem h_colon]
    | some ds => simp [cutLast?_append _ (colon_notMem_digits h_ds)]

/-- The value that the scan reads from the digits. -/
theorem readBounded?_digits {ds : List Char} (h : ds.all Char.isDigit = true) :
    readBounded? 65535 ds = (readDecimal? ds).filter (· ≤ 65535) := by
  unfold readBounded?
  dsimp only
  split
  · next ds => exact absurd h (by simp)
  · rfl

theorem port?_eq_bind : w.port? = w.digits.bind readDecimal? := by
  unfold port?
  refine Option.bind_congr fun ds h_ds => ?_
  unfold readDecimal?
  by_cases h_nil : ds = []
  · rw [if_pos h_nil, if_neg (by simp [h_nil])]
  · rw [if_neg h_nil, if_pos ⟨h_nil, w.h_digits ds h_ds⟩]

/-- **The scan finds the written port.** -/
theorem portAsWritten?_chars :
    Target.portAsWritten? w.chars = (w.port?.filter (· ≤ 65535)).map UInt16.ofNat := by
  have h_tail : ∀ c ∈ w.tail.head?, (!Target.endsHostAndPort c) = false := by
    intro c h_c
    rcases w.h_tail c h_c with rfl | rfl | rfl <;> rfl
  have h_location : ∀ c ∈ w.credentials ++ (w.host ++ w.portPart),
      (!Target.endsHostAndPort c) = true := by
    intro c h_c
    have h_free := mem_location (List.Subset.refl _) h_c
    simp only [endsLocation, Bool.or_eq_false_iff] at h_free
    simp only [Target.endsHostAndPort, h_free, Bool.or_self, Bool.not_false]
  unfold Target.portAsWritten? chars
  -- the scan goes through its three cuts, each at the mark that ends a part
  rw [cutAtText?_append _ _ colon_notMem_scheme, Option.bind_eq_bind, Option.bind_some]
  dsimp only
  rw [takeWhile_append_tail h_location h_tail, afterCredentials_append (List.Subset.refl _),
    afterPortColon?_append, port?_eq_bind]
  cases h_ds : w.digits with
  | none => rfl
  | some ds =>
    rw [Option.bind_eq_bind, Option.bind_some, readBounded?_digits (w.h_digits ds h_ds)]
    rfl

/-! ### What is left of the text -/

theorem trimBy_eq_rdropWhile {c : Char} {cs : List Char} (h : isPadding c = false) :
    trimBy isPadding (c :: cs) = (c :: cs).rdropWhile isPadding := by
  rw [trimBy, List.rdropWhile, List.dropWhile_cons, h]
  rfl

/-- Padding is removed up to the last character that is none. -/
theorem rdropWhile_append {c : Char} {xs : List Char} (ys : List Char)
    (h_last : xs.getLast? = some c) (h : isPadding c = false) :
    (xs ++ ys).rdropWhile isPadding = xs ++ ys.rdropWhile isPadding := by
  induction ys using List.reverseRecOn with
  | nil =>
    obtain ⟨front, rfl⟩ := List.getLast?_eq_some_iff.1 h_last
    rw [List.append_nil, List.rdropWhile_nil, List.append_nil,
      List.rdropWhile_concat_neg _ _ _ (by simp [h])]
  | append_singleton ys d ih =>
    rw [← List.append_assoc, List.rdropWhile_concat, List.rdropWhile_concat]
    split
    · exact ih
    · rw [List.append_assoc]

theorem isPadding_of_isNameChar {c : Char} (h : Scheme.isNameChar c = true) :
    isPadding c = false := by
  have h_low : ∀ n < 0x21, Scheme.isNameChar (Char.ofNat n) = false := by decide
  rw [isPadding, decide_eq_false_iff_not]
  intro h_le
  have h_c := h_low c.toNat (Nat.lt_succ_of_le h_le)
  rw [Char.ofNat_toNat, h] at h_c
  cases h_c

theorem isIgnored_of_isPadding {c : Char} (h : isPadding c = false) : isIgnored c = false := by
  rw [Bool.eq_false_iff]
  intro h_ignored
  simp only [isIgnored, Bool.or_eq_true, beq_iff_eq] at h_ignored
  rcases h_ignored with (rfl | rfl) | rfl <;> exact absurd h (by decide)

/-- The host as the reader of addresses sees it. Where nothing follows the host, its end is the end
of the text, and padding is removed from it. -/
def seenHost (w : WrittenTarget) : List Char :=
  if w.digits = none ∧ w.tail = [] then w.host.rdropWhile isPadding else w.host

/-- What stands in front of the host is never removed. -/
theorem exists_getLast?_front :
    ∃ c, (w.scheme ++ [':', '/', '/'] ++ w.credentials).getLast? = some c ∧
      isPadding c = false := by
  unfold credentials
  cases w.userinfo with
  | none => exact ⟨'/', by simp, by decide⟩
  | some text =>
    refine ⟨'@', ?_, by decide⟩
    dsimp only
    rw [← List.append_assoc]
    exact List.getLast?_concat

theorem exists_getLast?_portPart (xs : List Char) (h : w.digits ≠ none) :
    ∃ c, (xs ++ w.portPart).getLast? = some c ∧ isPadding c = false := by
  have h_ne : w.portPart ≠ [] := by
    unfold portPart
    cases h_ds : w.digits with
    | none => exact absurd h_ds h
    | some ds => exact List.cons_ne_nil _ _
  refine ⟨w.portPart.getLast h_ne, ?_, ?_⟩
  · rw [List.getLast?_append, List.getLast?_eq_some_getLast h_ne]
    rfl
  · rcases mem_portPart (List.getLast_mem h_ne) with h_colon | h_digit
    · rw [h_colon]
      decide
    · exact isPadding_of_isNameChar (by simp [Scheme.isNameChar, Char.isAlphanum, h_digit])

theorem seenHost_subset : w.seenHost ⊆ w.host := by
  unfold seenHost
  split
  · exact (List.rdropWhile_prefix _ _).subset
  · exact List.Subset.refl _

/-- The text up to the tail, with the given host. -/
def front (w : WrittenTarget) (host : List Char) : List Char :=
  w.scheme ++ [':', '/', '/'] ++ (w.credentials ++ (host ++ w.portPart))

theorem chars_eq_front (w : WrittenTarget) : w.chars = w.front w.host ++ w.tail := by
  simp only [chars, front, List.append_assoc]

/-- No character in front of the tail is ignored. -/
theorem filter_front {host : List Char} (h_host : host ⊆ w.host) :
    (w.front host).filter (!isIgnored ·) = w.front host := by
  unfold front
  rw [List.filter_eq_self]
  intro c h_c
  rw [Bool.not_eq_true', List.mem_append, List.mem_append] at *
  rcases h_c with (h_c | h_c) | h_c
  · exact isIgnored_of_isPadding (isPadding_of_isNameChar (mem_scheme h_c))
  · simp only [List.mem_cons, List.not_mem_nil, or_false] at h_c
    rcases h_c with rfl | rfl | rfl <;> decide
  · have h_free := mem_location h_host h_c
    simp only [endsLocation, Bool.or_eq_false_iff] at h_free
    exact h_free.2

theorem significant_eq (w : WrittenTarget) :
    significant w.chars = (w.chars.rdropWhile isPadding).filter (!isIgnored ·) := by
  obtain ⟨c, cs, h_eq, h_alpha, -⟩ := w.h_scheme
  have h_c : isPadding c = false :=
    isPadding_of_isNameChar (by simp [Scheme.isNameChar, Char.isAlphanum, h_alpha])
  unfold significant chars
  rw [h_eq, List.cons_append, List.cons_append, trimBy_eq_rdropWhile h_c]

/-- Where nothing follows the location, trimming removes the end of a host without a port. -/
theorem rdropWhile_front (h_tail : w.tail = []) :
    (w.front w.host).rdropWhile isPadding = w.front w.seenHost := by
  unfold front seenHost
  by_cases h_ds : w.digits = none
  · -- the host is at the end, and a slash or an at sign stops the trimming
    have h_port : w.portPart = [] := by
      unfold portPart
      rw [h_ds]
    obtain ⟨c, h_last, h_c⟩ := w.exists_getLast?_front
    rw [if_pos ⟨h_ds, h_tail⟩, h_port, List.append_nil, List.append_nil, ← List.append_assoc,
      ← List.append_assoc, rdropWhile_append _ h_last h_c]
  · -- the colon or a digit is at the end
    obtain ⟨c, h_last, h_c⟩ := w.exists_getLast?_portPart
      (w.scheme ++ [':', '/', '/'] ++ w.credentials ++ w.host) h_ds
    have h_trim := rdropWhile_append [] h_last h_c
    rw [if_neg fun h => h_ds h.1]
    simpa using h_trim

/-- **What the reader of addresses sees.** The parts of the text, with the end of the host or of the
tail removed. -/
theorem significant_chars (w : WrittenTarget) :
    ∃ tail, IsTail tail ∧ (w.tail = [] → tail = []) ∧
      significant w.chars = w.front w.seenHost ++ tail := by
  rw [significant_eq, chars_eq_front]
  cases h_tail : w.tail with
  | cons c tail =>
    -- the first character of the tail stays, and so does all before it
    have h_c := w.h_tail c (by rw [h_tail]; rfl)
    have h_free : isPadding c = false ∧ (!isIgnored c) = true := by
      rcases h_c with rfl | rfl | rfl <;> decide
    have h_seen : w.seenHost = w.host := if_neg (by simp [h_tail])
    refine ⟨c :: (tail.rdropWhile isPadding).filter (!isIgnored ·), ?_, nofun, ?_⟩
    · rintro d ⟨⟩
      exact h_c
    · have h_kept : [c].filter (!isIgnored ·) = [c] := List.filter_cons_of_pos h_free.2
      rw [List.append_cons, rdropWhile_append tail List.getLast?_concat h_free.1, List.filter_append,
        List.filter_append, filter_front (List.Subset.refl _), h_kept, h_seen,
        List.append_assoc, List.singleton_append]
  | nil =>
    refine ⟨[], nofun, fun _ => rfl, ?_⟩
    rw [List.append_nil, List.append_nil, rdropWhile_front h_tail, filter_front seenHost_subset]

end WrittenTarget

end KeyedBreakers
