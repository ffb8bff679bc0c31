import KeyedBreakers.Key.Selector
import KeyedBreakers.Proofs.Call.PortScan
import KeyedBreakers.Proofs.Key.Partition
import KeyedBreakers.Proofs.Url.Refusal
import Mathlib.Data.List.TakeWhile

/-!
# The port of a target is the written one

The address of a target forgets the default port of its scheme, and the scan for the written port
knows neither schemes nor what addresses ignore. For a target in the usual form the two agree: the
port of the target is the value of the written digits, also where it is the default, and there is
none where no digits are written. So the key by target is the host with the written port.

The key does not depend on the credentials, and hardly on the tail. The exception is the end of the
text: padding there is not part of the address, and where the text ends with the host, it is taken
from the host. A host that ends with a control is one host in front of a tail and another without
one (`key_depends_on_tail`).

* `WrittenTarget.reads_of_parse` — how the host and the port of an address are read from the parts;
* `WrittenTarget.keeps_written_port` — the main theorem.
-/

namespace KeyedBreakers

open KeyedBreakers.Text KeyedBreakers.Unicode KeyedBreakers.Url

namespace WrittenTarget

variable {w : WrittenTarget}

/-! ### Finding the authority -/

/-- The rules of the scheme. -/
def kind (w : WrittenTarget) : SchemeKind :=
  Scheme.kind (String.ofList (w.scheme.map Char.toLower))

theorem split?_append (rest : List Char) :
    Scheme.split? (w.scheme ++ [':', '/', '/'] ++ rest) =
      some (w.scheme.map Char.toLower, '/' :: '/' :: rest) := by
  obtain ⟨c, cs, h_eq, h_alpha, h_all⟩ := w.h_scheme
  have h_cs := List.all_eq_true.1 h_all
  have h_colon : Scheme.isNameChar ':' = false := by decide
  rw [h_eq, List.append_assoc, List.cons_append, Scheme.split?, if_pos h_alpha,
    List.takeWhile_append_of_pos h_cs, List.dropWhile_append_of_pos h_cs]
  simp [h_colon]

theorem endsAuthority_of_endsLocation {kind : SchemeKind} {c : Char} (h : endsLocation c = false) :
    kind.endsAuthority c = false := by
  simp only [endsLocation, Bool.or_eq_false_iff] at h
  simp only [SchemeKind.endsAuthority, SchemeKind.isSlash, h, Bool.or_self, Bool.and_false]

/-- The authority behind the slashes is what stands in front of the tail. -/
theorem authorityText?_append {kind : SchemeKind} {location tail : List Char}
    (h_location : ∀ c ∈ location, endsLocation c = false) (h_tail : IsTail tail)
    (h_nil : location = [] → tail = []) :
    authorityText? kind ('/' :: '/' :: (location ++ tail)) = some location := by
  have h_take : (location ++ tail).takeWhile (!kind.endsAuthority ·) = location := by
    refine takeWhile_append_tail (fun c h_c => ?_) (fun c h_c => ?_)
    · rw [endsAuthority_of_endsLocation (h_location c h_c)]
      rfl
    · rcases h_tail c h_c with rfl | rfl | rfl <;> simp [SchemeKind.endsAuthority, SchemeKind.isSlash]
  unfold authorityText?
  cases kind with
  | file => exact congrArg some h_take
  | other => exact congrArg some h_take
  | special port =>
    -- the slashes end where the location begins
    have h_drop : ('/' :: '/' :: (location ++ tail)).dropWhile (SchemeKind.special port).isSlash =
        location ++ tail := by
      rw [List.dropWhile_cons_of_pos rfl, List.dropWhile_cons_of_pos rfl]
      cases location with
      | nil => rw [h_nil rfl, List.append_nil, List.dropWhile_nil]
      | cons c cs =>
        have h_end : (SchemeKind.special port).endsAuthority c = false :=
          endsAuthority_of_endsLocation (h_location c (List.mem_cons_self ..))
        simp only [SchemeKind.endsAuthority, Bool.or_eq_false_iff] at h_end
        rw [List.cons_append, List.dropWhile_cons, h_end.1.1]
        rfl
    dsimp only
    rw [h_drop, h_take]

/-- A host is seen to be empty only if it is all padding, and at the end of the text. -/
theorem tail_eq_nil_of_seenHost_eq_nil (h : w.seenHost = []) : w.tail = [] := by
  unfold seenHost at h
  split at h
  · next h_end => exact h_end.2
  · rcases w.h_host.eq_literal_or_name with ⟨inner, h_eq, -⟩ | ⟨h_ne, -⟩
    · rw [h] at h_eq
      cases h_eq
    · exact absurd h h_ne

/-- The host and the port of an address are read from the location as the reader sees it. -/
theorem namesEndpoint_of_parse {url : Url} {host : Host} (h_parse : Url.parse w.text = .ok url)
    (h_host : url.host? = some host) :
    NamesEndpoint w.kind (w.credentials ++ (w.seenHost ++ w.portPart)) host url.port? := by
  obtain ⟨name, rest, authority, h_split, h_text, h_names⟩ :=
    Url.namesEndpoint_of_parse h_parse h_host
  -- the reader takes its parts from what is left of the text
  obtain ⟨tail, h_tail, h_nil, h_chars⟩ := w.significant_chars
  rw [text, String.toList_ofList, h_chars, front, List.append_assoc, split?_append,
    Option.some_inj, Prod.mk.injEq] at h_split
  obtain ⟨rfl, rfl⟩ := h_split
  rw [authorityText?_append (fun c h_c => mem_location seenHost_subset h_c) h_tail ?nil,
    Option.some_inj] at h_text
  case nil =>
    intro h_empty
    rw [List.append_eq_nil_iff, List.append_eq_nil_iff] at h_empty
    exact h_nil (tail_eq_nil_of_seenHost_eq_nil h_empty.2.1)
  rw [← h_text] at h_names
  exact h_names

/-! ### Reading the authority -/

theorem cutPort_name {cs : List Char} (h : ∀ c ∈ cs, c ≠ ':' ∧ c ≠ '[') (rest : List Char) :
    cutPort false (cs ++ rest) = (cs ++ (cutPort false rest).1, (cutPort false rest).2) := by
  induction cs with
  | nil => rfl
  | cons c cs ih =>
    obtain ⟨h_colon, h_open⟩ := h c (List.mem_cons_self ..)
    rw [List.cons_append, cutPort, if_neg (fun h_c => h_colon h_c.1)]
    dsimp only
    rw [if_neg h_open, ite_self, ih fun d h_d => h d (List.mem_cons_of_mem c h_d)]
    rfl

/-- Colons in brackets are part of the host. -/
theorem cutPort_inside {cs : List Char} (h : ']' ∉ cs) (rest : List Char) :
    cutPort true (cs ++ ']' :: rest) =
      (cs ++ ']' :: (cutPort false rest).1, (cutPort false rest).2) := by
  induction cs with
  | nil => rw [List.nil_append, cutPort, if_neg (by simp)]; rfl
  | cons c cs ih =>
    rw [List.mem_cons, not_or] at h
    rw [List.cons_append, cutPort, if_neg (by simp)]
    dsimp only
    rw [if_neg (Ne.symm h.1), ite_self, ih h.2]
    rfl

theorem cutPort_portPart : cutPort false w.portPart = ([], w.digits) := by
  unfold portPart
  cases w.digits with
  | none => rfl
  | some ds => rw [cutPort, if_pos ⟨rfl, rfl⟩]

/-- A literal is seen as it is written, and a name is free of delimiters as seen too. -/
theorem seenHost_eq_literal_or_name (w : WrittenTarget) :
    (∃ inner, w.seenHost = '[' :: inner ++ [']'] ∧ ∀ c ∈ inner, delimitsHost c = false ∨ c = ':') ∨
      ∀ c ∈ w.seenHost, delimitsHost c = false := by
  rcases w.h_host.eq_literal_or_name with ⟨inner, h_eq, h_inner⟩ | ⟨-, h_free⟩
  · refine .inl ⟨inner, ?_, h_inner⟩
    have h_trim : w.host.rdropWhile isPadding = w.host := by
      have h_last : w.host.getLast? = some ']' := by rw [h_eq]; exact List.getLast?_concat
      simpa using rdropWhile_append [] h_last (by decide)
    rw [← h_eq, seenHost, h_trim, ite_self]
  · exact .inr fun c h_c => h_free c (seenHost_subset h_c)

/-- **The reader cuts the location at the port.** -/
theorem cutPort_append : cutPort false (w.seenHost ++ w.portPart) = (w.seenHost, w.digits) := by
  rcases w.seenHost_eq_literal_or_name with ⟨inner, h_eq, h_inner⟩ | h_free
  · have h_close : ']' ∉ inner := by
      intro h
      exact absurd (h_inner _ h) (by decide)
    rw [h_eq, List.append_assoc, List.singleton_append, List.cons_append, cutPort,
      if_neg (by simp)]
    dsimp only
    rw [if_pos rfl, cutPort_inside h_close, cutPort_portPart]
    rfl
  · have h_name : ∀ c ∈ w.seenHost, c ≠ ':' ∧ c ≠ '[' := by
      intro c h_c
      have h := delimitsHost_eq_false_iff.1 (h_free c h_c)
      exact ⟨h.2.2.1, h.2.2.2.1⟩
    rw [cutPort_name h_name, cutPort_portPart, List.append_nil]

theorem location_of_splitCredentials {followed : Bool} {credentials : Credentials}
    {location : List Char}
    (h : Authority.splitCredentials followed (w.credentials ++ (w.seenHost ++ w.portPart)) =
      .ok (credentials, location)) : location = w.seenHost ++ w.portPart := by
  rw [Target.location_eq_afterCredentials h, afterCredentials_append seenHost_subset]

/-- What a run of digits is read as. -/
theorem readPort_digits {ds : List Char} (h : ds.all Char.isDigit = true) :
    readPort ds = match readDecimal? ds with
      | none => .ok (none, [])
      | some n => if n < 65536 then .ok (some (UInt16.ofNat n), []) else .error .invalidPort := by
  have h_ds := List.all_eq_true.1 h
  have h_take : ds.takeWhile Char.isDigit = ds := List.takeWhile_eq_self_iff.2 h_ds
  have h_drop : ds.dropWhile Char.isDigit = [] := List.dropWhile_eq_nil_iff.2 h_ds
  unfold readPort
  dsimp only
  rw [h_take, h_drop]
  cases readDecimal? ds with
  | none => exact if_neg (by simp)
  | some n => exact if_neg (by simp)

/-- The port that the reader finds is the value of the digits, and in range. -/
theorem port_of_readPort {port : Option UInt16} {left : List Char}
    (h : readPort (w.digits.getD []) = .ok (port, left)) :
    (∀ n, w.port? = some n → n < 65536) ∧ port = w.port?.map UInt16.ofNat := by
  rw [port?_eq_bind]
  cases h_ds : w.digits with
  | none =>
    rw [h_ds] at h
    cases h
    exact ⟨nofun, rfl⟩
  | some ds =>
    rw [h_ds, Option.getD_some, readPort_digits (w.h_digits ds h_ds)] at h
    rw [Option.bind_some]
    cases h_read : readDecimal? ds with
    | none =>
      rw [h_read] at h
      cases h
      exact ⟨nofun, rfl⟩
    | some n =>
      rw [h_read] at h
      dsimp only at h
      split at h
      · next h_lt =>
        cases h
        exact ⟨fun m h_m => Option.some.inj h_m ▸ h_lt, rfl⟩
      · cases h

/-! ### Addresses of files -/

/-- The address of a file has neither credentials nor a port: the reader takes the location for the
host, and no host has an at sign, or a colon outside brackets. -/
theorem bare_of_parse {host : Host}
    (h_parse : Host.parse true (w.credentials ++ (w.seenHost ++ w.portPart)) = .ok host) :
    w.credentials = [] ∧ w.digits = none := by
  constructor
  · unfold credentials at h_parse ⊢
    cases h_user : w.userinfo with
    | none => rfl
    | some text =>
      rw [h_user] at h_parse
      -- the at sign would be part of the host
      have h_colon := (Host.eq_colon_of_mem h_parse (c := '@') (by decide) (by simp)).1
      exact absurd h_colon (by decide)
  · cases h_ds : w.digits with
    | none => rfl
    | some ds =>
      have h_port : ':' ∈ w.portPart := by
        unfold portPart
        rw [h_ds]
        exact List.mem_cons_self ..
      have h_last := (Host.eq_colon_of_mem h_parse (c := ':') (by decide) (by simp [h_port])).2
      -- the last character belongs to the port
      rw [← List.append_assoc, List.getLast?_append_of_ne_nil _ (List.ne_nil_of_mem h_port)] at h_last
      exact absurd (List.mem_of_getLast? h_last) bracket_notMem_portPart

/-- **How an address is read from the parts.** The host is read from what is seen of the host, the
digits are in range, and the port is their value unless the scheme has that by default. -/
theorem reads_of_parse {url : Url} {host : Host} (h_parse : Url.parse w.text = .ok url)
    (h_host : url.host? = some host) :
    Host.parse w.kind.isSpecial w.seenHost = .ok host ∧ (∀ n, w.port? = some n → n < 65536) ∧
      (url.port? = none ∨ url.port? = w.port?.map UInt16.ofNat) := by
  have h_names := namesEndpoint_of_parse h_parse h_host
  generalize url.port? = port at h_names
  cases h_names with
  | ofFile h_kind h_host =>
    obtain ⟨h_credentials, h_digits⟩ := bare_of_parse h_host
    have h_port : w.portPart = [] := by
      unfold portPart
      rw [h_digits]
    rw [h_credentials, h_port, List.nil_append, List.append_nil] at h_host
    rw [h_kind]
    exact ⟨h_host, by simp [port?, h_digits], .inl rfl⟩
  | ofAuthority h_kind h_split h_host h_port =>
    obtain rfl := location_of_splitCredentials h_split
    rw [cutPort_append] at h_host h_port
    obtain ⟨h_lt, rfl⟩ := port_of_readPort h_port
    refine ⟨h_host, h_lt, ?_⟩
    split
    · exact .inl rfl
    · exact .inr rfl

/-! ### The port -/

/-- A target with a host, by the parts of its text. -/
theorem exists_host_of_parse {t : Target} (h_parse : Target.parse w.text = .ok t)
    (h_host : t.host?.isSome = true) :
    ∃ host : Host, t.host? = some host.text ∧ Host.parse w.kind.isSpecial w.seenHost = .ok host ∧
      t.port.map UInt16.toNat = w.port? := by
  obtain ⟨url, h_url, rfl⟩ := Target.parse_eq_ok h_parse
  obtain ⟨name, h_name⟩ := Option.isSome_iff_exists.1 h_host
  obtain ⟨host, h_url_host, rfl⟩ := Option.map_eq_some_iff.1 h_name
  obtain ⟨h_read, h_lt, h_port⟩ := reads_of_parse h_url h_url_host
  refine ⟨host, h_name, h_read, ?_⟩
  -- both readers have the value of the digits, and the scan has it whenever the other forgets it
  have h_scan : Target.portAsWritten? w.text.toList = w.port?.map UInt16.ofNat := by
    rw [text, String.toList_ofList, portAsWritten?_chars]
    cases h_n : w.port? with
    | none => rfl
    | some n =>
      have h_le : n ≤ 65535 := Nat.le_of_lt_succ (h_lt n h_n)
      simp [Option.filter, h_le]
  -- the port of the address comes first, and is either the same or none
  have h_both : (url.port? <|> Target.portAsWritten? w.text.toList) = w.port?.map UInt16.ofNat := by
    rw [h_scan]
    rcases h_port with h_none | h_some
    · rw [h_none]
      rfl
    · rw [h_some]
      cases w.port? <;> rfl
  dsimp only
  rw [h_both]
  cases h_n : w.port? with
  | none => rfl
  | some n => exact congrArg some (UInt16.toNat_ofNat_of_lt' (h_lt n h_n))

/-! ### The end of the host -/

/-- Padding at the end of a host is a control, and the scheme has no domain names. -/
theorem control_of_parse {domains : Bool} {cs : List Char} {host : Host} {c : Char}
    (h_parse : Host.parse domains cs = .ok host) (h_last : cs.getLast? = some c)
    (h_c : isPadding c = true) : domains = false ∧ c.toNat < 0x20 := by
  have h_le : c.toNat ≤ 0x20 := of_decide_eq_true h_c
  have h_mem := List.mem_of_getLast? h_last
  cases domains with
  | true =>
    have h_lasting : isLasting c = true := by simp [isLasting, h_le]
    rw [(Host.eq_colon_of_mem h_parse h_lasting h_mem).1] at h_c
    exact absurd h_c (by decide)
  | false =>
    refine ⟨rfl, ?_⟩
    unfold Host.parse at h_parse
    split at h_parse
    · -- a literal ends with its bracket
      rw [(Host.parseBracketed_eq_ok h_parse).1, Option.some_inj] at h_last
      rw [← h_last] at h_c
      exact absurd h_c (by decide)
    · -- no name of any scheme has a space
      have h_free := (Host.parseVerbatim_eq_ok h_parse).1 c h_mem
      refine Nat.lt_of_le_of_ne h_le fun h_eq => ?_
      have h_space : c = ' ' := Char.toNat_inj.1 h_eq
      rw [h_space] at h_free
      exact absurd h_free (by decide)

/-- The host ends with a control. -/
def EndsInControl (cs : List Char) : Prop :=
  ∃ c, cs.getLast? = some c ∧ c.toNat < 0x20

/-- A host that is read as it is written, and has no control at its end that could stay, has no
padding to lose. -/
theorem rdropWhile_of_parse {domains : Bool} {cs : List Char} {host : Host}
    (h_parse : Host.parse domains cs = .ok host) (h_end : domains = false → ¬ EndsInControl cs) :
    cs.rdropWhile isPadding = cs := by
  rw [List.rdropWhile_eq_self_iff]
  intro h_ne h_c
  have h_last := List.getLast?_eq_some_getLast h_ne
  obtain ⟨h_domains, h_lt⟩ := control_of_parse h_parse h_last h_c
  exact h_end h_domains ⟨_, h_last, h_lt⟩

/-- Two targets that differ only in their credentials and their tails. -/
structure SameEndpoint (w w' : WrittenTarget) : Prop where
  scheme : w'.scheme = w.scheme
  host : w'.host = w.host
  digits : w'.digits = w.digits

theorem SameEndpoint.kind_eq {w' : WrittenTarget} (h : w.SameEndpoint w') : w'.kind = w.kind := by
  rw [kind, h.scheme]
  rfl

theorem seenHost_of_tail_ne_nil (h : w.tail ≠ []) : w.seenHost = w.host :=
  if_neg fun h_end => h h_end.2

/-- A host is seen as it is written, or without its padding. -/
theorem seenHost_eq_host (h : w.host.rdropWhile isPadding = w.host) : w.seenHost = w.host := by
  rw [seenHost, h, ite_self]

/-- The tails of two targets tell the ends of their hosts alike: where it matters, both hosts end
the text or neither does. -/
def EndsAlike (w w' : WrittenTarget) : Prop :=
  w.kind.isSpecial = false → w.digits = none → EndsInControl w.host → (w.tail = [] ↔ w'.tail = [])

/-- Hosts that are written alike are seen alike if both are read. -/
theorem seenHost_eq_of_parse {w' : WrittenTarget} {host host' : Host} (h : w.SameEndpoint w')
    (h_end : w.EndsAlike w') (h_host : Host.parse w.kind.isSpecial w.seenHost = .ok host)
    (h_host' : Host.parse w'.kind.isSpecial w'.seenHost = .ok host') : w'.seenHost = w.seenHost := by
  by_cases h_tails : w.tail = [] ↔ w'.tail = []
  · simp only [seenHost, h.host, h.digits, h_tails]
  · by_cases h_digits : w.digits = none
    · -- one of the hosts is read as it is written, so neither has padding to lose
      have h_free : w.kind.isSpecial = false → ¬ EndsInControl w.host :=
        fun h_kind h_control => h_tails (h_end h_kind h_digits h_control)
      have h_stays : w.host.rdropWhile isPadding = w.host := by
        by_cases h_tail : w.tail = []
        · have h_tail' : w'.tail ≠ [] := fun h_tail' => h_tails (iff_of_true h_tail h_tail')
          rw [seenHost_of_tail_ne_nil h_tail', h.kind_eq, h.host] at h_host'
          exact rdropWhile_of_parse h_host' h_free
        · rw [seenHost_of_tail_ne_nil h_tail] at h_host
          exact rdropWhile_of_parse h_host h_free
      rw [seenHost_eq_host h_stays, seenHost_eq_host (by rw [h.host, h_stays]), h.host]
    · simp only [seenHost, h.host, h.digits, h_digits, false_and]

/-! ### The main theorem -/

/-- The key by target of a target whose port is written. -/
theorem byTarget_of_port? {call : Call} {host : String} (h_host : call.target.host? = some host)
    (h_port : call.target.port.map UInt16.toNat = w.port?) :
    Selector.byTarget call = .ok (match w.port? with
      | some n => host ++ ":" ++ String.ofList (decimal n)
      | none => host) := by
  rw [Selector.byTarget_eq_ok]
  refine ⟨host, h_host, ?_⟩
  rw [← h_port]
  cases call.target.port <;> rfl

/-- **The port of a target is the written one.** For a target in the usual form that has a host, the
port is the value of the digits, or none where none are written, and the key by target is made of
the host and these digits. Another such target with other credentials and another tail has the same
key, unless the end of the text takes padding from one host and not from the other. -/
theorem keeps_written_port {t : Target} (h_parse : Target.parse w.text = .ok t)
    (h_host : t.host?.isSome = true) :
    t.port.map UInt16.toNat = w.port? ∧
    (∀ call : Call, call.target = t → ∃ host, t.host? = some host ∧
      Selector.byTarget call = .ok (match w.port? with
        | some n => host ++ ":" ++ String.ofList (decimal n)
        | none => host)) ∧
    ∀ (w' : WrittenTarget) (t' : Target), w.SameEndpoint w' → w.EndsAlike w' →
      Target.parse w'.text = .ok t' → t'.host?.isSome = true →
      ∀ a b : Call, a.target = t → b.target = t' → Selector.byTarget a = Selector.byTarget b := by
  obtain ⟨host, h_name, h_read, h_port⟩ := exists_host_of_parse h_parse h_host
  refine ⟨h_port, ?_, ?_⟩
  · rintro call rfl
    exact ⟨host.text, h_name, byTarget_of_port? h_name h_port⟩
  · rintro w' t' h_same h_end h_parse' h_host' a b rfl rfl
    obtain ⟨host', h_name', h_read', h_port'⟩ := exists_host_of_parse h_parse' h_host'
    -- the same host and the same digits make the same key
    have h_seen := seenHost_eq_of_parse h_same h_end h_read h_read'
    rw [h_seen, h_same.kind_eq, h_read, Except.ok.injEq] at h_read'
    have h_digits : w'.port? = w.port? := by rw [port?, port?, h_same.digits]
    rw [byTarget_of_port? h_name h_port, byTarget_of_port? h_name' h_port', h_read', h_digits]

/-- A queue whose name ends with a control, at the end of the text. -/
def bareQueue : WrittenTarget where
  scheme := ['r', 'p', 'c']
  userinfo := none
  host := ['q', '\x01']
  digits := none
  tail := []
  h_scheme := ⟨'r', ['p', 'c'], rfl, rfl, rfl⟩
  h_userinfo := nofun
  h_host := .name (by decide) (by simp [delimitsHost, endsLocation, isIgnored])
  h_digits := nofun
  h_tail := nofun

/-- The queue in front of a path. -/
def slashedQueue : WrittenTarget :=
  { bareQueue with
    tail := ['/']
    h_tail := by rintro _ ⟨⟩; decide }

/-- The queue with credentials and a port, in front of a query that looks like another host. -/
def busyQueue : WrittenTarget :=
  { bareQueue with
    userinfo := some ['a', ':', '[', '@']
    digits := some ['0', '8', '1']
    tail := ['?', ':', '/', '/', '@', 'q', ':', '9']
    h_userinfo := by rintro _ ⟨⟩; simp [endsLocation, isIgnored]
    h_digits := by rintro _ ⟨⟩; decide
    h_tail := by rintro _ ⟨⟩; decide }

/-- The queue with the port at the end of the text. -/
def plainQueue : WrittenTarget :=
  { busyQueue with
    userinfo := none
    tail := []
    h_userinfo := nofun
    h_tail := nofun }

theorem keeps_written_port_queue :
    ∃ t t', Target.parse busyQueue.text = .ok t ∧ Target.parse plainQueue.text = .ok t' ∧
      t.port.map UInt16.toNat = some 81 ∧
      Selector.byTarget ⟨t, {}, "put", []⟩ = Selector.byTarget ⟨t', {}, "get", []⟩ := by
  have h_parse : Target.parse busyQueue.text = .ok _ := rfl
  have h_parse' : Target.parse plainQueue.text = .ok _ := rfl
  obtain ⟨h_port, -, h_key⟩ := keeps_written_port h_parse rfl
  refine ⟨_, _, h_parse, h_parse', h_port, ?_⟩
  exact h_key plainQueue _ ⟨rfl, rfl, rfl⟩ nofun h_parse' rfl _ _ rfl rfl

/-- At the end of the text the control is padding, in front of a path it is part of the host. -/
theorem key_depends_on_tail :
    bareQueue.text = "rpc://q\x01" ∧ slashedQueue.text = "rpc://q\x01/" ∧
      bareQueue.SameEndpoint slashedQueue ∧
      ∃ t t', Target.parse bareQueue.text = .ok t ∧ Target.parse slashedQueue.text = .ok t' ∧
        Selector.byTarget ⟨t, {}, "put", []⟩ = .ok "q" ∧
        Selector.byTarget ⟨t', {}, "put", []⟩ = .ok "q%01" :=
  ⟨rfl, rfl, ⟨rfl, rfl, rfl⟩, _, _, rfl, rfl, rfl, rfl⟩

end WrittenTarget

end KeyedBreakers
