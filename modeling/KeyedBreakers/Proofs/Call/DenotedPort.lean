import KeyedBreakers.Proofs.Call.WrittenPort

/-!
# The port that a target denotes

A target reaches its host at the port of its address, or at the default port of the scheme. When the
address has no port of its own, the scan looks for one in the text; it starts behind the first `://`
wherever that stands, and it takes a backslash for a character like any other. It therefore finds a
port elsewhere than the reader of addresses does if that `://` is not the one behind the scheme, or
if a backslash has ended the authority before the scan ends.

These are the only ways to a port that the target does not denote. Where the scan stays in the
authority, the port of a target is the one at which the address is reached, however the address is
written: with ignored characters, with more slashes than two, with credentials that hold delimiters,
or with a port of many digits. In particular such a target has a host, and its key names no port
that is found elsewhere.

* `Target.ScanStays` — the scan of a text stays in the authority;
* `Authority.ReadFrom.port_of_portIn?` — both readers find one port in the text of an authority;
* `Target.authorityText?_of_scan` — the scanned part is the text of the authority;
* `Target.port_is_denoted` — the main theorem; `Target.phantom_ports` — ports that are not denoted.
-/

namespace KeyedBreakers

open KeyedBreakers.Text KeyedBreakers.Url

/-! ### One port in an authority -/

/-- A host that is written with a colon ends with a bracket. -/
theorem Url.Host.getLast?_of_colon_mem {domains : Bool} {cs : List Char} {host : Host}
    (h_parse : Host.parse domains cs = .ok host) (h_mem : ':' ∈ cs) : cs.getLast? = some ']' := by
  cases domains with
  | true => exact (Host.eq_colon_of_mem h_parse (by decide) h_mem).2
  | false =>
    unfold Host.parse at h_parse
    split at h_parse
    · exact (Host.parseBracketed_eq_ok h_parse).1
    · -- no other name has a colon
      have h_free := (Host.parseVerbatim_eq_ok h_parse).1 ':' h_mem
      exact absurd h_free (by decide)

/-- Without a backslash a port is all digits. -/
theorem Url.all_isDigit_of_readPort {text left : List Char} {port : Option UInt16}
    (h : readPort text = .ok (port, left)) (h_free : '\\' ∉ text) :
    text.all Char.isDigit = true := by
  unfold readPort at h
  dsimp only at h
  split at h
  · cases h
  · next h_rest =>
    -- what follows the digits could only start with a backslash
    have h_nil : text.dropWhile Char.isDigit = [] := by
      by_contra h_ne
      refine h_rest ⟨h_ne, fun h_head => h_free ?_⟩
      exact (List.dropWhile_suffix _).subset (List.mem_of_mem_head? h_head)
    exact List.all_eq_true.2 (List.dropWhile_eq_nil_iff.1 h_nil)

namespace Target

variable {kind : SchemeKind} {p : UInt16}

/-- **Both readers find one port in the text of an authority.** The reader of addresses cuts at the
first colon outside brackets, the scan at the last colon; where both read a number behind it, it is
the same colon. -/
theorem port_of_readFrom {text left : List Char} {a : Authority}
    (h_read : Authority.ReadFrom kind text left a) (h_free : '\\' ∉ afterCredentials text)
    (h_port : portIn? text = some p) :
    a.host.isSome = true ∧ (a.port = some p ∨ a.port = none ∧ kind.defaultPort? = some p) := by
  obtain ⟨before, port, n, h_location, h_bounded, rfl, -⟩ := exists_of_portIn? h_port
  obtain ⟨h_ne, h_chars, h_last⟩ := readBounded?_eq_some h_bounded
  have h_colon : ':' ∉ port := by
    intro h_mem
    rcases h_chars ':' h_mem with h_digit | h_plus
    · exact absurd h_digit (by decide)
    · exact absurd h_plus (by decide)
  cases h_read with
  | nothing h_split =>
    rw [← location_eq_afterCredentials h_split] at h_location
    simp at h_location
  | @endpoint followed credentials location host found h_split h_host h_found =>
    rw [← location_eq_afterCredentials h_split] at h_location h_free
    have h_cut := cutPort_eq false location
    refine ⟨rfl, ?_⟩
    generalize (cutPort false location).1 = name at h_cut h_host
    generalize (cutPort false location).2 = digits? at h_cut h_found
    cases digits? with
    | none =>
      -- the colon would be in the host, which ends with a bracket and not with the digit
      rw [List.append_nil] at h_cut
      have h_mem : ':' ∈ name := by
        rw [← h_cut, h_location]
        simp
      have h_bracket := Host.getLast?_of_colon_mem h_host h_mem
      rw [← h_cut, h_location, List.append_cons, List.getLast?_append_of_ne_nil _ h_ne] at h_bracket
      exact absurd (h_last ']' h_bracket) (by decide)
    | some digits =>
      have h_digits : digits.all Char.isDigit = true := by
        refine all_isDigit_of_readPort h_found fun h_mem => h_free ?_
        rw [h_cut]
        simp [h_mem]
      have h_colon' : ':' ∉ digits := by
        intro h_mem
        exact absurd (List.all_eq_true.1 h_digits ':' h_mem) (by decide)
      -- no colon comes behind either of them
      have h_scan : cutLast? ':' location = some (before, port) := by
        rw [h_location]
        exact cutLast?_append before h_colon
      have h_reader : cutLast? ':' location = some (name, digits) := by
        rw [h_cut]
        exact cutLast?_append name h_colon'
      obtain ⟨-, rfl⟩ := Prod.mk.inj (Option.some.inj (h_scan.symm.trans h_reader))
      rw [WrittenTarget.readBounded?_digits h_digits] at h_bounded
      obtain ⟨h_value, h_le⟩ := Option.filter_eq_some_iff.1 h_bounded
      have h_lt : n < 65536 := Nat.lt_succ_of_le (of_decide_eq_true h_le)
      rw [Option.getD_some, WrittenTarget.readPort_digits h_digits, h_value] at h_found
      dsimp only at h_found
      rw [if_pos h_lt] at h_found
      cases h_found
      by_cases h_default : some (UInt16.ofNat n) = kind.defaultPort?
      · exact .inr ⟨if_pos h_default, h_default.symm⟩
      · exact .inl (if_neg h_default)

/-! ### The scanned part is the authority -/

/-- No backslash ends the authority in front of the end of the scanned part: under a special scheme
there is none behind the leading slashes, and under another scheme none behind the credentials. -/
def Confined (kind : SchemeKind) (part : List Char) : Prop :=
  match kind with
  | .special port =>
    '\\' ∉ part.dropWhile fun c => isIgnored c || (SchemeKind.special port).isSlash c
  | .file => '\\' ∉ part
  | .other => '\\' ∉ afterCredentials part

instance (kind : SchemeKind) (part : List Char) : Decidable (Confined kind part) := by
  unfold Confined
  cases kind <;> exact inferInstance

/-- The scan of a text stays in the authority: it starts behind the first colon, and no backslash
ends the authority in front of its end. -/
def ScanStays (kind : SchemeKind) (text : List Char) : Prop :=
  ∀ cut ∈ cutAtText? [':', '/', '/'] text, ':' ∉ cut.1 ∧ Confined kind (scanned cut.2)

instance (kind : SchemeKind) (text : List Char) : Decidable (ScanStays kind text) :=
  inferInstanceAs (Decidable (∀ cut ∈ _, _))

theorem endsAuthority_eq (kind : SchemeKind) (c : Char) :
    kind.endsAuthority c = (endsHostAndPort c || (kind.isSpecial && c == '\\')) := by
  rw [Bool.eq_iff_iff]
  simp only [SchemeKind.endsAuthority, SchemeKind.isSlash, endsHostAndPort, Bool.or_eq_true]
  tauto

/-- The text of an authority ends where the scan ends, unless a backslash ends it. -/
theorem takeWhile_endsAuthority {part tail : List Char}
    (h_part : ∀ c ∈ part, endsHostAndPort c = false)
    (h_free : kind.isSpecial = true → '\\' ∉ part)
    (h_tail : ∀ c ∈ tail.head?, endsHostAndPort c = true) :
    (part ++ tail).takeWhile (!kind.endsAuthority ·) = part := by
  refine WrittenTarget.takeWhile_append_tail (fun c h_c => ?_) (fun c h_c => ?_)
  · rw [endsAuthority_eq, h_part c h_c, Bool.false_or, Bool.not_eq_true', Bool.and_eq_false_imp]
    intro h_special
    rw [beq_eq_false_iff_ne]
    rintro rfl
    exact h_free h_special h_c
  · rw [endsAuthority_eq, h_tail c h_c]
    rfl

/-- What comes in front of all marks does not change the port. -/
theorem portIn?_append_left {front : List Char}
    (h_front : ∀ c ∈ front, c ≠ '@' ∧ c ≠ ':' ∧ c ≠ ']') (part : List Char) :
    portIn? (front ++ part) = portIn? part := by
  have h_at : '@' ∉ front := fun h => (h_front '@' h).1 rfl
  have h_colon : ':' ∉ front := fun h => (h_front ':' h).2.1 rfl
  have h_bracket : ']' ∉ front := fun h => (h_front ']' h).2.2 rfl
  unfold portIn? afterCredentials
  rw [cutLast?_append_left h_at]
  cases cutLast? '@' part with
  | some cut => rfl
  | none =>
    dsimp only [Option.map_none]
    unfold afterPortColon?
    rw [cutLast?_append_left h_bracket, cutLast?_append_left h_colon]
    cases cutLast? ']' part with
    | none => cases cutLast? ':' part <;> rfl
    | some cut =>
      obtain ⟨before, after⟩ := cut
      rcases after with _ | ⟨c, after⟩
      · rfl
      · by_cases h_c : c = ':'
        · rw [h_c]
          rfl
        · dsimp only [Option.map_some]
          split <;> split <;> simp_all

theorem portIn?_dropWhile_isSlash (kind : SchemeKind) (part : List Char) :
    portIn? (part.dropWhile kind.isSlash) = portIn? part := by
  have h_front : ∀ c ∈ part.takeWhile kind.isSlash, c ≠ '@' ∧ c ≠ ':' ∧ c ≠ ']' := by
    intro c h_c
    have h_slash : kind.isSlash c = true := List.mem_takeWhile_imp h_c
    simp only [SchemeKind.isSlash, Bool.or_eq_true, Bool.and_eq_true, beq_iff_eq] at h_slash
    rcases h_slash with rfl | ⟨-, rfl⟩ <;> decide
  rw [← portIn?_append_left h_front, List.takeWhile_append_dropWhile]

/-- A part with a port ends with a digit, so it loses only ignored characters. -/
theorem exists_stripEnd_eq {rest : List Char} (h_port : portIn? (scanned rest) = some p) :
    ∃ part tail, part = (scanned rest).filter (!isIgnored ·) ∧ stripEnd rest = part ++ tail ∧
      (∀ c ∈ part, endsHostAndPort c = false) ∧
      (∀ c ∈ tail.head?, endsHostAndPort c = true) ∧ portIn? part = some p := by
  obtain ⟨g, h_g, h_scanned⟩ := scanned_stripEnd rest
  obtain ⟨d, h_last, h_digit⟩ := isDigit_of_portIn? h_port
  have h_end : ∀ c ∈ (scanned rest).getLast?, isPadding c = false := by
    intro c h_c
    rw [h_last] at h_c
    exact Option.some.inj h_c ▸ isPadding_of_isDigit h_digit
  rw [h_g.eq_filter h_end] at h_scanned
  have h_part := (portIn?_strips strips_filter (isPadding_of_portIn? h_port)).trans h_port
  rw [← h_scanned] at h_part
  refine ⟨scanned (stripEnd rest), (stripEnd rest).dropWhile (!endsHostAndPort ·), h_scanned,
    List.takeWhile_append_dropWhile.symm, fun c h_c => ?_, fun c h_c => ?_, h_part⟩
  · simpa using List.mem_takeWhile_imp (p := (!endsHostAndPort ·)) h_c
  · have h_head := List.head?_dropWhile_not (!endsHostAndPort ·) (stripEnd rest)
    rw [h_c] at h_head
    simpa using h_head

theorem notMem_afterCredentials {c : Char} {part : List Char} (h : c ∉ part) :
    c ∉ afterCredentials part := by
  obtain ⟨front, h_part⟩ := exists_append_afterCredentials part
  intro h_mem
  apply h
  rw [h_part]
  exact List.mem_append_right front h_mem

/-- **Where the scan stays in the authority, the port that it finds is in the text of the
authority**, as the reader of addresses sees it. -/
theorem authorityText?_of_scan {rest : List Char} (h_port : portIn? (scanned rest) = some p)
    (h_confined : Confined kind (scanned rest)) :
    ∃ text, authorityText? kind ('/' :: '/' :: stripEnd rest) = some text ∧
      portIn? text = some p ∧ '\\' ∉ afterCredentials text := by
  obtain ⟨part, tail, h_stripped, h_rest, h_ends, h_tail, h_part⟩ := exists_stripEnd_eq h_port
  rw [h_rest]
  cases kind with
  | other =>
    refine ⟨part, congrArg some (takeWhile_endsAuthority h_ends nofun h_tail), h_part, ?_⟩
    rw [h_stripped, afterCredentials_strips strips_filter]
    exact fun h_mem => h_confined (strips_filter.subset _ h_mem)
  | file =>
    have h_free : '\\' ∉ part := by
      rw [h_stripped]
      exact fun h_mem => h_confined (strips_filter.subset _ h_mem)
    exact ⟨part, congrArg some (takeWhile_endsAuthority h_ends (fun _ => h_free) h_tail), h_part,
      notMem_afterCredentials h_free⟩
  | special port =>
    -- the reader skips the leading slashes, and the port stands behind them
    have h_skip : part.dropWhile (SchemeKind.special port).isSlash =
        ((scanned rest).dropWhile fun c =>
          isIgnored c || (SchemeKind.special port).isSlash c).filter (!isIgnored ·) := by
      rw [h_stripped, List.dropWhile_filter]
      simp only [Bool.not_not]
    have h_free : '\\' ∉ part.dropWhile (SchemeKind.special port).isSlash := by
      rw [h_skip]
      exact fun h_mem => h_confined (strips_filter.subset _ h_mem)
    rw [← portIn?_dropWhile_isSlash (.special port)] at h_part
    have h_ne : part.dropWhile (SchemeKind.special port).isSlash ≠ [] := by
      intro h_nil
      rw [h_nil] at h_part
      cases h_part
    have h_left : (part ++ tail).dropWhile (SchemeKind.special port).isSlash =
        part.dropWhile (SchemeKind.special port).isSlash ++ tail := by
      rw [List.dropWhile_append, if_neg (by rwa [List.isEmpty_iff])]
    have h_text : authorityText? (.special port) ('/' :: '/' :: (part ++ tail)) =
        some (part.dropWhile (SchemeKind.special port).isSlash) := by
      show some _ = some _
      rw [List.dropWhile_cons_of_pos rfl, List.dropWhile_cons_of_pos rfl, h_left]
      refine congrArg some (takeWhile_endsAuthority (fun c h_c => ?_) (fun _ => h_free) h_tail)
      exact h_ends c ((List.dropWhile_suffix _).subset h_c)
    exact ⟨_, h_text, h_part, notMem_afterCredentials h_free⟩

/-! ### The main theorem -/

/-- The scheme ends at the first colon. -/
theorem rest_of_split? {before rest name left : List Char} (h_colon : ':' ∉ before)
    (h_split : Scheme.split? (before ++ ':' :: rest) = some (name, left)) : left = rest := by
  generalize h_text : before ++ ':' :: rest = text at h_split
  unfold Scheme.split? at h_split
  split at h_split
  · cases h_split
  · next c cs =>
    split at h_split
    · next h_alpha =>
      split at h_split
      · next left' h_drop =>
        cases h_split
        have h_name : ':' ∉ c :: cs.takeWhile Scheme.isNameChar := by
          rw [List.mem_cons, not_or]
          constructor
          · rintro rfl
            exact absurd h_alpha (by decide)
          · intro h_mem
            exact absurd (List.mem_takeWhile_imp h_mem) (by decide)
        have h_found : c :: cs = (c :: cs.takeWhile Scheme.isNameChar) ++ ':' :: left := by
          rw [← h_drop, List.cons_append, List.takeWhile_append_dropWhile]
        -- both cuts are at the first colon
        have h_cut := cutFirst?_append rest h_colon
        rw [h_text, h_found, cutFirst?_append left h_name] at h_cut
        exact (Prod.mk.inj (Option.some.inj h_cut)).2
      · cases h_split
    · cases h_split

theorem getLast?_of_isDrive {text : List Char} (h : Path.isDrive text = true) :
    text.getLast? = some ':' ∨ text.getLast? = some '|' := by
  unfold Path.isDrive at h
  split at h
  · next letter mark =>
    simp only [Bool.and_eq_true, Bool.or_eq_true, beq_iff_eq] at h
    rcases h.2 with rfl | rfl
    · exact .inl rfl
    · exact .inr rfl
  · cases h

/-- **A port that is found in the authority is the port of the address**, or it is the default of
the scheme and the address has forgotten it. -/
theorem port_of_scan {text : String} {url : Url} (h_parse : Url.parse text = .ok url)
    (h_stays : ScanStays (Scheme.kind url.scheme) text.toList)
    (h_port : portAsWritten? text.toList = some p) :
    url.host?.isSome = true ∧ url.effectivePort? = some p := by
  rw [portAsWritten?_eq_bind] at h_port
  obtain ⟨⟨before, rest⟩, h_cut, h_port⟩ := Option.bind_eq_some_iff.1 h_port
  obtain ⟨h_before, h_confined⟩ := h_stays _ h_cut
  obtain ⟨authority, h_text, h_part, h_free⟩ := authorityText?_of_scan h_port h_confined
  -- the reader of addresses finds the two slashes behind the scheme
  obtain ⟨name, left, h_split, -, h_read⟩ := Url.readFrom_of_parse h_parse
  rw [significant_of_cut h_cut, List.append_assoc] at h_split
  have h_start : ':' ∉ stripStart before := by
    intro h_mem
    exact h_before ((List.dropWhile_suffix _).subset (List.mem_filter.1 h_mem).1)
  have h_left : left = '/' :: '/' :: stripEnd rest := rest_of_split? h_start h_split
  subst h_left
  cases h_read with
  | bare h_none =>
    rw [h_text] at h_none
    cases h_none
  | file h_kind h_parse =>
    -- neither a drive nor the host of a file ends with a port
    have h_place := (fileReadFrom_of_parseFile h_parse).place
    rw [h_kind] at h_text
    obtain ⟨d, h_last, h_digit⟩ := isDigit_of_portIn? h_part
    have h_end : ∀ c, authority.getLast? = some c → c.isDigit = true := by
      intro c h_c
      rwa [Option.some.inj (h_c.symm.trans h_last)]
    obtain ⟨start, port, n, h_location, -⟩ := exists_of_portIn? h_part
    rcases h_place authority h_text with h_drive | rfl | ⟨host, h_host⟩
    · rcases getLast?_of_isDrive h_drive with h_mark | h_mark
      · exact absurd (h_end ':' h_mark) (by decide)
      · exact absurd (h_end '|' h_mark) (by decide)
    · cases h_last
    · obtain ⟨front, h_front⟩ := exists_append_afterCredentials authority
      have h_mem : ':' ∈ authority := by
        rw [h_front, h_location]
        simp
      exact absurd (h_end ']' (Host.getLast?_of_colon_mem h_host h_mem)) (by decide)
  | @authority text left a h_kind h_text' h_read h_authority =>
    rw [h_text] at h_text'
    cases h_text'
    obtain ⟨h_host, h_found⟩ := port_of_readFrom h_read h_free h_part
    have h_url : url.port? = a.port := by rw [Url.port?, h_authority, Option.bind_some]
    refine ⟨by rwa [Url.host?, h_authority, Option.bind_some], ?_⟩
    rw [Url.effectivePort?, h_url]
    rcases h_found with h_found | ⟨h_found, h_default⟩
    · rw [h_found]
      rfl
    · rw [h_found, h_default]
      rfl

/-- **The port of a target is the one at which its address is reached**, if the scan has stayed in
the authority where the address has no port of its own. Such a target has a host, and its key by
target is the host alone or the host with that port. -/
theorem port_is_denoted {text : String} {t : Target} (h_parse : Target.parse text = .ok t)
    (h_scan : t.url.port? = none → ScanStays (Scheme.kind t.url.scheme) text.toList) :
    (∀ p, t.port = some p → t.host?.isSome = true ∧ t.url.effectivePort? = some p) ∧
      ∀ (call : Call) (key : String), call.target = t → Selector.byTarget call = .ok key →
        ∃ host, t.host? = some host ∧ (key = Selector.hostAndPort host none ∨
          key = Selector.hostAndPort host t.url.effectivePort?) := by
  obtain ⟨url, h_url, rfl⟩ := Target.parse_eq_ok h_parse
  have h_denoted : ∀ p, (url.port? <|> portAsWritten? text.toList) = some p →
      url.hostText?.isSome = true ∧ url.effectivePort? = some p := by
    intro p h_p
    rw [Url.hostText?, Option.isSome_map]
    cases h_port : url.port? with
    | some q =>
      rw [h_port] at h_p
      cases h_p
      exact ⟨Url.host?_isSome_of_port? h_url h_port, by rw [Url.effectivePort?, h_port]; rfl⟩
    | none =>
      rw [h_port] at h_p
      exact port_of_scan h_url (h_scan h_port) h_p
  refine ⟨h_denoted, ?_⟩
  rintro call key h_target h_key
  obtain ⟨host, h_host, rfl⟩ := Selector.byTarget_eq_ok.1 h_key
  rw [h_target] at h_host ⊢
  refine ⟨host, h_host, ?_⟩
  dsimp only
  cases h_port : (url.port? <|> portAsWritten? text.toList) with
  | none => exact .inl rfl
  | some p =>
    rw [(h_denoted p h_port).2]
    exact .inr rfl

/-- Padding and a tab before the scheme is read, a backslash for a slash, credentials, the default
port of the scheme, and a colon in the path. -/
theorem port_is_denoted_crooked :
    ∃ t, Target.parse " ht\ttp://\\u@[::1]:80/a:9" = .ok t ∧ t.url.port? = none ∧
      t.port = some 80 ∧ t.host?.isSome = true ∧ t.url.effectivePort? = some 80 := by
  have h_parse : Target.parse " ht\ttp://\\u@[::1]:80/a:9" = .ok _ := rfl
  have h_stays : ScanStays (.special 80) " ht\ttp://\\u@[::1]:80/a:9".toList := by decide
  obtain ⟨h_denoted, -⟩ := port_is_denoted h_parse fun _ => h_stays
  exact ⟨_, h_parse, rfl, rfl, h_denoted 80 rfl⟩

/-- **Ports that are not denoted.** A port in a query is taken for the port of a target without a
host, and one behind a backslash, where the path is, becomes part of a key. -/
theorem phantom_ports :
    (∃ t, Target.parse "unix:/run/app.sock?peer=tcp://10.0.0.7:9000" = .ok t ∧
      t.port = some 9000 ∧ t.host? = none) ∧
    ∃ t, Target.parse "http://[::1]\\@evil:99/" = .ok t ∧ t.host? = some "[::1]" ∧
      t.port = some 99 ∧ t.url.effectivePort? = some 80 ∧
      ∀ call : Call, call.target = t → Selector.byTarget call = .ok "[::1]:99" := by
  refine ⟨⟨_, rfl, rfl, rfl⟩, _, rfl, rfl, rfl, rfl, ?_⟩
  intro call h_target
  rw [Selector.byTarget, h_target]
  rfl

end Target

end KeyedBreakers
