import KeyedBreakers.Url.Parser

/-!
# Where the host and the port of an address come from

Behind the scheme there is the text of an authority, the place of a file, or neither. An address
that has a host was read from a text with an authority: the characters behind the scheme and its
slashes, up to the next delimiter. What the host and the port are depends on these characters and
the scheme alone. What is read from the place of a file has no port.

* `authorityText?` — the characters of the authority;
* `cutPort_eq` — a port is cut off at a colon, and nothing else is lost;
* `Authority.ReadFrom`, `FileReadFrom` — what an authority and the place of a file are read as;
* `Url.ReadFrom`, `Url.readFrom_of_parse` — which text an address comes from;
* `NamesEndpoint`, `Url.namesEndpoint_of_parse` — how the host and the port of every address with a
  host are read;
* `Url.host?_isSome_of_port?` — an address with a port has a host.
-/

namespace KeyedBreakers

/-- A computation with two steps succeeds if both do. -/
theorem bind_eq_ok {ε α β : Type} {x : Except ε α} {f : α → Except ε β} {b : β} :
    x >>= f = .ok b ↔ ∃ a, x = .ok a ∧ f a = .ok b := by
  constructor
  · intro h
    cases x with
    | error e => cases h
    | ok a => exact ⟨a, rfl, h⟩
  · rintro ⟨a, rfl, h⟩
    exact h

end KeyedBreakers

namespace KeyedBreakers.Url

open KeyedBreakers.Text

/-- The text of the authority in what follows a scheme and its colon. -/
def authorityText? (kind : SchemeKind) (rest : List Char) : Option (List Char) :=
  match kind with
  | .special port =>
    some ((rest.dropWhile (SchemeKind.special port).isSlash).takeWhile
      (!(SchemeKind.special port).endsAuthority ·))
  | .file => match rest with
    | c :: d :: cs =>
      if SchemeKind.file.isSlash c && SchemeKind.file.isSlash d then
        some (cs.takeWhile (!SchemeKind.file.endsAuthority ·))
      else none
    | _ => none
  | .other => match rest with
    | '/' :: '/' :: cs => some (cs.takeWhile (!SchemeKind.other.endsAuthority ·))
    | _ => none

/-- The text of an authority names a host and a port. In the address of a file it is the host as a
whole; in any other the credentials come before the host, and a port that is the default of the
scheme counts as none. -/
inductive NamesEndpoint (kind : SchemeKind) (text : List Char) (host : Host) :
    Option UInt16 → Prop
  | ofFile (h_kind : kind = .file) (h_host : Host.parse true text = .ok host) :
      NamesEndpoint kind text host none
  | ofAuthority {followed : Bool} {credentials : Credentials} {location left : List Char}
      {port : Option UInt16} (h_kind : kind ≠ .file)
      (h_split : Authority.splitCredentials followed text = .ok (credentials, location))
      (h_host : Host.parse kind.isSpecial (cutPort false location).1 = .ok host)
      (h_port : readPort ((cutPort false location).2.getD []) = .ok (port, left)) :
      NamesEndpoint kind text host (if port = kind.defaultPort? then none else port)

/-- A named host is read as the host of some text. -/
theorem NamesEndpoint.exists_parse {kind : SchemeKind} {text : List Char} {host : Host}
    {port : Option UInt16} (h : NamesEndpoint kind text host port) :
    ∃ domains cs, Host.parse domains cs = .ok host := by
  cases h with
  | ofFile h_kind h_host => exact ⟨_, _, h_host⟩
  | ofAuthority h_kind h_split h_host h_port => exact ⟨_, _, h_host⟩

/-! ### Authorities -/

/-- **A port is cut off at a colon**, and nothing else is lost. -/
theorem cutPort_eq (inside : Bool) (text : List Char) :
    text = (cutPort inside text).1 ++ match (cutPort inside text).2 with
      | some port => ':' :: port
      | none => [] := by
  induction text generalizing inside with
  | nil => rfl
  | cons c cs ih =>
    rw [cutPort]
    split
    · next h_colon => rw [h_colon.1, List.nil_append]
    · dsimp only
      rw [List.cons_append, ← ih]

/-- What the text of an authority is read as: nothing, or a host with a port. -/
inductive Authority.ReadFrom (kind : SchemeKind) (text left : List Char) : Authority → Prop
  | nothing {followed : Bool} {credentials : Credentials}
      (h_split : splitCredentials followed text = .ok (credentials, [])) :
      ReadFrom kind text left {}
  | endpoint {followed : Bool} {credentials : Credentials} {location : List Char} {host : Host}
      {port : Option UInt16}
      (h_split : splitCredentials followed text = .ok (credentials, location))
      (h_host : Host.parse kind.isSpecial (cutPort false location).1 = .ok host)
      (h_port : readPort ((cutPort false location).2.getD []) = .ok (port, left)) :
      ReadFrom kind text left
        ⟨credentials, some host, if port = kind.defaultPort? then none else port⟩

theorem Authority.readFrom_of_parse {kind : SchemeKind} {followed : Bool} {text left : List Char}
    {a : Authority} (h_parse : Authority.parse kind followed text = .ok (a, left)) :
    Authority.ReadFrom kind text left a := by
  unfold Authority.parse at h_parse
  obtain ⟨⟨credentials, location⟩, h_split, h_parse⟩ := bind_eq_ok.1 h_parse
  dsimp only at h_parse
  split at h_parse
  · next h_nil =>
    split at h_parse
    · cases h_parse
    · next h_bare =>
      -- neither a host nor a port, so there is no location
      simp only [Bool.or_eq_true, not_or, Bool.not_eq_true, Option.isSome_eq_false_iff,
        Option.isNone_iff_eq_none] at h_bare
      have h_location := cutPort_eq false location
      rw [h_nil, h_bare.1.2] at h_location
      cases h_parse
      exact .nothing (h_location ▸ h_split)
  · obtain ⟨host, h_host, h_parse⟩ := bind_eq_ok.1 h_parse
    obtain ⟨⟨port, left'⟩, h_port, h_parse⟩ := bind_eq_ok.1 h_parse
    cases h_parse
    exact .endpoint h_split h_host h_port

/-! ### Addresses of files -/

/-- The host in the address of a file is read from all that is written, if anything is. -/
theorem fileHost_eq_ok {written : List Char} {given : Option Host}
    (h : fileHost written = .ok given) :
    (written = [] ∨ ∃ host, Host.parse true written = .ok host) ∧
      ∀ host, given = some host → Host.parse true written = .ok host := by
  unfold fileHost at h
  split at h
  · next h_nil =>
    cases h
    exact ⟨.inl h_nil, fun host h_host => by cases h_host⟩
  · obtain ⟨parsed, h_parsed, h⟩ := bind_eq_ok.1 h
    refine ⟨.inr ⟨parsed, h_parsed⟩, fun host h_host => ?_⟩
    subst h_host
    have h := Except.ok.inj h
    split at h
    · cases h
    · exact Option.some.inj h ▸ h_parsed

/-- The address of a file has no host but the given one. -/
theorem host?_fileAt {scheme : String} {given : Option Host} {resolved : Path × Bool}
    {tail : List Char} {host : Host} (h : (fileAt scheme given resolved tail).host? = some host) :
    given = some host := by
  obtain ⟨path, drive⟩ := resolved
  cases drive with
  | true => cases h
  | false => exact h

/-- What the place of a file is read as: an address without a port. Where the text of an authority
would stand there is a drive, nothing, or a host, and no host is read from elsewhere. -/
structure FileReadFrom (scheme : String) (cs : List Char) (url : KeyedBreakers.Url) : Prop where
  scheme_eq : url.scheme = scheme
  port_eq : url.port? = none
  host : ∀ host, url.host? = some host →
    ∃ text, authorityText? .file cs = some text ∧ Host.parse true text = .ok host
  place : ∀ text, authorityText? .file cs = some text →
    Path.isDrive text = true ∨ text = [] ∨ ∃ host, Host.parse true text = .ok host

/-- Without the text of an authority there is no host. -/
theorem FileReadFrom.of_none {scheme : String} {cs tail : List Char} {resolved : Path × Bool}
    (h_text : authorityText? .file cs = none) :
    FileReadFrom scheme cs (fileAt scheme none resolved tail) where
  scheme_eq := rfl
  port_eq := rfl
  host host h_host := by cases host?_fileAt h_host
  place text h := by
    rw [h_text] at h
    cases h

theorem fileReadFrom_of_parseFile {scheme : String} {cs : List Char} {url : KeyedBreakers.Url}
    (h_parse : parseFile scheme cs = .ok url) : FileReadFrom scheme cs url := by
  unfold parseFile at h_parse
  dsimp only at h_parse
  split at h_parse
  · next c d rest =>
    split at h_parse
    · next h_slashes =>
      have h_text : authorityText? .file (c :: d :: rest) =
          some (rest.takeWhile (!SchemeKind.file.endsAuthority ·)) := if_pos h_slashes
      split at h_parse
      · next h_drive =>
        -- a drive stands where the host would
        cases h_parse
        refine ⟨rfl, rfl, fun host h_host => ?_, fun text h => .inl ?_⟩
        · cases host?_fileAt h_host
        · rw [h_text] at h
          exact Option.some.inj h ▸ h_drive
      · obtain ⟨given, h_given, h_parse⟩ := bind_eq_ok.1 h_parse
        obtain ⟨h_place, h_host⟩ := fileHost_eq_ok h_given
        have h_url : ∃ resolved tail, url = fileAt scheme given resolved tail := by
          cases given with
          | none => exact ⟨_, _, (Except.ok.inj h_parse).symm⟩
          | some given => exact ⟨_, _, (Except.ok.inj h_parse).symm⟩
        obtain ⟨resolved, tail, rfl⟩ := h_url
        refine ⟨rfl, rfl, fun host h => ⟨_, h_text, h_host host (host?_fileAt h)⟩, fun text h => ?_⟩
        rw [h_text] at h
        exact Option.some.inj h ▸ .inr h_place
    · next h_slashes =>
      cases h_parse
      exact .of_none (if_neg h_slashes)
  · next h_short =>
    cases h_parse
    refine .of_none ?_
    unfold authorityText?
    split <;> simp_all

end KeyedBreakers.Url

namespace KeyedBreakers

open KeyedBreakers.Url

namespace Url

/-! ### Addresses -/

/-- Which text behind the scheme an address comes from. -/
inductive ReadFrom (url : Url) (rest : List Char) : Prop
  | file (h_kind : Scheme.kind url.scheme = .file) (h_parse : parseFile url.scheme rest = .ok url)
  | authority {text left : List Char} {a : Authority} (h_kind : Scheme.kind url.scheme ≠ .file)
      (h_text : authorityText? (Scheme.kind url.scheme) rest = some text)
      (h_read : Authority.ReadFrom (Scheme.kind url.scheme) text left a)
      (h_authority : url.authority = some a)
  | bare (h_text : authorityText? (Scheme.kind url.scheme) rest = none)
      (h_authority : url.authority = none)

theorem readFrom_of_parseAuthority {scheme : String} {cs rest : List Char} {url : Url}
    (h_kind : Scheme.kind scheme ≠ .file)
    (h_text : authorityText? (Scheme.kind scheme) rest =
      some (cs.takeWhile (!(Scheme.kind scheme).endsAuthority ·)))
    (h_parse : parseAuthority scheme cs = .ok url) : url.scheme = scheme ∧ url.ReadFrom rest := by
  unfold parseAuthority at h_parse
  obtain ⟨⟨a, left⟩, h_authority, h_parse⟩ := bind_eq_ok.1 h_parse
  cases h_parse
  exact ⟨rfl, .authority h_kind h_text (Authority.readFrom_of_parse h_authority) rfl⟩

/-- **Every address comes from a text behind its scheme.** -/
theorem readFrom_of_parse {text : String} {url : Url} (h_parse : Url.parse text = .ok url) :
    ∃ name rest, Scheme.split? (significant text.toList) = some (name, rest) ∧
      url.scheme = String.ofList name ∧ url.ReadFrom rest := by
  unfold Url.parse at h_parse
  split at h_parse
  · cases h_parse
  · next name rest h_split =>
    refine ⟨name, rest, h_split, ?_⟩
    dsimp only at h_parse
    split at h_parse
    · next h_kind =>
      have h_scheme := (fileReadFrom_of_parseFile h_parse).scheme_eq
      rw [← h_scheme] at h_kind h_parse
      exact ⟨h_scheme, .file h_kind h_parse⟩
    · next port h_kind =>
      refine readFrom_of_parseAuthority (by rw [h_kind]; nofun) ?_ h_parse
      rw [h_kind]
      rfl
    · next h_kind =>
      split at h_parse
      · refine readFrom_of_parseAuthority (by rw [h_kind]; nofun) ?_ h_parse
        rw [h_kind]
        rfl
      · -- without two slashes there is no authority
        next tail h_slashes =>
        cases h_parse
        refine ⟨rfl, .bare ?_ rfl⟩
        show authorityText? (Scheme.kind (String.ofList name)) ('/' :: tail) = none
        rw [h_kind]
        unfold authorityText?
        split <;> simp_all
      · next h_slashes h_slash =>
        cases h_parse
        refine ⟨rfl, .bare ?_ rfl⟩
        show authorityText? (Scheme.kind (String.ofList name)) rest = none
        rw [h_kind]
        unfold authorityText?
        split <;> simp_all

/-- **The host and the port of an address are read from an authority.** -/
theorem namesEndpoint_of_parse {text : String} {url : Url} {host : Host}
    (h_parse : Url.parse text = .ok url) (h_host : url.host? = some host) :
    ∃ name rest authority, Scheme.split? (significant text.toList) = some (name, rest) ∧
      authorityText? (Scheme.kind (String.ofList name)) rest = some authority ∧
      NamesEndpoint (Scheme.kind (String.ofList name)) authority host url.port? := by
  obtain ⟨name, rest, h_split, h_scheme, h_read⟩ := readFrom_of_parse h_parse
  refine ⟨name, rest, ?_⟩
  rw [← h_scheme]
  cases h_read with
  | file h_kind h_parse =>
    have h_file := fileReadFrom_of_parseFile h_parse
    obtain ⟨authority, h_text, h_name⟩ := h_file.host host h_host
    rw [h_kind, h_file.port_eq]
    exact ⟨authority, h_split, h_text, .ofFile rfl h_name⟩
  | authority h_kind h_text h_read h_authority =>
    rw [host?, h_authority, Option.bind_some] at h_host
    rw [port?, h_authority, Option.bind_some]
    cases h_read with
    | nothing => cases h_host
    | endpoint h_user h_name h_port =>
      cases h_host
      exact ⟨_, h_split, h_text, .ofAuthority h_kind h_user h_name h_port⟩
  | bare h_text h_authority =>
    rw [host?, h_authority] at h_host
    cases h_host

/-- **An address with a port has a host.** -/
theorem host?_isSome_of_port? {text : String} {url : Url} {p : UInt16}
    (h_parse : Url.parse text = .ok url) (h_port : url.port? = some p) :
    url.host?.isSome = true := by
  obtain ⟨name, rest, -, -, h_read⟩ := readFrom_of_parse h_parse
  cases h_read with
  | file h_kind h_parse =>
    rw [(fileReadFrom_of_parseFile h_parse).port_eq] at h_port
    cases h_port
  | authority h_kind h_text h_read h_authority =>
    rw [port?, h_authority, Option.bind_some] at h_port
    rw [host?, h_authority, Option.bind_some]
    cases h_read with
    | nothing => cases h_port
    | endpoint => rfl
  | bare h_text h_authority =>
    rw [port?, h_authority] at h_port
    cases h_port

end Url

end KeyedBreakers
