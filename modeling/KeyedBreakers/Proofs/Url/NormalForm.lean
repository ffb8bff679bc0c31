import KeyedBreakers.Proofs.Url.Endpoint
import KeyedBreakers.Proofs.Url.Segments

/-!
# The normal form of addresses

Reading an address brings each part into a form of its own: the scheme into small letters, user name,
password, path, query and fragment into their encodings, the path to where it leads, and a port that is
the default of the scheme to none. Here it is said what these forms are, for an address with a host.
All of them are such that there is nothing left to do when the part is read again.

* `Scheme.IsName`, `Authority.IsNormal` — the forms of the scheme and the authority;
* `Url.IsNormal`, `Url.exists_isNormal_of_parse` — every address that is read and has a host is in
  normal form.
-/

namespace KeyedBreakers.Url

open KeyedBreakers.Text

/-! ### Schemes -/

/-- The name of a scheme in small letters. -/
structure Scheme.IsName (name : List Char) : Prop where
  head : ∃ c cs, name = c :: cs ∧ c.isAlpha = true ∧ ∀ d ∈ cs, isNameChar d = true
  small : ∀ c ∈ name, c.toLower = c

theorem Scheme.toNat_lt_of_isNameChar {c : Char} (h : isNameChar c = true) : c.toNat < 0x80 := by
  simp only [isNameChar, Bool.or_eq_true, beq_iff_eq, or_assoc] at h
  rcases h with h | rfl | rfl | rfl
  · exact toNat_lt_of_isAlphanum h
  all_goals decide

theorem Scheme.isName_of_split? {cs name rest : List Char} (h : split? cs = some (name, rest)) :
    IsName name := by
  unfold split? at h
  split at h
  · cases h
  · next c cs =>
    split at h
    · next h_alpha =>
      split at h
      · obtain ⟨rfl, -⟩ := Prod.mk.inj (Option.some.inj h)
        have h_c : c.toNat < 0x80 := toNat_lt_of_isAlphanum (by simp [Char.isAlphanum, h_alpha])
        have h_name : ∀ d ∈ cs.takeWhile isNameChar, isNameChar d = true :=
          List.all_eq_true.1 List.all_takeWhile
        -- putting letters into small ones keeps the kind of every character
        have h_lower : ∀ {d : Char}, d.toNat < 0x80 → d.toLower.toLower = d.toLower :=
          forall_ascii (P := fun d => d.toLower.toLower = d.toLower) (by decide)
        refine ⟨⟨c.toLower, (cs.takeWhile isNameChar).map Char.toLower, List.map_cons, ?_, ?_⟩, ?_⟩
        · exact forall_ascii (P := fun d => d.isAlpha = true → d.toLower.isAlpha = true) (by decide)
            h_c h_alpha
        · intro d h_d
          obtain ⟨e, h_e, rfl⟩ := List.mem_map.1 h_d
          exact forall_ascii (P := fun d => isNameChar d = true → isNameChar d.toLower = true)
            (by decide) (toNat_lt_of_isNameChar (h_name e h_e)) (h_name e h_e)
        · intro d h_d
          obtain ⟨e, h_e, rfl⟩ := List.mem_map.1 h_d
          rcases List.mem_cons.1 h_e with rfl | h_e
          · exact h_lower h_c
          · exact h_lower (toNat_lt_of_isNameChar (h_name e h_e))
      · cases h
    · cases h

/-- The name of a scheme is read back. -/
theorem Scheme.split?_append {name : List Char} (h : IsName name) (rest : List Char) :
    split? (name ++ ':' :: rest) = some (name, rest) := by
  obtain ⟨c, cs, rfl, h_alpha, h_cs⟩ := h.head
  have h_drop : (cs ++ ':' :: rest).dropWhile isNameChar = ':' :: rest := by
    rw [List.dropWhile_append_of_pos h_cs]
    rfl
  have h_take : (cs ++ ':' :: rest).takeWhile isNameChar = cs := by
    rw [List.takeWhile_append_of_pos h_cs]
    exact List.append_nil cs
  have h_lower : (c :: cs).map Char.toLower = c :: cs := by
    rw [List.map_congr_left h.small, List.map_id']
  unfold split?
  rw [List.cons_append]
  dsimp only
  rw [if_pos h_alpha, h_drop, h_take, h_lower]
  rfl

/-! ### Authorities -/

/-- An authority with a host, in normal form. -/
structure Authority.IsNormal (kind : SchemeKind) (host : Host) (a : Authority) : Prop where
  host_eq : a.host = some host
  username : IsEncoded EncodeSet.userinfo a.credentials.username.toList
  password : IsEncoded EncodeSet.userinfo a.credentials.password.toList
  port : ∀ p, a.port = some p → kind.defaultPort? ≠ some p
  bare : kind = .file → a.credentials = {} ∧ a.port = none
  parsed : ∃ cs, cs ≠ [] ∧ Host.parse kind.isSpecial cs = .ok host

theorem isEncoded_encode_userinfo (cs : List Char) :
    IsEncoded EncodeSet.userinfo (encode EncodeSet.userinfo cs) :=
  isEncoded_encode (by decide) (by decide) cs

theorem Credentials.isEncoded_read (text : List Char) :
    IsEncoded EncodeSet.userinfo (read text).username.toList ∧
      IsEncoded EncodeSet.userinfo (read text).password.toList := by
  unfold read
  split
  · dsimp only
    rw [String.toList_ofList, String.toList_ofList]
    exact ⟨isEncoded_encode_userinfo _, isEncoded_encode_userinfo _⟩
  · dsimp only
    rw [String.toList_ofList]
    exact ⟨isEncoded_encode_userinfo _, nofun⟩

theorem Authority.isEncoded_splitCredentials {followed : Bool} {text location : List Char}
    {credentials : Credentials} (h : splitCredentials followed text = .ok (credentials, location)) :
    IsEncoded EncodeSet.userinfo credentials.username.toList ∧
      IsEncoded EncodeSet.userinfo credentials.password.toList := by
  unfold splitCredentials at h
  split at h
  · cases h
    exact ⟨nofun, nofun⟩
  · split at h
    · cases h
    · cases h
      exact ⟨nofun, nofun⟩
  · cases h
    exact Credentials.isEncoded_read _

theorem Authority.isNormal_of_parse {kind : SchemeKind} {followed : Bool} {text left : List Char}
    {a : Authority} {host : Host} (h_kind : kind ≠ .file)
    (h_parse : Authority.parse kind followed text = .ok (a, left)) (h_host : a.host = some host) :
    a.IsNormal kind host := by
  unfold Authority.parse at h_parse
  obtain ⟨⟨credentials, location⟩, h_split, h_parse⟩ := bind_eq_ok.1 h_parse
  obtain ⟨h_username, h_password⟩ := isEncoded_splitCredentials h_split
  dsimp only at h_parse
  split at h_parse
  · -- without a host there is none
    split at h_parse
    · cases h_parse
    · cases h_parse
      cases h_host
  · next h_text =>
    obtain ⟨parsed, h_parsed, h_parse⟩ := bind_eq_ok.1 h_parse
    obtain ⟨⟨port, left'⟩, -, h_parse⟩ := bind_eq_ok.1 h_parse
    cases h_parse
    cases h_host
    refine ⟨rfl, h_username, h_password, ?_, fun h => absurd h h_kind, _, h_text, h_parsed⟩
    -- a port that is the default has been dropped
    intro p h_p
    dsimp only at h_p
    split at h_p
    · cases h_p
    · next h_port =>
      rw [← h_p]
      exact Ne.symm h_port

end KeyedBreakers.Url

namespace KeyedBreakers

open KeyedBreakers.Text KeyedBreakers.Url

namespace Url

/-! ### Addresses -/

/-- The set that the query of an address is encoded with. -/
def querySet (kind : SchemeKind) : EncodeSet :=
  if kind.isSpecial then EncodeSet.specialQuery else EncodeSet.query

/-- An address with a host, in normal form. -/
structure IsNormal (host : Host) (a : Authority) (names : List (List Char)) (u : Url) : Prop where
  scheme : Scheme.IsName u.scheme.toList
  authority_eq : u.authority = some a
  authority : a.IsNormal (Scheme.kind u.scheme) host
  path_eq : u.path = .segments (names.map String.ofList)
  path : Path.IsNormal (Scheme.kind u.scheme) names
  rooted : (Scheme.kind u.scheme).isSpecial = true → names ≠ []
  query : ∀ q, u.query = some q → IsEncoded (querySet (Scheme.kind u.scheme)) q.toList
  fragment : ∀ f, u.fragment = some f → IsEncoded EncodeSet.fragment f.toList
  distant : Scheme.kind u.scheme = .file → host ≠ .domain "localhost"

/-- What is written behind the authority: path, query and fragment. -/
def tailChars (u : Url) : List Char :=
  u.path.chars ++ markedChars '?' u.query ++ markedChars '#' u.fragment

/-- An address with a host is written with the authority behind two slashes. -/
theorem IsNormal.chars_eq {u : Url} {host : Host} {a : Authority} {names : List (List Char)}
    (h : u.IsNormal host a names) :
    u.chars = u.scheme.toList ++ ':' :: '/' :: '/' :: (a.chars ++ u.tailChars) := by
  simp [chars, locationChars, h.authority_eq, tailChars]

theorem isEncoded_encode_query (kind : SchemeKind) (cs : List Char) :
    IsEncoded (querySet kind) (encode (querySet kind) cs) := by
  unfold querySet
  split
  · exact isEncoded_encode (by decide) (by decide) cs
  · exact isEncoded_encode (by decide) (by decide) cs

theorem isEncoded_encode_fragment (cs : List Char) :
    IsEncoded EncodeSet.fragment (encode EncodeSet.fragment cs) :=
  isEncoded_encode (by decide) (by decide) cs

/-- The query and the fragment that are read are encoded. -/
theorem isEncoded_readTail (kind : SchemeKind) (cs : List Char) :
    (∀ q, (readTail kind.isSpecial cs).1 = some q → IsEncoded (querySet kind) q.toList) ∧
      ∀ f, (readTail kind.isSpecial cs).2 = some f → IsEncoded EncodeSet.fragment f.toList := by
  constructor
  · intro q h_q
    unfold readTail at h_q
    dsimp only at h_q
    split at h_q
    · rw [← Option.some.inj h_q, String.toList_ofList]
      exact isEncoded_encode_query kind _
    · cases h_q
  · intro f h_f
    unfold readTail at h_f
    dsimp only at h_f
    split at h_f
    · rw [← Option.some.inj h_f, String.toList_ofList]
      exact isEncoded_encode_fragment _
    · cases h_f

theorem exists_isNormal_pathAfterAuthority (kind : SchemeKind) (written : List Char) :
    ∃ names, (kind.isSpecial = true → names ≠ []) ∧ Path.IsNormal kind names ∧
      (pathAfterAuthority kind written).1 = .segments (names.map String.ofList) := by
  unfold pathAfterAuthority
  split
  · next h_none =>
    exact ⟨[], fun h => absurd (h_none.2.symm.trans h) (by decide), Path.isNormal_nil kind, rfl⟩
  · obtain ⟨names, h_ne, h_normal, h_path⟩ := Path.exists_isNormal_resolve kind (dropSlash kind written)
    exact ⟨names, fun _ => h_ne, h_normal, h_path⟩

/-- Whatever the text behind an authority in normal form is, the address is in normal form. -/
theorem exists_isNormal_withTail {scheme : List Char} {a : Authority} {host : Host}
    (h_scheme : Scheme.IsName scheme)
    (h_authority : a.IsNormal (Scheme.kind (String.ofList scheme)) host)
    (h_distant : Scheme.kind (String.ofList scheme) = .file → host ≠ .domain "localhost")
    (written tail : List Char) :
    ∃ names, (withTail (String.ofList scheme) (some a)
      (pathAfterAuthority (Scheme.kind (String.ofList scheme)) written).1 tail).IsNormal
        host a names := by
  obtain ⟨names, h_rooted, h_path, h_eq⟩ :=
    exists_isNormal_pathAfterAuthority (Scheme.kind (String.ofList scheme)) written
  have h_tail := isEncoded_readTail (Scheme.kind (String.ofList scheme)) (tail.dropWhile (!endsPath ·))
  refine ⟨names, ?_, rfl, h_authority, h_eq, h_path, h_rooted, h_tail.1, h_tail.2, h_distant⟩
  show Scheme.IsName (String.ofList scheme).toList
  rwa [String.toList_ofList]

/-- The host in the address of a file is read from some text, and is not the local one. -/
theorem fileHost_eq_some {written : List Char} {host : Host}
    (h : fileHost written = .ok (some host)) :
    written ≠ [] ∧ Host.parse true written = .ok host ∧ host ≠ .domain "localhost" := by
  unfold fileHost at h
  split at h
  · cases h
  · next h_ne =>
    obtain ⟨parsed, h_parsed, h⟩ := bind_eq_ok.1 h
    have h := Except.ok.inj h
    split at h
    · cases h
    · next h_distant =>
      obtain rfl := Option.some.inj h
      exact ⟨h_ne, h_parsed, h_distant⟩

/-- The address of a file that has a host names no drive. -/
theorem fileAt_eq_withTail {scheme : String} {given : Option Host} {resolved : Path × Bool}
    {tail : List Char} {host : Host} (h : (fileAt scheme given resolved tail).host? = some host) :
    fileAt scheme given resolved tail
      = withTail scheme (some { host := some host }) resolved.1 tail := by
  obtain ⟨path, drive⟩ := resolved
  cases drive with
  | true => cases h
  | false =>
    obtain rfl : given = some host := h
    rfl

/-- The address of a file with a host. -/
theorem exists_isNormal_of_parseFile {scheme cs : List Char} {u : Url} {host : Host}
    (h_scheme : Scheme.IsName scheme) (h_kind : Scheme.kind (String.ofList scheme) = .file)
    (h_parse : parseFile (String.ofList scheme) cs = .ok u) (h_host : u.host? = some host) :
    ∃ a names, u.IsNormal host a names := by
  unfold parseFile at h_parse
  dsimp only at h_parse
  split at h_parse
  · next c d rest =>
    split at h_parse
    · split at h_parse
      · cases h_parse
        cases host?_fileAt h_host
      · next h_drive =>
        obtain ⟨given, h_given, h_parse⟩ := bind_eq_ok.1 h_parse
        cases given with
        | none =>
          cases h_parse
          cases host?_fileAt h_host
        | some given =>
          -- a file on a host: the only way that is left to have one
          obtain ⟨h_ne, h_parsed, h_distant⟩ := fileHost_eq_some h_given
          have h_authority : ({ host := some given } : Authority).IsNormal
              (Scheme.kind (String.ofList scheme)) given := by
            rw [h_kind]
            exact ⟨rfl, nofun, nofun, nofun, fun _ => ⟨rfl, rfl⟩, _, h_ne, h_parsed⟩
          cases h_parse
          obtain rfl := Option.some.inj (host?_fileAt h_host)
          rw [fileAt_eq_withTail h_host, ← h_kind]
          exact ⟨_, exists_isNormal_withTail h_scheme h_authority (fun _ => h_distant) _ _⟩
    · cases h_parse
      cases host?_fileAt h_host
  · cases h_parse
    cases host?_fileAt h_host

theorem exists_isNormal_of_parseAuthority {scheme cs : List Char} {u : Url} {host : Host}
    (h_scheme : Scheme.IsName scheme) (h_kind : Scheme.kind (String.ofList scheme) ≠ .file)
    (h_parse : parseAuthority (String.ofList scheme) cs = .ok u) (h_host : u.host? = some host) :
    ∃ a names, u.IsNormal host a names := by
  unfold parseAuthority at h_parse
  obtain ⟨⟨a, left⟩, h_authority, h_parse⟩ := bind_eq_ok.1 h_parse
  cases h_parse
  have h_normal := Authority.isNormal_of_parse h_kind h_authority h_host
  exact ⟨a, exists_isNormal_withTail h_scheme h_normal (fun h => absurd h h_kind) _ _⟩

/-- **Every address that is read and has a host is in normal form.** -/
theorem exists_isNormal_of_parse {text : String} {u : Url} {host : Host}
    (h_parse : Url.parse text = .ok u) (h_host : u.host? = some host) :
    ∃ a names, u.IsNormal host a names := by
  unfold Url.parse at h_parse
  split at h_parse
  · cases h_parse
  · next name rest h_split =>
    have h_scheme := Scheme.isName_of_split? h_split
    dsimp only at h_parse
    split at h_parse
    · next h_kind => exact exists_isNormal_of_parseFile h_scheme h_kind h_parse h_host
    · next port h_kind =>
      exact exists_isNormal_of_parseAuthority h_scheme (by rw [h_kind]; nofun) h_parse h_host
    · next h_kind =>
      split at h_parse
      · exact exists_isNormal_of_parseAuthority h_scheme (by rw [h_kind]; nofun) h_parse h_host
      -- without two slashes there is no authority
      · cases h_parse
        cases h_host
      · cases h_parse
        cases h_host

end Url

end KeyedBreakers
