import KeyedBreakers.Proofs.Call.NormalText
import KeyedBreakers.Proofs.Call.WrittenPort
import KeyedBreakers.Proofs.Url.HostRereading

/-!
# Reading the text of an address

The text of an address with a host is read as that address again: nothing in it is ignored, each part
ends where it did, and there is nothing left to bring into normal form.

This is not so of all addresses. A file on a host may have a path that starts with a drive, as in
`file://[::1]/C:/`, and the host is dropped when the text is read. And a label outside ASCII may be
written with more characters than are decoded. Both are excluded where the address is read back.

* `Url.MayBeMisread` — the two exceptions;
* `Url.IsNormal.parseAuthority_chars`, `Url.IsNormal.parseFile_chars` — what is read behind the scheme;
* `Url.IsNormal.parse_text` — the address is read back, if its host is;
* `Url.parse_text_of_parse` — every other address is read back.
-/

namespace KeyedBreakers

open KeyedBreakers.Text KeyedBreakers.Url

namespace Url

/-! ### Nothing is ignored -/

/-- A text without padding has significant characters only. -/
theorem significant_eq_self {cs : List Char} (h : ∀ c ∈ cs, isPadding c = false) :
    significant cs = cs := by
  cases cs with
  | nil => rfl
  | cons c cs =>
    have h_c := h c List.mem_cons_self
    have h_cs : stripEnd cs = cs := strips_stripEnd.eq_self fun d h_d => h d (List.mem_cons_of_mem c h_d)
    have h_append := significant_append h_c [] cs
    rw [h_cs] at h_append
    exact h_append

/-- What stays in encoded text is no padding, if the set has the controls and the space. -/
theorem isPadding_of_isEncoded {set : EncodeSet} (h_set : ∀ n < 0x21, set (Char.ofNat n) = true)
    {cs : List Char} (h : IsEncoded set cs) : ∀ c ∈ cs, isPadding c = false := by
  intro c h_c
  rw [isPadding, decide_eq_false_iff_not, Nat.not_le]
  refine lt_toNat_of_class (p := fun d => !set d) (fun n h_n => ?_) ?_
  · rw [h_set n h_n]
    rfl
  · rw [(h c h_c).2]
    rfl

namespace IsNormal

variable {u : Url} {host : Host} {a : Authority} {names : List (List Char)}

theorem isPadding_of_mem_querySet {kind : SchemeKind} {cs : List Char}
    (h : IsEncoded (querySet kind) cs) : ∀ c ∈ cs, isPadding c = false := by
  unfold querySet at h
  split at h
  · exact isPadding_of_isEncoded (by decide) h
  · exact isPadding_of_isEncoded (by decide) h

theorem isPadding_of_mem_host (h : u.IsNormal host a names) :
    ∀ c ∈ host.chars, isPadding c = false := by
  obtain ⟨cs, -, h_parse⟩ := h.authority.parsed
  intro c h_c
  rw [isPadding, decide_eq_false_iff_not, Nat.not_le]
  exact Host.lt_toNat_of_mem_chars h_parse h_c

theorem isPadding_of_mem_credentials (h : u.IsNormal host a names) :
    ∀ c ∈ h.written.credentials, isPadding c = false := by
  have h_username := isPadding_of_isEncoded (by decide) h.authority.username
  have h_password := isPadding_of_isEncoded (by decide) h.authority.password
  have h_colon : ∀ c ∈ if a.credentials.password = "" then [] else ':' :: a.credentials.password.toList,
      isPadding c = false := by
    split
    · nofun
    · exact List.forall_mem_cons.2 ⟨by decide, h_password⟩
  have h_at : ∀ c ∈ ['@'], isPadding c = false := List.forall_mem_singleton.2 (by decide)
  rw [h.credentials_written, Credentials.chars]
  split
  · exact List.forall_mem_append.2 ⟨List.forall_mem_append.2 ⟨h_username, h_colon⟩, h_at⟩
  · nofun

theorem isPadding_of_mem_path {kind : SchemeKind} {names : List (List Char)}
    (h : Path.IsNormal kind names) :
    ∀ c ∈ (Path.segments (names.map String.ofList)).chars, isPadding c = false := by
  intro c h_c
  obtain ⟨s, h_s, h_c⟩ := List.mem_flatMap.1 h_c
  obtain ⟨name, h_name, rfl⟩ := List.mem_map.1 h_s
  rw [String.toList_ofList] at h_c
  rcases List.mem_cons.1 h_c with rfl | h_c
  · decide
  · exact isPadding_of_isEncoded (by decide) (h.segments name h_name).encoded c h_c

theorem isPadding_of_mem_tailChars (h : u.IsNormal host a names) :
    ∀ c ∈ u.tailChars, isPadding c = false := by
  have h_query : ∀ c ∈ markedChars '?' u.query, isPadding c = false := by
    cases h_q : u.query with
    | none => nofun
    | some q => exact List.forall_mem_cons.2 ⟨by decide, isPadding_of_mem_querySet (h.query q h_q)⟩
  have h_fragment : ∀ c ∈ markedChars '#' u.fragment, isPadding c = false := by
    cases h_f : u.fragment with
    | none => nofun
    | some f =>
      exact List.forall_mem_cons.2 ⟨by decide, isPadding_of_isEncoded (by decide) (h.fragment f h_f)⟩
  have h_path := isPadding_of_mem_path h.path
  rw [← h.path_eq] at h_path
  exact List.forall_mem_append.2 ⟨List.forall_mem_append.2 ⟨h_path, h_query⟩, h_fragment⟩

theorem host_ne_nil (h : u.IsNormal host a names) : host.chars ≠ [] := by
  obtain ⟨cs, h_cs, h_parse⟩ := h.authority.parsed
  exact Host.chars_ne_nil_of_parse h_cs h_parse

/-- The text of an address has no padding. -/
theorem isPadding_of_mem_chars (h : u.IsNormal host a names) : ∀ c ∈ u.chars, isPadding c = false := by
  have h_scheme : ∀ c ∈ h.written.scheme, isPadding c = false :=
    fun c h_c => WrittenTarget.isPadding_of_isNameChar (WrittenTarget.mem_scheme h_c)
  have h_slashes : ∀ c ∈ [':', '/', '/'], isPadding c = false := by
    simp only [List.mem_cons, List.not_mem_nil, or_false]
    rintro c (rfl | rfl | rfl) <;> decide
  have h_port : ∀ c ∈ h.written.portPart, isPadding c = false := by
    intro c h_c
    rcases WrittenTarget.mem_portPart h_c with rfl | h_digit
    · decide
    · exact isPadding_of_isDigit h_digit
  rw [← h.chars_written]
  refine List.forall_mem_append.2 ⟨List.forall_mem_append.2 ⟨h_scheme, h_slashes⟩, ?_⟩
  refine List.forall_mem_append.2 ⟨List.forall_mem_append.2 ⟨h.isPadding_of_mem_credentials, ?_⟩, ?_⟩
  · exact List.forall_mem_append.2 ⟨h.isPadding_of_mem_host, h_port⟩
  · exact h.isPadding_of_mem_tailChars

/-! ### The authority -/

/-- The host is seen as it is written. -/
theorem seenHost_written (h : u.IsNormal host a names) : h.written.seenHost = host.chars := by
  have h_trim : host.chars.rdropWhile isPadding = host.chars :=
    List.rdropWhile_eq_self_iff.2 fun h_ne => by
      rw [h.isPadding_of_mem_host _ (List.getLast_mem h_ne)]
      exact Bool.false_ne_true
  unfold WrittenTarget.seenHost
  split
  · exact h_trim
  · rfl

end IsNormal

/-- Credentials are read back. -/
theorem Credentials.read_userinfo {c : Credentials} {text : List Char}
    (h_username : IsEncoded EncodeSet.userinfo c.username.toList)
    (h_password : IsEncoded EncodeSet.userinfo c.password.toList) (h : c.userinfo? = some text) :
    read text = c := by
  have h_colon : ':' ∉ c.username.toList := fun h_mem => absurd (h_username _ h_mem).2 (by decide)
  unfold userinfo? at h
  split at h
  · obtain rfl := Option.some.inj h
    unfold read
    by_cases h_empty : c.password = ""
    · rw [if_pos h_empty, List.append_nil, cutFirst?_of_notMem h_colon]
      dsimp only
      rw [encode_eq_self h_username, String.ofList_toList, ← h_empty]
    · rw [if_neg h_empty, cutFirst?_append _ h_colon]
      dsimp only
      rw [encode_eq_self h_username, encode_eq_self h_password, String.ofList_toList,
        String.ofList_toList]
  · cases h

/-- The reader separates the credentials from the location. -/
theorem Authority.splitCredentials_append {c : Credentials} {location : List Char} (followed : Bool)
    (h_username : IsEncoded EncodeSet.userinfo c.username.toList)
    (h_password : IsEncoded EncodeSet.userinfo c.password.toList) (h_location : '@' ∉ location) :
    splitCredentials followed (c.chars ++ location) = .ok (c, location) := by
  rw [Credentials.chars_eq]
  cases h_text : c.userinfo? with
  | none =>
    have h_c : c = {} := by
      unfold Credentials.userinfo? Credentials.isWritten at h_text
      split at h_text
      · cases h_text
      · next h_empty =>
        simp only [ne_eq, decide_not, Bool.or_eq_true, Bool.not_eq_true', decide_eq_false_iff_not,
          not_or, not_not] at h_empty
        obtain ⟨username, password⟩ := c
        obtain ⟨rfl, rfl⟩ := h_empty
        rfl
    unfold splitCredentials
    rw [Option.map_none, Option.getD_none, List.nil_append, cutLast?_of_notMem h_location, h_c]
  | some text =>
    have h_read := Credentials.read_userinfo h_username h_password h_text
    unfold splitCredentials
    rw [Option.map_some, Option.getD_some, List.append_assoc, List.singleton_append,
      cutLast?_append _ h_location]
    cases text with
    | nil =>
      -- only credentials that are not written are empty
      rw [← h_read] at h_text
      cases h_text
    | cons d ds => exact congrArg (fun c => Except.ok (c, location)) h_read

variable {u : Url} {host : Host} {a : Authority} {names : List (List Char)}

/-- The port is read back. -/
theorem readPort_decimal (port : Option UInt16) :
    readPort ((port.map fun p => decimal p.toNat).getD []) = .ok (port, []) := by
  cases port with
  | none => rfl
  | some p =>
    have h_digits : (decimal p.toNat).all Char.isDigit = true :=
      List.all_eq_true.2 fun c h_c => isDigit_of_mem_decimal h_c
    rw [Option.map_some, Option.getD_some, WrittenTarget.readPort_digits h_digits,
      readDecimal?_decimal]
    dsimp only
    rw [if_pos p.toNat_lt, UInt16.ofNat_toNat]

/-- **An authority is read back**, if the host is. -/
theorem IsNormal.parse_authority (h : u.IsNormal host a names) (followed : Bool)
    (h_host : Host.parse (Scheme.kind u.scheme).isSpecial host.chars = .ok host) :
    Authority.parse (Scheme.kind u.scheme) followed
        (h.written.credentials ++ (h.written.host ++ h.written.portPart))
      = .ok (a, []) := by
  have h_split : Authority.splitCredentials followed
      (h.written.credentials ++ (h.written.host ++ h.written.portPart))
        = .ok (a.credentials, h.written.host ++ h.written.portPart) := by
    rw [h.credentials_written]
    exact Authority.splitCredentials_append followed h.authority.username h.authority.password
      (WrittenTarget.at_notMem (List.Subset.refl _))
  have h_cut : cutPort false (h.written.host ++ h.written.portPart)
      = (host.chars, a.port.map fun p => decimal p.toNat) := by
    have h_append := h.written.cutPort_append
    rw [h.seenHost_written] at h_append
    exact h_append
  have h_port : (if a.port = (Scheme.kind u.scheme).defaultPort? then none else a.port) = a.port := by
    cases h_a : a.port with
    | none => exact ite_self none
    | some p => exact if_neg fun h_eq => h.authority.port p h_a h_eq.symm
  have h_a : (⟨a.credentials, some host, a.port⟩ : Authority) = a := by
    rw [← h.authority.host_eq]
  unfold Authority.parse
  refine bind_eq_ok.2 ⟨_, h_split, ?_⟩
  dsimp only
  rw [h_cut, if_neg h.host_ne_nil]
  refine bind_eq_ok.2 ⟨host, h_host, bind_eq_ok.2 ⟨_, readPort_decimal a.port, ?_⟩⟩
  dsimp only
  rw [h_port, h_a]

/-! ### Path, query and fragment -/

/-- Query and fragment are read back. -/
theorem readTail_markedChars {kind : SchemeKind} {query fragment : Option String}
    (h_query : ∀ q, query = some q → IsEncoded (querySet kind) q.toList)
    (h_fragment : ∀ f, fragment = some f → IsEncoded EncodeSet.fragment f.toList) :
    readTail kind.isSpecial (markedChars '?' query ++ markedChars '#' fragment)
      = (query, fragment) := by
  have h_hash : ∀ q, query = some q → ∀ c ∈ q.toList, (!(c == '#')) = true := by
    intro q h_q c h_c
    have h_free := (h_query q h_q c h_c).2
    rw [Bool.not_eq_true', beq_eq_false_iff_ne]
    rintro rfl
    unfold querySet at h_free
    split at h_free <;> exact absurd h_free (by decide)
  have h_marked : ∀ c ∈ (markedChars '#' fragment).head?, (!(c == '#')) = false := by
    cases fragment with
    | none => nofun
    | some f =>
      rintro c ⟨⟩
      rfl
  -- the query ends where the fragment begins, since it has no number sign
  cases query with
  | none =>
    cases fragment with
    | none => rfl
    | some f =>
      show (none, some (String.ofList (encode EncodeSet.fragment f.toList))) = (none, some f)
      rw [encode_eq_self (h_fragment f rfl), String.ofList_toList]
  | some q =>
    have h_take := WrittenTarget.takeWhile_append_tail (h_hash q rfl) h_marked
    have h_drop : (markedChars '?' (some q) ++ markedChars '#' fragment).dropWhile (fun c => !(c == '#'))
        = markedChars '#' fragment :=
      WrittenTarget.dropWhile_append_tail (List.forall_mem_cons.2 ⟨rfl, h_hash q rfl⟩) h_marked
    have h_encoded := encode_eq_self (h_query q rfl)
    unfold readTail
    dsimp only
    rw [h_drop]
    refine Prod.ext ?_ ?_
    · show some (String.ofList (encode (querySet kind)
        ((q.toList ++ markedChars '#' fragment).takeWhile fun c => !(c == '#')))) = some q
      rw [h_take, h_encoded, String.ofList_toList]
    · cases fragment with
      | none => rfl
      | some f =>
        show some (String.ofList (encode EncodeSet.fragment f.toList)) = some f
        rw [encode_eq_self (h_fragment f rfl), String.ofList_toList]

theorem IsNormal.takeWhile_tailChars (h : u.IsNormal host a names) :
    u.tailChars.takeWhile (!endsPath ·) = u.path.chars ∧
      u.tailChars.dropWhile (!endsPath ·) = markedChars '?' u.query ++ markedChars '#' u.fragment := by
  have h_path : ∀ c ∈ u.path.chars, (!endsPath c) = true := by
    intro c h_c
    rw [h.path_eq] at h_c
    obtain ⟨s, h_s, h_c⟩ := List.mem_flatMap.1 h_c
    obtain ⟨name, h_name, rfl⟩ := List.mem_map.1 h_s
    rw [String.toList_ofList] at h_c
    rcases List.mem_cons.1 h_c with rfl | h_c
    · rfl
    · have h_free := ((h.path.segments name h_name).encoded c h_c).2
      rw [EncodeSet.path, Bool.or_eq_false_iff, Bool.or_eq_false_iff, Bool.or_eq_false_iff,
        Bool.or_eq_false_iff] at h_free
      rw [endsPath, h_free.1.1.2, h_free.1.1.1.2]
      rfl
  have h_marks : ∀ c ∈ (markedChars '?' u.query ++ markedChars '#' u.fragment).head?,
      (!endsPath c) = false := by
    cases u.query with
    | some q =>
      rintro c ⟨⟩
      rfl
    | none =>
      cases u.fragment with
      | some f =>
        rintro c ⟨⟩
        rfl
      | none => nofun
  unfold tailChars
  rw [List.append_assoc]
  exact ⟨WrittenTarget.takeWhile_append_tail h_path h_marks,
    WrittenTarget.dropWhile_append_tail h_path h_marks⟩

/-- The path is read back. -/
theorem IsNormal.pathAfterAuthority_chars (h : u.IsNormal host a names)
    (h_drive : Scheme.kind u.scheme = .file → ∀ name ∈ names.head?, Path.isDrive name = false) :
    pathAfterAuthority (Scheme.kind u.scheme) u.path.chars = (u.path, false) := by
  rw [h.path_eq]
  cases names with
  | nil =>
    have h_special : (Scheme.kind u.scheme).isSpecial = false :=
      Bool.eq_false_iff.2 fun h_special => h.rooted h_special rfl
    unfold pathAfterAuthority
    rw [if_pos ⟨rfl, h_special⟩]
    rfl
  | cons name names =>
    have h_chars : (Path.segments ((name :: names).map String.ofList)).chars
        = '/' :: joinWith ['/'] (name :: names) := by
      rw [cons_joinWith, Path.chars, List.flatMap_map]
      simp only [String.toList_ofList]
    have h_slash : (Scheme.kind u.scheme).isSlash '/' = true := rfl
    have h_resolve := Path.resolve_joinWith (List.cons_ne_nil name names) h.path h_drive
    unfold pathAfterAuthority
    rw [h_chars, if_neg (by simp), dropSlash, if_pos h_slash, h_resolve]

/-- What stands behind the authority is read back. -/
theorem IsNormal.withTail_tailChars (h : u.IsNormal host a names) :
    withTail u.scheme (some a) u.path u.tailChars = u := by
  unfold withTail
  rw [h.takeWhile_tailChars.2, readTail_markedChars h.query h.fragment, ← h.authority_eq]

/-! ### Addresses -/

namespace IsNormal

/-- What stands in front of the tail. -/
def location (h : u.IsNormal host a names) : List Char :=
  h.written.credentials ++ (h.written.host ++ h.written.portPart)

/-- The location goes up to the tail. -/
theorem takeWhile_location (h : u.IsNormal host a names) (kind : SchemeKind) :
    (h.location ++ u.tailChars).takeWhile (!kind.endsAuthority ·) = h.location ∧
      (h.location ++ u.tailChars).dropWhile (!kind.endsAuthority ·) = u.tailChars := by
  -- the location has none of the characters that end it, and the tail begins with one
  have h_location : ∀ c ∈ h.location, (!kind.endsAuthority c) = true := by
    intro c h_c
    have h_free := WrittenTarget.mem_location (List.Subset.refl _) h_c
    rw [WrittenTarget.endsAuthority_of_endsLocation h_free]
    rfl
  have h_tail : ∀ c ∈ u.tailChars.head?, (!kind.endsAuthority c) = false := by
    intro c h_c
    rcases h.isTail_tailChars c h_c with rfl | rfl | rfl <;>
      simp [SchemeKind.endsAuthority, SchemeKind.isSlash]
  exact ⟨WrittenTarget.takeWhile_append_tail h_location h_tail,
    WrittenTarget.dropWhile_append_tail h_location h_tail⟩

/-- No slash stands at the head of the location. -/
theorem dropWhile_location (h : u.IsNormal host a names) (kind : SchemeKind) :
    (h.location ++ u.tailChars).dropWhile kind.isSlash = h.location ++ u.tailChars := by
  have h_ne : h.location ≠ [] :=
    List.append_ne_nil_of_right_ne_nil _ (List.append_ne_nil_of_left_ne_nil h.host_ne_nil _)
  have h_free : ∀ c ∈ h.location, endsLocation c = false :=
    fun c h_c => WrittenTarget.mem_location (List.Subset.refl _) h_c
  obtain ⟨c, cs, h_eq⟩ := List.exists_cons_of_ne_nil h_ne
  rw [h_eq] at h_free ⊢
  have h_c : kind.endsAuthority c = false :=
    WrittenTarget.endsAuthority_of_endsLocation (h_free c List.mem_cons_self)
  rw [SchemeKind.endsAuthority, Bool.or_eq_false_iff, Bool.or_eq_false_iff] at h_c
  rw [List.cons_append, List.dropWhile_cons, h_c.1.1]
  rfl

theorem parseAuthority_chars (h : u.IsNormal host a names)
    (h_kind : Scheme.kind u.scheme ≠ .file)
    (h_host : Host.parse (Scheme.kind u.scheme).isSpecial host.chars = .ok host) :
    parseAuthority u.scheme (h.location ++ u.tailChars) = .ok u := by
  obtain ⟨h_take, h_drop⟩ := h.takeWhile_location (Scheme.kind u.scheme)
  unfold parseAuthority
  dsimp only
  rw [h_take, h_drop]
  refine bind_eq_ok.2 ⟨_, h.parse_authority _ h_host, ?_⟩
  dsimp only
  rw [List.nil_append, h.takeWhile_tailChars.1,
    h.pathAfterAuthority_chars fun h_file => absurd h_file h_kind]
  exact congrArg Except.ok h.withTail_tailChars

/-- No host is taken for a drive. -/
theorem isDrive_host (h : u.IsNormal host a names) : Path.isDrive host.chars = false := by
  obtain ⟨cs, -, h_parse⟩ := h.authority.parsed
  have h_text := Host.isHostText_of_parse h_parse
  -- the second character of a drive is in no name, and a literal begins with no letter
  generalize host.chars = text at h_text
  cases h_text with
  | bracketed h_inner =>
    unfold Path.isDrive
    split
    · next h_eq =>
      obtain rfl := (List.cons.inj h_eq).1
      rfl
    · rfl
  | name h_free =>
    unfold Path.isDrive
    split
    · next letter mark =>
      have h_mark := h_free mark (.tail _ (.head _))
      simp only [Host.isForbidden, Bool.or_eq_false_iff] at h_mark
      simp only [h_mark, Bool.or_self, Bool.and_false]
    · rfl

theorem parseFile_chars (h : u.IsNormal host a names) (h_kind : Scheme.kind u.scheme = .file)
    (h_host : Host.parse true host.chars = .ok host)
    (h_drive : ∀ name ∈ names.head?, Path.isDrive name = false) :
    parseFile u.scheme ('/' :: '/' :: (h.location ++ u.tailChars)) = .ok u := by
  obtain ⟨h_credentials, h_port⟩ := h.authority.bare h_kind
  obtain ⟨h_take, h_drop⟩ := h.takeWhile_location .file
  have h_location : h.location = host.chars := by
    show h.written.credentials ++ (host.chars ++ h.written.portPart) = host.chars
    rw [h.credentials_written, h.portPart_written, h_credentials, h_port]
    exact List.append_nil host.chars
  have h_a : a = { host := some host } := by
    rw [← h.authority.host_eq, ← h_credentials, ← h_port]
  have h_given : fileHost host.chars = .ok (some host) := by
    unfold fileHost
    rw [if_neg h.host_ne_nil]
    refine bind_eq_ok.2 ⟨host, h_host, ?_⟩
    rw [if_neg (h.distant h_kind)]
    rfl
  rw [h_location] at h_take ⊢
  unfold parseFile
  dsimp only
  have h_slashes : (SchemeKind.file.isSlash '/' && SchemeKind.file.isSlash '/') = true := rfl
  rw [if_pos h_slashes, h_take, h.isDrive_host, if_neg Bool.false_ne_true, List.drop_left]
  refine bind_eq_ok.2 ⟨_, h_given, ?_⟩
  have h_path := h.pathAfterAuthority_chars fun _ => h_drive
  have h_tail := h.withTail_tailChars
  rw [h_kind] at h_path
  dsimp only
  rw [h.takeWhile_tailChars.1, h_path]
  rw [h_a] at h_tail
  exact congrArg Except.ok h_tail

/-- **An address with a host is read back from its text**, if its host is and its path does not start
with a drive. -/
theorem parse_text (h : u.IsNormal host a names)
    (h_host : Host.parse (Scheme.kind u.scheme).isSpecial host.chars = .ok host)
    (h_drive : Scheme.kind u.scheme = .file → ∀ name ∈ names.head?, Path.isDrive name = false) :
    Url.parse u.text = .ok u := by
  have h_chars : u.chars = u.scheme.toList ++ ':' :: '/' :: '/' :: (h.location ++ u.tailChars) := by
    rw [← h.chars_written, WrittenTarget.chars, List.append_assoc]
    rfl
  unfold Url.parse
  rw [text, String.toList_ofList, significant_eq_self h.isPadding_of_mem_chars, h_chars,
    Scheme.split?_append h.scheme]
  dsimp only
  rw [String.ofList_toList]
  cases h_kind : Scheme.kind u.scheme with
  | file =>
    rw [h_kind] at h_host
    exact h.parseFile_chars h_kind h_host (h_drive h_kind)
  | other => exact h.parseAuthority_chars (by simp [h_kind]) h_host
  | special port =>
    -- all slashes are skipped, and there are two
    show parseAuthority u.scheme (('/' :: '/' :: (h.location ++ u.tailChars)).dropWhile
      (SchemeKind.special port).isSlash) = .ok u
    rw [List.dropWhile_cons_of_pos rfl, List.dropWhile_cons_of_pos rfl, h.dropWhile_location]
    exact h.parseAuthority_chars (by simp [h_kind]) h_host

end IsNormal

/-- The text of the address may be read as another address, or not at all. -/
inductive MayBeMisread (u : Url) : Prop where
  /-- A file has a drive at the head of its path. -/
  | drive {name : String} {names : List String} (h_kind : Scheme.kind u.scheme = .file)
      (h_path : u.path = .segments (name :: names)) (h_drive : Path.isDrive name.toList = true)
  /-- The host has a label too long to be decoded. -/
  | longLabel {name : String} {code : List Char} (h_host : u.host? = some (.domain name))
      (h_label : Label.mark ++ code ∈ pieces '.' name.toList)
      (h_long : Label.asciiLimit < code.length)

/-- **Every address with a host is read back from its text**, unless it may be misread. -/
theorem parse_text_of_parse {text : String} {u : Url} (h_parse : parse text = .ok u)
    (h_host : u.host?.isSome = true) (h_clear : ¬ u.MayBeMisread) :
    Url.parse u.text = .ok u := by
  obtain ⟨host, h_host⟩ := Option.isSome_iff_exists.1 h_host
  obtain ⟨a, names, h⟩ := exists_isNormal_of_parse h_parse h_host
  obtain ⟨cs, -, h_read⟩ := h.authority.parsed
  have h_short : ∀ name, host = .domain name → ∀ code,
      Label.mark ++ code ∈ pieces '.' name.toList → code.length ≤ Label.asciiLimit := by
    intro name h_name code h_label
    by_contra h_long
    exact h_clear (.longLabel (h_name ▸ h_host) h_label (Nat.not_le.1 h_long))
  have h_drive : Scheme.kind u.scheme = .file → ∀ name ∈ names.head?, Path.isDrive name = false := by
    intro h_kind name h_name
    cases names with
    | nil => cases h_name
    | cons first names =>
      obtain rfl := Option.some.inj h_name
      rw [Bool.eq_false_iff]
      intro h_drive
      refine h_clear (.drive h_kind h.path_eq ?_)
      rw [String.toList_ofList]
      exact h_drive
  exact h.parse_text (Host.parse_chars h_read h_short) h_drive

/-- A drive at the head of the path makes the host meaningless where the text is read. -/
example : (Url.parse "file://[::1]//C:/").toOption.map Url.text = some "file://[::1]/C:/" ∧
    (Url.parse "file://[::1]/C:/").toOption.map Url.text = some "file:///C:/" :=
  ⟨rfl, rfl⟩

end Url

end KeyedBreakers
