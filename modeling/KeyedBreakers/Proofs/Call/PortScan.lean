import KeyedBreakers.Proofs.Call.WrittenTarget
import KeyedBreakers.Proofs.Url.Significant

/-!
# What the scan for the port finds

The scan for the written port goes by the last occurrences of a few marks. None of them is dropped
from an address, so the scan makes the same cuts in a text and in what is left of it when ignored
characters are dropped. The port itself is read from the characters behind the last bracket or
colon, and there every character counts.

* `Target.scanned`, `Target.portIn?` — the part of a text that is scanned, and the port found in it;
* `Target.behindHost` — the characters that the port is read from;
* `Target.exists_of_portIn?` — where a port that is found stands;
* `Target.portIn?_strips` — dropping ignored characters elsewhere does not change the port;
* `Target.significant_of_cut`, `Target.scanned_stripEnd` — what is left of the text, and of the
  part.
-/

namespace KeyedBreakers

open KeyedBreakers.Text KeyedBreakers.Url

/-! ### What stays -/

theorem isPadding_of_isDigit {c : Char} (h : c.isDigit = true) : isPadding c = false :=
  WrittenTarget.isPadding_of_isNameChar (by simp [Scheme.isNameChar, Char.isAlphanum, h])

/-- The scan cuts what is left of a text where it cuts the text. -/
theorem Url.Strips.cutLast?_eq {g : List Char → List Char} (h : Strips g) {mark : Char}
    (h_mark : isPadding mark = false) (cs : List Char) :
    cutLast? mark (g cs) = (cutLast? mark cs).map fun (before, after) =>
      (before.filter (!isIgnored ·), g after) := by
  rcases cutLast?_cases mark cs with ⟨h_cs, h_cut⟩ | ⟨before, after, h_after, rfl, h_cut⟩
  · rw [h_cut, cutLast?_of_notMem fun h_mem => h_cs (h.subset cs h_mem)]
    rfl
  · rw [h_cut, h.append h_mark, cutLast?_append _ fun h_mem => h_after (h.subset after h_mem)]
    rfl

namespace Target

/-! ### The scanned part -/

/-- The part in which a port is looked for, in a text behind `://`. -/
def scanned (rest : List Char) : List Char := rest.takeWhile (!endsHostAndPort ·)

/-- The port that is found in a part. -/
def portIn? (part : List Char) : Option UInt16 :=
  ((afterPortColon? (afterCredentials part)).bind (readBounded? 65535)).map UInt16.ofNat

theorem portAsWritten?_eq_bind (text : List Char) :
    portAsWritten? text =
      (cutAtText? [':', '/', '/'] text).bind fun cut => portIn? (scanned cut.2) := by
  unfold portAsWritten? portIn? scanned
  cases cutAtText? [':', '/', '/'] text with
  | none => rfl
  | some cut =>
    cases h_port : afterPortColon? (afterCredentials (cut.2.takeWhile (!endsHostAndPort ·))) with
    | none => simp [h_port]
    | some port => simp [h_port]

/-- The characters behind the last closing bracket or, without one, behind the last colon. -/
def behindHost (location : List Char) : List Char :=
  match cutLast? ']' location with
  | some (_, after) => after
  | none => match cutLast? ':' location with
    | some (_, after) => after
    | none => []

variable {part : List Char} {p : UInt16}

theorem exists_append_afterCredentials (part : List Char) :
    ∃ front, part = front ++ afterCredentials part := by
  unfold afterCredentials
  rcases cutLast?_cases '@' part with ⟨-, h_cut⟩ | ⟨before, after, -, h_part, h_cut⟩
  · rw [h_cut]
    exact ⟨[], rfl⟩
  · rw [h_cut]
    exact ⟨before ++ ['@'], by rw [h_part]; simp⟩

/-- Both readers take the location from behind the last `@`. -/
theorem location_eq_afterCredentials {followed : Bool} {credentials : Credentials}
    {text location : List Char}
    (h : Authority.splitCredentials followed text = .ok (credentials, location)) :
    location = afterCredentials text := by
  unfold Authority.splitCredentials at h
  unfold afterCredentials
  split at h
  · next h_cut =>
    cases h
    rw [h_cut]
  · next h_cut =>
    rw [h_cut]
    split at h
    · cases h
    · cases h
      rfl
  · next h_cut =>
    cases h
    rw [h_cut]

/-- **Where a port that is found stands**: behind the last colon, and what is behind the host ends
with it. -/
theorem exists_of_portIn? (h : portIn? part = some p) :
    ∃ before port n, afterCredentials part = before ++ ':' :: port ∧
      readBounded? 65535 port = some n ∧ p = UInt16.ofNat n ∧
      ∀ c ∈ behindHost (afterCredentials part), c = ':' ∨ c ∈ port := by
  obtain ⟨n, h_bind, rfl⟩ := Option.map_eq_some_iff.1 h
  obtain ⟨port, h_port, h_read⟩ := Option.bind_eq_some_iff.1 h_bind
  unfold behindHost
  unfold afterPortColon? at h_port
  rcases cutLast?_cases ']' (afterCredentials part) with
    ⟨-, h_cut⟩ | ⟨before, after, -, h_part, h_cut⟩
  · rw [h_cut] at h_port ⊢
    dsimp only at h_port ⊢
    obtain ⟨⟨before, port⟩, h_cut', rfl⟩ := Option.map_eq_some_iff.1 h_port
    rw [h_cut']
    exact ⟨before, port, n, eq_of_cutLast? h_cut', h_read, rfl, fun c h_c => .inr h_c⟩
  · rw [h_cut] at h_port ⊢
    -- the bracket is followed by a colon
    split at h_port
    · next h_eq =>
      cases h_eq
      cases h_port
      refine ⟨before ++ [']'], port, n, ?_, h_read, rfl, fun c h_c => List.mem_cons.1 h_c⟩
      rw [h_part, List.append_assoc]
      rfl
    · cases h_port
    · next h_eq => cases h_eq

/-- A part with a port ends with a digit. -/
theorem isDigit_of_portIn? (h : portIn? part = some p) :
    ∃ c, part.getLast? = some c ∧ c.isDigit = true := by
  obtain ⟨before, port, n, h_location, h_read, -⟩ := exists_of_portIn? h
  obtain ⟨front, h_part⟩ := exists_append_afterCredentials part
  obtain ⟨h_ne, -, h_last⟩ := readBounded?_eq_some h_read
  have h_port : port.getLast? = some (port.getLast h_ne) := List.getLast?_eq_some_getLast h_ne
  refine ⟨port.getLast h_ne, ?_, h_last _ h_port⟩
  rw [h_part, h_location, ← List.append_assoc, List.append_cons,
    List.getLast?_append_of_ne_nil _ h_ne, h_port]

/-- No padding stands where a port is found. -/
theorem isPadding_of_portIn? (h : portIn? part = some p) :
    ∀ c ∈ behindHost (afterCredentials part), isPadding c = false := by
  obtain ⟨before, port, n, -, h_read, -, h_behind⟩ := exists_of_portIn? h
  intro c h_c
  rcases h_behind c h_c with rfl | h_c
  · decide
  · rcases (readBounded?_eq_some h_read).2.1 c h_c with h_digit | rfl
    · exact isPadding_of_isDigit h_digit
    · decide

/-! ### Dropping ignored characters -/

theorem afterCredentials_strips {g : List Char → List Char} (h : Strips g) (part : List Char) :
    afterCredentials (g part) = g (afterCredentials part) := by
  unfold afterCredentials
  rw [h.cutLast?_eq (by decide)]
  cases cutLast? '@' part with
  | none => rfl
  | some cut => rfl

theorem afterPortColon?_strips {g : List Char → List Char} (h : Strips g) {location : List Char}
    (h_free : ∀ c ∈ behindHost location, isPadding c = false) :
    afterPortColon? (g location) = afterPortColon? location := by
  unfold behindHost at h_free
  unfold afterPortColon?
  rw [h.cutLast?_eq (by decide), h.cutLast?_eq (by decide)]
  cases h_bracket : cutLast? ']' location with
  | some cut =>
    rw [h_bracket] at h_free
    dsimp only [Option.map_some]
    rw [h.eq_self h_free]
    obtain ⟨before, after⟩ := cut
    rcases after with _ | ⟨c, port⟩
    · rfl
    · by_cases h_c : c = ':'
      · rw [h_c]
        rfl
      · -- whatever else follows the bracket is no port
        split <;> split <;> simp_all
  | none =>
    rw [h_bracket] at h_free
    dsimp only [Option.map_none] at h_free ⊢
    cases h_colon : cutLast? ':' location with
    | none => rfl
    | some cut =>
      rw [h_colon] at h_free
      exact congrArg some (h.eq_self h_free)

/-- **Dropping ignored characters does not change the port**, unless some stand where it is read. -/
theorem portIn?_strips {g : List Char → List Char} (h : Strips g)
    (h_free : ∀ c ∈ behindHost (afterCredentials part), isPadding c = false) :
    portIn? (g part) = portIn? part := by
  unfold portIn?
  rw [afterCredentials_strips h, afterPortColon?_strips h h_free]

/-! ### What is left of the text -/

/-- What is left of a text with `://` in it. -/
theorem significant_of_cut {text before rest : List Char}
    (h : cutAtText? [':', '/', '/'] text = some (before, rest)) :
    significant text = stripStart before ++ [':', '/', '/'] ++ stripEnd rest := by
  have h_rest : stripEnd ('/' :: '/' :: rest) = '/' :: '/' :: stripEnd rest := by
    rw [← List.nil_append ('/' :: '/' :: rest), strips_stripEnd.append (by decide),
      ← List.nil_append ('/' :: rest), strips_stripEnd.append (by decide)]
    rfl
  rw [eq_of_cutAtText? h, List.append_assoc, List.cons_append, significant_append (by decide),
    List.append_assoc]
  exact congrArg (stripStart before ++ ':' :: ·) h_rest

theorem isPadding_of_endsHostAndPort {c : Char} (h : endsHostAndPort c = true) :
    isPadding c = false := by
  simp only [endsHostAndPort, Bool.or_eq_true, beq_iff_eq] at h
  rcases h with (rfl | rfl) | rfl <;> decide

/-- The scanned part is stripped, of its end too where it ends the text. -/
theorem scanned_stripEnd (rest : List Char) :
    ∃ g, Strips g ∧ scanned (stripEnd rest) = g (scanned rest) := by
  have h_part : ∀ c ∈ scanned rest, (!endsHostAndPort c) = true :=
    fun c h_c => List.mem_takeWhile_imp (p := (!endsHostAndPort ·)) h_c
  have h_rest : rest = scanned rest ++ rest.dropWhile (!endsHostAndPort ·) :=
    List.takeWhile_append_dropWhile.symm
  cases h_tail : rest.dropWhile (!endsHostAndPort ·) with
  | nil =>
    rw [h_tail, List.append_nil] at h_rest
    refine ⟨stripEnd, strips_stripEnd, ?_⟩
    rw [← h_rest]
    exact List.takeWhile_eq_self_iff.2 fun c h_c =>
      h_part c (h_rest ▸ strips_stripEnd.subset rest h_c)
  | cons c tail =>
    have h_c : endsHostAndPort c = true := by
      have h_head := List.head?_dropWhile_not (!endsHostAndPort ·) rest
      rw [h_tail] at h_head
      simpa using h_head
    refine ⟨_, strips_filter, ?_⟩
    rw [h_tail] at h_rest
    generalize scanned rest = part at h_part h_rest ⊢
    rw [h_rest, strips_stripEnd.append (isPadding_of_endsHostAndPort h_c)]
    refine WrittenTarget.takeWhile_append_tail (fun d h_d => ?_) ?_
    · exact h_part d (strips_filter.subset part h_d)
    · rintro _ ⟨⟩
      rw [h_c]
      rfl

end Target

end KeyedBreakers
