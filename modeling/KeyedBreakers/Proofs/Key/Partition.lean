import KeyedBreakers.Key.Selector
import KeyedBreakers.Proofs.Url.Endpoint
import KeyedBreakers.Proofs.Url.HostText
import Mathlib.Data.List.Basic

/-!
# The preset selectors partition calls exactly

A preset selector joins parts of a call to one text. Calls must share a breaker if these parts are
the same, and must not if one of them differs, so the text has to determine the parts. It does: the
host ends at the last colon, unless that stands in brackets, and the key of a target ends at the
first number sign. An operation may hold either character; it comes last.

* `Target.IsRead` — targets that were read, and not put together by hand;
* `Selector.hostAndPort_inj` — the key of a target determines its host and its port;
* `Selector.presets_partition` — the main theorem.
-/

namespace KeyedBreakers

open KeyedBreakers.Text KeyedBreakers.Url

/-- A target that was read: from a text, or as an address that was read from one. -/
inductive Target.IsRead : Target → Prop
  | ofText {text : String} {t : Target} (h_parse : Target.parse text = .ok t) : IsRead t
  | ofUrl {text : String} {url : Url} (h_parse : Url.parse text = .ok url) :
      IsRead (Target.ofUrl url)

/-- The address of a target that is read from a text is the address of the text. -/
theorem Target.parse_eq_ok {text : String} {t : Target} (h_parse : Target.parse text = .ok t) :
    ∃ url, Url.parse text = .ok url ∧
      t = ⟨url, url.port? <|> portAsWritten? text.toList, text⟩ := by
  unfold Target.parse at h_parse
  obtain ⟨url, h_url, h_parse⟩ := bind_eq_ok.1 h_parse
  exact ⟨url, h_url, (Except.ok.inj h_parse).symm⟩

theorem Url.isHostText_of_parse {text host : String} {url : Url}
    (h_parse : Url.parse text = .ok url) (h_host : url.hostText? = some host) :
    IsHostText host.toList := by
  obtain ⟨h, h_h, rfl⟩ := Option.map_eq_some_iff.1 h_host
  obtain ⟨name, rest, authority, -, -, h_names⟩ := Url.namesEndpoint_of_parse h_parse h_h
  obtain ⟨domains, cs, h_cs⟩ := h_names.exists_parse
  rw [Host.text, String.toList_ofList]
  exact Host.isHostText_of_parse h_cs

/-- The host of a target that was read is written without the marks of a key. -/
theorem Target.IsRead.isHostText {t : Target} {host : String} (h : t.IsRead)
    (h_host : t.host? = some host) : IsHostText host.toList := by
  cases h with
  | ofText h_parse =>
    obtain ⟨url, h_url, rfl⟩ := Target.parse_eq_ok h_parse
    exact Url.isHostText_of_parse h_url h_host
  | ofUrl h_parse => exact Url.isHostText_of_parse h_parse h_host

namespace Selector

variable {a b call : Call}

/-! ### What each selector answers -/

theorem byOperation_eq_ok {key : String} :
    byOperation call = .ok key ↔ call.operation ≠ "" ∧ call.operation = key := by
  unfold byOperation
  split
  · next h_empty => simp [h_empty]
  · next h_some => simp [h_some]

theorem byTarget_eq_ok {key : String} :
    byTarget call = .ok key ↔
      ∃ host, call.target.host? = some host ∧ hostAndPort host call.target.port = key := by
  unfold byTarget
  split
  · next host h_host => simp [h_host]
  · next h_none => simp [h_none]

theorem byTargetAndOperation_eq_ok {key : String} :
    byTargetAndOperation call = .ok key ↔
      ∃ target operation, byTarget call = .ok target ∧ byOperation call = .ok operation ∧
        target ++ "#" ++ operation = key := by
  unfold byTargetAndOperation
  rw [bind_eq_ok]
  refine exists_congr fun target => ?_
  rw [exists_and_left, bind_eq_ok]
  simp only [pure, Except.pure, Except.ok.injEq]

/-! ### What a key says of its parts -/

/-- The mark and the digits of a port. -/
def portSuffix : Option UInt16 → List Char
  | some port => ':' :: decimal port.toNat
  | none => []

theorem toList_hostAndPort (host : String) (port : Option UInt16) :
    (hostAndPort host port).toList = host.toList ++ portSuffix port := by
  cases port with
  | none => exact (List.append_nil _).symm
  | some p => simp [hostAndPort, portSuffix]

/-- Decimal digits determine a port. -/
theorem decimal_port_inj {p q : UInt16} (h : decimal p.toNat = decimal q.toNat) : p = q := by
  have h_read : readDecimal? (decimal p.toNat) = readDecimal? (decimal q.toNat) := by rw [h]
  rw [readDecimal?_decimal, readDecimal?_decimal] at h_read
  exact UInt16.toNat_inj.1 (Option.some.inj h_read)

theorem colon_notMem_decimal (n : Nat) : ':' ∉ decimal n := by
  intro h
  exact absurd (isDigit_of_mem_decimal h) (by decide)

/-- A host followed by a port is not the text of a host. -/
theorem not_isHostText_append_port {host : List Char} {p : UInt16}
    (h : IsHostText (host ++ portSuffix (some p))) : False := by
  have h_last := h.getLast?_of_colon_mem (by simp [portSuffix])
  -- the last character of the port is a digit
  rw [portSuffix, List.append_cons, List.getLast?_append_of_ne_nil _ (decimal_ne_nil _)] at h_last
  exact absurd (isDigit_of_mem_decimal (List.mem_of_getLast? h_last)) (by decide)

/-- **The key of a target determines its host and its port.** -/
theorem hostAndPort_inj {host host' : String} {port port' : Option UInt16}
    (h : IsHostText host.toList) (h' : IsHostText host'.toList) :
    hostAndPort host port = hostAndPort host' port' ↔ host = host' ∧ port = port' := by
  refine ⟨fun h_eq => ?_, fun ⟨h_host, h_port⟩ => by rw [h_host, h_port]⟩
  rw [← String.toList_inj, toList_hostAndPort, toList_hostAndPort] at h_eq
  rw [← String.toList_inj]
  cases port with
  | none =>
    rw [portSuffix, List.append_nil] at h_eq
    cases port' with
    | none =>
      rw [portSuffix, List.append_nil] at h_eq
      exact ⟨h_eq, rfl⟩
    | some q => exact (not_isHostText_append_port (h_eq ▸ h)).elim
  | some p =>
    cases port' with
    | none =>
      rw [portSuffix.eq_2, List.append_nil] at h_eq
      exact (not_isHostText_append_port (h_eq ▸ h')).elim
    | some q =>
      -- digits hold no colon, so the last colon starts the port in both
      have h_cut := congrArg (cutLast? ':') h_eq
      rw [portSuffix, portSuffix, cutLast?_append _ (colon_notMem_decimal _),
        cutLast?_append _ (colon_notMem_decimal _), Option.some_inj, Prod.mk.injEq] at h_cut
      obtain ⟨h_host, h_digits⟩ := h_cut
      exact ⟨h_host, congrArg some (decimal_port_inj h_digits)⟩

/-- The key of a target has no number sign. -/
theorem hash_notMem_hostAndPort {host : String} {port : Option UInt16}
    (h : IsHostText host.toList) : '#' ∉ (hostAndPort host port).toList := by
  rw [toList_hostAndPort, List.mem_append, not_or]
  refine ⟨h.hash_notMem, ?_⟩
  cases port with
  | none => exact List.not_mem_nil
  | some p =>
    rw [portSuffix, List.mem_cons, not_or]
    exact ⟨by decide, fun h_digit => absurd (isDigit_of_mem_decimal h_digit) (by decide)⟩

/-- The first number sign separates the two parts of a key. -/
theorem append_hash_inj {target target' operation operation' : String}
    (h : '#' ∉ target.toList) (h' : '#' ∉ target'.toList) :
    target ++ "#" ++ operation = target' ++ "#" ++ operation' ↔
      target = target' ∧ operation = operation' := by
  refine ⟨fun h_eq => ?_, fun ⟨h_target, h_operation⟩ => by rw [h_target, h_operation]⟩
  have h_list : target.toList ++ '#' :: operation.toList =
      target'.toList ++ '#' :: operation'.toList := by
    simpa using congrArg String.toList h_eq
  have h_cut := congrArg (cutFirst? '#') h_list
  rw [cutFirst?_append _ h, cutFirst?_append _ h', Option.some_inj, Prod.mk.injEq,
    String.toList_inj, String.toList_inj] at h_cut
  exact h_cut

/-! ### The main theorem -/

theorem byOperation_eq_iff {k l : String} (h_k : byOperation a = .ok k)
    (h_l : byOperation b = .ok l) : k = l ↔ a.operation = b.operation := by
  rw [← (byOperation_eq_ok.1 h_k).2, ← (byOperation_eq_ok.1 h_l).2]

theorem byTarget_eq_iff (h_a : a.target.IsRead) (h_b : b.target.IsRead) {k l : String}
    (h_k : byTarget a = .ok k) (h_l : byTarget b = .ok l) :
    k = l ↔ (a.target.host?, a.target.port) = (b.target.host?, b.target.port) := by
  obtain ⟨host, h_host, rfl⟩ := byTarget_eq_ok.1 h_k
  obtain ⟨host', h_host', rfl⟩ := byTarget_eq_ok.1 h_l
  rw [hostAndPort_inj (h_a.isHostText h_host) (h_b.isHostText h_host'), h_host, h_host',
    Prod.mk.injEq, Option.some_inj]

theorem byTargetAndOperation_eq_iff (h_a : a.target.IsRead) (h_b : b.target.IsRead) {k l : String}
    (h_k : byTargetAndOperation a = .ok k) (h_l : byTargetAndOperation b = .ok l) :
    k = l ↔ (a.target.host?, a.target.port) = (b.target.host?, b.target.port) ∧
      a.operation = b.operation := by
  obtain ⟨target, operation, h_target, h_operation, rfl⟩ := byTargetAndOperation_eq_ok.1 h_k
  obtain ⟨target', operation', h_target', h_operation', rfl⟩ := byTargetAndOperation_eq_ok.1 h_l
  rw [← byTarget_eq_iff h_a h_b h_target h_target', ← byOperation_eq_iff h_operation h_operation']
  obtain ⟨host, h_host, rfl⟩ := byTarget_eq_ok.1 h_target
  obtain ⟨host', h_host', rfl⟩ := byTarget_eq_ok.1 h_target'
  exact append_hash_inj (hash_notMem_hostAndPort (h_a.isHostText h_host))
    (hash_notMem_hostAndPort (h_b.isHostText h_host'))

theorem exists_byOperation_eq_ok : (∃ key, byOperation call = .ok key) ↔ call.operation ≠ "" := by
  simp only [byOperation_eq_ok, exists_and_left, exists_eq', and_true]

theorem exists_byTarget_eq_ok :
    (∃ key, byTarget call = .ok key) ↔ call.target.host?.isSome = true := by
  rw [Option.isSome_iff_exists]
  constructor
  · rintro ⟨key, h_key⟩
    obtain ⟨host, h_host, -⟩ := byTarget_eq_ok.1 h_key
    exact ⟨host, h_host⟩
  · rintro ⟨host, h_host⟩
    exact ⟨_, byTarget_eq_ok.2 ⟨host, h_host, rfl⟩⟩

theorem exists_byTargetAndOperation_eq_ok :
    (∃ key, byTargetAndOperation call = .ok key) ↔
      (∃ key, byTarget call = .ok key) ∧ ∃ key, byOperation call = .ok key := by
  constructor
  · rintro ⟨key, h_key⟩
    obtain ⟨target, operation, h_target, h_operation, -⟩ := byTargetAndOperation_eq_ok.1 h_key
    exact ⟨⟨target, h_target⟩, operation, h_operation⟩
  · rintro ⟨⟨target, h_target⟩, operation, h_operation⟩
    exact ⟨_, byTargetAndOperation_eq_ok.2 ⟨target, operation, h_target, h_operation, rfl⟩⟩

/-- A host that is missing is what the selector complains about first. -/
theorem byTargetAndOperation_of_host?_eq_none (h_host : call.target.host? = none) :
    byTargetAndOperation call = .error (.missingHost call.target.written) := by
  unfold byTargetAndOperation byTarget
  rw [h_host]
  rfl

theorem byTargetAndOperation_of_operation_eq_empty (h_host : call.target.host?.isSome = true)
    (h_operation : call.operation = "") :
    byTargetAndOperation call = .error .missingOperation := by
  obtain ⟨host, h_host⟩ := Option.isSome_iff_exists.1 h_host
  unfold byTargetAndOperation byTarget byOperation
  rw [h_host, if_pos h_operation]
  rfl

/-- **The preset selectors partition calls exactly.** For two calls whose targets were read, each
selector has a key if the call has the parts that the key is made of, and the keys are the same if
the parts are. -/
theorem presets_partition {a b : Call} (h_a : a.target.IsRead) (h_b : b.target.IsRead) :
    ((∃ key, byOperation a = .ok key) ↔ a.operation ≠ "") ∧
    (∀ k l, byOperation a = .ok k → byOperation b = .ok l →
      (k = l ↔ a.operation = b.operation)) ∧
    ((∃ key, byTarget a = .ok key) ↔ a.target.host?.isSome = true) ∧
    (∀ k l, byTarget a = .ok k → byTarget b = .ok l →
      (k = l ↔ (a.target.host?, a.target.port) = (b.target.host?, b.target.port))) ∧
    ((∃ key, byTargetAndOperation a = .ok key) ↔
      (∃ key, byTarget a = .ok key) ∧ ∃ key, byOperation a = .ok key) ∧
    (a.target.host? = none →
      byTargetAndOperation a = .error (.missingHost a.target.written)) ∧
    (a.target.host?.isSome = true → a.operation = "" →
      byTargetAndOperation a = .error .missingOperation) ∧
    (∀ k l, byTargetAndOperation a = .ok k → byTargetAndOperation b = .ok l →
      (k = l ↔ (a.target.host?, a.target.port) = (b.target.host?, b.target.port) ∧
        a.operation = b.operation)) :=
  ⟨exists_byOperation_eq_ok, fun _ _ => byOperation_eq_iff, exists_byTarget_eq_ok,
    fun _ _ => byTarget_eq_iff h_a h_b, exists_byTargetAndOperation_eq_ok,
    byTargetAndOperation_of_host?_eq_none, byTargetAndOperation_of_operation_eq_empty,
    fun _ _ => byTargetAndOperation_eq_iff h_a h_b⟩

/-- The address of a queue, with a port. -/
def queue : Url :=
  { scheme := "rpc", authority := some { host := some (.verbatim "queue"), port := some 81 },
    path := .segments [] }

/-- A call whose operation looks like a port and another operation. -/
def enqueue : Call :=
  { target := ⟨queue, some 81, "rpc://queue:81"⟩, operation := ":81#put" }

/-- A call to the same queue by its address. -/
def inspect : Call :=
  { target := Target.ofUrl queue, operation := "put" }

theorem presets_partition_queue :
    enqueue.target.IsRead ∧ inspect.target.IsRead ∧
      (∀ k l, byTarget enqueue = .ok k → byTarget inspect = .ok l → k = l) ∧
      ∀ k l, byTargetAndOperation enqueue = .ok k → byTargetAndOperation inspect = .ok l →
        k ≠ l := by
  have h_text : Target.parse "rpc://queue:81" = .ok enqueue.target := rfl
  have h_url : Url.parse "rpc://queue:81" = .ok queue := rfl
  have h_a : enqueue.target.IsRead := .ofText h_text
  have h_b : inspect.target.IsRead := .ofUrl h_url
  obtain ⟨-, -, -, h_target, -, -, -, h_both⟩ := presets_partition h_a h_b
  refine ⟨h_a, h_b, fun k l h_k h_l => (h_target k l h_k h_l).2 rfl, fun k l h_k h_l h_eq => ?_⟩
  exact absurd ((h_both k l h_k h_l).1 h_eq).2 (by decide)

end Selector

end KeyedBreakers
