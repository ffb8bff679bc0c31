import KeyedBreakers.Key.Selector
import KeyedBreakers.Proofs.Call.Rereading

/-!
# Two ways to make a target

A target is made from a text or from an address that has been read before. In the first case a port
that the address does not have is looked for in the text, in the second it is not. On the text of an
address the two ways lead to the same target: the scan finds the port of the address there and nothing
else, whatever stands in the credentials, the path, the query and the fragment.

What this needs is that the text is read as the address again. Where it is not, no way of finding
the port could make the targets equal, so this is also necessary. It is known of all addresses but
two kinds, and asked for of these only: files with a drive at the head of the path, and hosts with a
label too long to be decoded.

* `Target.portAsWritten?_text` — what the scan finds in the text of an address;
* `Target.parse_text_iff` — when the two targets are equal;
* `Target.parse_text` — they are, if the text is read back or the address is not of the two kinds;
* `Target.two_ways_agree` — the main theorem.
-/

namespace KeyedBreakers

open KeyedBreakers.Text KeyedBreakers.Url

namespace Target

/-- **In the text of an address the scan finds the port of the address**, and none if it has none. -/
theorem portAsWritten?_text {text : String} {u : Url} (h_parse : Url.parse text = .ok u)
    (h_host : u.host?.isSome = true) : portAsWritten? u.text.toList = u.port? := by
  obtain ⟨host, h_host⟩ := Option.isSome_iff_exists.1 h_host
  obtain ⟨a, names, h⟩ := Url.exists_isNormal_of_parse h_parse h_host
  -- the text is a written target, of which is known what the scan finds
  rw [Url.text, String.toList_ofList, ← h.chars_written, WrittenTarget.portAsWritten?_chars,
    h.port?_written]
  cases u.port? with
  | none => rfl
  | some p =>
    have h_p : p.toNat ≤ 65535 := Nat.le_of_lt_succ p.toNat_lt
    simp [h_p]

/-- **The text of an address is as good as the address**, where it is read as that address. -/
theorem parse_text_iff {text : String} {u : Url} (h_parse : Url.parse text = .ok u)
    (h_host : u.host?.isSome = true) :
    Target.parse u.text = .ok (ofUrl u) ↔ Url.parse u.text = .ok u := by
  unfold Target.parse
  constructor
  · intro h_target
    obtain ⟨v, h_v, h_target⟩ := bind_eq_ok.1 h_target
    have h_url : v = u := congrArg Target.url (Except.ok.inj h_target)
    rw [h_url] at h_v
    exact h_v
  · intro h_again
    have h_or : ∀ port : Option UInt16, (port <|> port) = port := by
      rintro (_ | p) <;> rfl
    refine bind_eq_ok.2 ⟨u, h_again, ?_⟩
    rw [portAsWritten?_text h_parse h_host, h_or]
    rfl

/-- The text of an address is as good as the address. Only where it may be misread it has to be known
that it is not. -/
theorem parse_text {text : String} {u : Url} (h_parse : Url.parse text = .ok u)
    (h_host : u.host?.isSome = true) (h_again : u.MayBeMisread → Url.parse u.text = .ok u) :
    Target.parse u.text = .ok (ofUrl u) := by
  rw [parse_text_iff h_parse h_host]
  by_cases h_misread : u.MayBeMisread
  · exact h_again h_misread
  · exact parse_text_of_parse h_parse h_host h_misread

/-- **The two ways to make a target agree** on the text of an address with a host: the text is
accepted, and the target has the same address, port and text as the one made from the address, so no
selector can tell the two apart. -/
theorem two_ways_agree {text : String} {u : Url} (h_parse : Url.parse text = .ok u)
    (h_host : u.host?.isSome = true) (h_again : u.MayBeMisread → Url.parse u.text = .ok u) :
    ∃ t, Target.parse u.text = .ok t ∧ t = ofUrl u ∧ t.isSame (ofUrl u) = true ∧
      t.url = u ∧ t.port = u.port? ∧ portAsWritten? u.text.toList = u.port? ∧ t.written = u.text ∧
      ∀ {K : Type} (selector : Selector K) (call : Call),
        selector { call with target := t } = selector { call with target := ofUrl u } := by
  refine ⟨ofUrl u, parse_text h_parse h_host h_again, rfl, ?_, rfl, rfl,
    portAsWritten?_text h_parse h_host, rfl, fun selector call => rfl⟩
  simp [isSame]

/-- An address without a port, in which every part but the host looks as if it had one. -/
def decoy : Url where
  scheme := "http"
  authority := some
    { credentials := ⟨"us%40er", "p%3Aw"⟩, host := some (.ipv6 ⟨#v[0, 0, 0, 0, 0, 0, 0, 1]⟩) }
  path := .segments ["b:82"]
  query := some "x=tcp://h:9000"
  fragment := some "@c:83"

/-- A text with the default port, with marks in the credentials, and with dots in the path. -/
theorem two_ways_agree_decoy :
    Url.parse " HTTP://us@er:p:w@[0:0::1]:80/./a:81/../b:82?x=tcp://h:9000#@c:83\n" = .ok decoy ∧
      decoy.host?.isSome = true ∧ ¬ decoy.MayBeMisread ∧ Url.parse decoy.text = .ok decoy ∧
      decoy.text = "http://us%40er:p%3Aw@[::1]/b:82?x=tcp://h:9000#@c:83" ∧
      (ofUrl decoy).port = none ∧
      ∃ t, Target.parse decoy.text = .ok t ∧ t = ofUrl decoy := by
  have h_parse :
      Url.parse " HTTP://us@er:p:w@[0:0::1]:80/./a:81/../b:82?x=tcp://h:9000#@c:83\n" = .ok decoy :=
    rfl
  have h_again : Url.parse decoy.text = .ok decoy := rfl
  have h_clear : ¬ decoy.MayBeMisread := by
    rintro (⟨h_kind, -, -⟩ | ⟨h_host, -, -⟩)
    · cases h_kind
    · cases h_host
  obtain ⟨t, h_t, h_eq, -⟩ := two_ways_agree h_parse rfl fun _ => h_again
  exact ⟨h_parse, rfl, h_clear, h_again, rfl, rfl, t, h_t, h_eq⟩

end Target

end KeyedBreakers
