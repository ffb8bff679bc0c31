import KeyedBreakers.Key.Selector
import KeyedBreakers.Proofs.Call.PortScan
import KeyedBreakers.Proofs.Key.Partition

/-!
# Ignored characters and the key of a target

Padding around a text, and tabs and line breaks in it, are ignored in addresses. A target that is
made from what is left without them has the same address and the same host. Its port is the same too
where the address has one of its own; otherwise the port comes from the scan, which ignores nothing.
The scan of the text and the scan of what is left agree if they start at the same `://` and if
nothing that is ignored stands behind the host, where the scan reads the port. Then the keys are the
same, and where there is none, so is the reason, but for the text of the target that an error tells.

* `Target.Undisturbed` — nothing that is ignored stands in the way of the scan;
* `Target.portAsWritten?_significant` — the two scans agree;
* `Selector.toldOf` — an error, told of a target with another text;
* `Target.ignored_characters_keep_key` — the main theorem;
* `Target.line_break_drops_port` — a line break that changes the key.
-/

namespace KeyedBreakers

open KeyedBreakers.Text KeyedBreakers.Url

namespace Target

/-! ### The two scans -/

/-- Nothing that is ignored stands in the way of the scan: a `://` that is left when ignored
characters are dropped has been in the text, and behind the host there is no padding. -/
def Undisturbed (text : List Char) : Prop :=
  ∀ found ∈ cutAtText? [':', '/', '/'] (significant text),
    ∃ cut ∈ cutAtText? [':', '/', '/'] text, found.1 = stripStart cut.1 ∧
      (behindHost (afterCredentials (scanned cut.2))).any isPadding = false

instance (text : List Char) : Decidable (Undisturbed text) :=
  inferInstanceAs (Decidable (∀ found ∈ _, _))

/-- **The scan of a text and the scan of what is left of it agree** if nothing that is ignored
stands in the way. -/
theorem portAsWritten?_significant {text : List Char} (h : Undisturbed text) :
    portAsWritten? (significant text) = portAsWritten? text := by
  rw [portAsWritten?_eq_bind, portAsWritten?_eq_bind]
  cases h_found : cutAtText? [':', '/', '/'] (significant text) with
  | none =>
    -- a mark in the text would have been left
    cases h_cut : cutAtText? [':', '/', '/'] text with
    | none => rfl
    | some cut =>
      have h_some := cutAtText?_isSome_append [':', '/', '/'] (stripStart cut.1) (stripEnd cut.2)
      rw [← significant_of_cut h_cut, h_found] at h_some
      cases h_some
  | some found =>
    obtain ⟨cut, h_cut, h_start, h_free⟩ := h found h_found
    -- what is left behind the mark is the stripped rest
    have h_rest : found.2 = stripEnd cut.2 := by
      have h_left := eq_of_cutAtText? h_found
      rw [significant_of_cut h_cut, h_start, List.append_cancel_left_eq] at h_left
      exact h_left.symm
    obtain ⟨g, h_g, h_scanned⟩ := scanned_stripEnd cut.2
    rw [h_cut, Option.bind_some, Option.bind_some, h_rest, h_scanned]
    refine portIn?_strips h_g fun c h_c => ?_
    exact Bool.eq_false_iff.2 (List.any_eq_false.1 h_free c h_c)

end Target

/-! ### Keys -/

namespace Selector

/-- The reason for which a call has no key, told of a target that is made from the given text. -/
def toldOf (written : String) : KeyError → KeyError
  | .missingHost _ => .missingHost written
  | .missingOperation => .missingOperation
  | .custom cause => .custom cause

variable {call : Call} {t : Target}

/-- Targets with one host and one port have one key. -/
theorem byTarget_of_same (h_host : t.host? = call.target.host?)
    (h_port : t.port = call.target.port) :
    byTarget { call with target := t } = (byTarget call).mapError (toldOf t.written) := by
  unfold byTarget
  dsimp only
  rw [h_host, h_port]
  cases call.target.host? with
  | none => rfl
  | some host => rfl

theorem byTargetAndOperation_of_same (h_host : t.host? = call.target.host?)
    (h_port : t.port = call.target.port) :
    byTargetAndOperation { call with target := t } =
      (byTargetAndOperation call).mapError (toldOf t.written) := by
  unfold byTargetAndOperation
  rw [byTarget_of_same h_host h_port]
  cases byTarget call with
  | error cause => rfl
  | ok target =>
    unfold byOperation
    dsimp only
    by_cases h_operation : call.operation = ""
    · rw [if_pos h_operation]
      rfl
    · rw [if_neg h_operation]
      rfl

end Selector

namespace Target

/-! ### The main theorem -/

/-- **Ignored characters do not change the key.** What is left of the text of a target without them
makes a target with the same address and the same host. If the address has a port of its own, or
nothing that is ignored stands in the way of the scan, the port is the same as well, and the
selectors by target give the same answer for both, but for the text of the target in an error. -/
theorem ignored_characters_keep_key {text : String} {t : Target}
    (h_parse : Target.parse text = .ok t) :
    ∃ t', Target.parse (String.ofList (significant text.toList)) = .ok t' ∧ t'.url = t.url ∧
      t'.host? = t.host? ∧
      ((t.url.port? = none → Undisturbed text.toList) → t'.port = t.port ∧
        ∀ call : Call, call.target = t →
          Selector.byTarget { call with target := t' } =
            (Selector.byTarget call).mapError (Selector.toldOf t'.written) ∧
          Selector.byTargetAndOperation { call with target := t' } =
            (Selector.byTargetAndOperation call).mapError (Selector.toldOf t'.written)) := by
  obtain ⟨url, h_url, rfl⟩ := Target.parse_eq_ok h_parse
  have h_parse' : Target.parse (String.ofList (significant text.toList)) = .ok ⟨url,
      url.port? <|> portAsWritten? (significant text.toList),
      String.ofList (significant text.toList)⟩ := by
    unfold Target.parse
    rw [Url.parse_significant, h_url, String.toList_ofList]
    rfl
  refine ⟨_, h_parse', rfl, rfl, fun h_scan => ?_⟩
  have h_port : (url.port? <|> portAsWritten? (significant text.toList)) =
      (url.port? <|> portAsWritten? text.toList) := by
    cases h_url_port : url.port? with
    | some p => rfl
    | none =>
      rw [portAsWritten?_significant (h_scan h_url_port)]
  refine ⟨h_port, fun call h_target => ?_⟩
  have h_same : (⟨url, url.port? <|> portAsWritten? (significant text.toList),
      String.ofList (significant text.toList)⟩ : Target).port = call.target.port := by
    rw [h_target]
    exact h_port
  exact ⟨Selector.byTarget_of_same (by rw [h_target]; rfl) h_same,
    Selector.byTargetAndOperation_of_same (by rw [h_target]; rfl) h_same⟩

/-- Padding at both ends, a tab in the scheme and line breaks in the credentials and in the path. -/
theorem ignored_characters_keep_key_ragged :
    ∃ t t', Target.parse " ht\ttp://u\n@[::1]:80/a\r\nb\n" = .ok t ∧
      String.ofList (significant " ht\ttp://u\n@[::1]:80/a\r\nb\n".toList)
        = "http://u@[::1]:80/ab" ∧
      Target.parse "http://u@[::1]:80/ab" = .ok t' ∧ t.port = some 80 ∧ t'.port = t.port := by
  have h_parse : Target.parse " ht\ttp://u\n@[::1]:80/a\r\nb\n" = .ok _ := rfl
  have h_left : String.ofList (significant " ht\ttp://u\n@[::1]:80/a\r\nb\n".toList)
      = "http://u@[::1]:80/ab" := by decide
  have h_scan : Undisturbed " ht\ttp://u\n@[::1]:80/a\r\nb\n".toList := by decide
  obtain ⟨t', h_parse', -, -, h_same⟩ := ignored_characters_keep_key h_parse
  rw [h_left] at h_parse'
  exact ⟨_, t', h_parse, h_left, h_parse', rfl, (h_same fun _ => h_scan).1⟩

/-- **A line break that changes the key.** Behind the port, at the end of the text, it is ignored in
the address, and the default port that is written is not found. -/
theorem line_break_drops_port :
    String.ofList (significant "http://[::1]:80\n".toList) = "http://[::1]:80" ∧
    ∃ t t', Target.parse "http://[::1]:80\n" = .ok t ∧ Target.parse "http://[::1]:80" = .ok t' ∧
      t'.url = t.url ∧ t.port = none ∧ t'.port = some 80 ∧
      Selector.byTarget ⟨t, {}, "put", []⟩ = .ok "[::1]" ∧
      Selector.byTarget ⟨t', {}, "put", []⟩ = .ok "[::1]:80" :=
  ⟨by decide, _, _, rfl, rfl, rfl, rfl, rfl, rfl, rfl⟩

end Target

end KeyedBreakers
