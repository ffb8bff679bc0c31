import KeyedBreakers.Call.Options
import Mathlib.Data.List.Basic
import Mathlib.Data.List.Induction

/-!
# Options are their last writes

Options are built by steps, and a later step may set again what an earlier one has set. What the
options show in the end is told here from the side of the list of steps: a thing is as the last step
that sets it says, and unset if no step sets it. Nothing else of the history is left, so options are
equal exactly if their last writes are, and a history may be changed in every way that keeps these.

One step decides what it sets and leaves all else alone; the last writes of a list change in the
same way when a step is added. That is the whole argument, made once for what is set and once for
what is not, and once for all things that can be set.

* `Step.IsLast` — a step after which nothing sets the same thing;
* `Shows`, `IsUnset` — what can be seen of a thing in the options;
* `shows_build_iff`, `isUnset_build_iff` — what is seen of options that steps have built;
* `build_eq_build_iff` — when two lists of steps build the same options;
* `BuiltByLastWrites`, `built_by_last_writes` — the main theorem.
-/

namespace KeyedBreakers.CallOptions

open KeyedBreakers.Text

/-! ### Histories -/

/-- A thing that steps set. -/
inductive Subject where
  | responseTimeout
  | attribute (name : String)
deriving DecidableEq

namespace Step

/-- The thing that a step sets. -/
def subject : Step → Subject
  | .responseTimeout _ => .responseTimeout
  | .attribute name _ => .attribute name

/-- The step is among the given ones, and no step behind it sets the same thing. -/
def IsLast (step : Step) (steps : List Step) : Prop :=
  ∃ before after, steps = before ++ step :: after ∧ ∀ later ∈ after, later.subject ≠ step.subject

theorem not_isLast_nil (step : Step) : ¬ step.IsLast [] := by
  rintro ⟨before, after, h_split, -⟩
  simp at h_split

/-- A step that is added is a last one, and the others stay so if they set something else. -/
theorem isLast_concat_iff {step other : Step} {steps : List Step} :
    other.IsLast (steps ++ [step]) ↔
      other = step ∨ other.subject ≠ step.subject ∧ other.IsLast steps := by
  constructor
  · rintro ⟨before, after, h_split, h_after⟩
    -- either nothing is behind the step, or what was added is at the end of it
    rcases List.eq_nil_or_concat' after with rfl | ⟨after, added, rfl⟩
    · exact .inl (List.append_singleton_inj.1 h_split).2.symm
    · rw [← List.cons_append, ← List.append_assoc, List.append_singleton_inj] at h_split
      obtain ⟨rfl, rfl⟩ := h_split
      have h_added := h_after step (List.mem_append_right _ (List.mem_singleton_self step))
      refine .inr ⟨h_added.symm, before, after, rfl, fun later h_later => ?_⟩
      exact h_after later (List.mem_append_left _ h_later)
  · rintro (rfl | ⟨h_ne, before, after, rfl, h_after⟩)
    · exact ⟨steps, [], rfl, List.forall_mem_nil _⟩
    · refine ⟨before, after ++ [step], by simp, fun later h_later => ?_⟩
      rcases List.mem_append.1 h_later with h_later | h_later
      · exact h_after later h_later
      · rw [List.mem_singleton.1 h_later]
        exact h_ne.symm

end Step

/-! ### What one step does -/

/-- What the step sets is as the step has set it. -/
def Shows (options : CallOptions) : Step → Prop
  | .responseTimeout duration => options.responseTimeout = some duration
  | .attribute name value => options.attribute? name = some value

/-- The thing is not set. -/
def IsUnset (options : CallOptions) : Subject → Prop
  | .responseTimeout => options.responseTimeout = none
  | .attribute name => options.attribute? name = none

variable {o o' : CallOptions} {step other x y : Step} {steps steps' : List Step}

/-- A step sets one thing and leaves all others alone. -/
theorem shows_apply_iff : (o.apply step).Shows other ↔
    other = step ∨ other.subject ≠ step.subject ∧ o.Shows other := by
  rcases step with duration | ⟨name, value⟩
  · rcases other with duration' | ⟨name', value'⟩
    · simp [Shows, Step.subject, eq_comm]
    · simp [Shows, Step.subject]
  · rcases other with duration' | ⟨name', value'⟩
    · simp [Shows, Step.subject]
    · by_cases h_name : name' = name
      · simp [Shows, Step.subject, h_name, eq_comm]
      · simp [Shows, Step.subject, h_name]

theorem isUnset_apply_iff {subject : Subject} :
    (o.apply step).IsUnset subject ↔ step.subject ≠ subject ∧ o.IsUnset subject := by
  rcases step with duration | ⟨name, value⟩
  · cases subject <;> simp [IsUnset, Step.subject]
  · rcases subject with _ | name'
    · simp [IsUnset, Step.subject]
    · by_cases h_name : name' = name
      · simp [IsUnset, Step.subject, h_name]
      · simp [IsUnset, Step.subject, h_name, Ne.symm h_name]

theorem not_shows_default (step : Step) : ¬ Shows {} step := by
  cases step <;> exact nofun

theorem isUnset_default (subject : Subject) : IsUnset {} subject := by
  cases subject <;> rfl

/-- Options are all that they show. -/
theorem eq_of_shows (h : ∀ step, o.Shows step ↔ o'.Shows step) : o = o' := by
  have h_timeout : o.responseTimeout = o'.responseTimeout :=
    Option.ext fun duration => h (.responseTimeout duration)
  have h_attributes : o.attributes = o'.attributes :=
    Directory.eq_of_find?_eq fun name => Option.ext fun value => h (.attribute name value)
  cases o
  cases o'
  cases h_timeout
  cases h_attributes
  rfl

/-- Steps that set different things can be taken in either order. -/
theorem apply_comm (h : x.subject ≠ y.subject) (o : CallOptions) :
    (o.apply x).apply y = (o.apply y).apply x := by
  rcases x with duration | ⟨name, value⟩
  · rcases y with duration' | ⟨name', value'⟩
    · exact absurd rfl h
    · rfl
  · rcases y with duration' | ⟨name', value'⟩
    · rfl
    · have h_name : name ≠ name' := fun h_eq => h (congrArg Subject.attribute h_eq)
      exact congrArg (CallOptions.mk o.responseTimeout)
        (o.attributes.insert_comm h_name value value')

/-- Nothing is left of a step if the next one sets the same thing. -/
theorem apply_apply_of_subject_eq (h : y.subject = x.subject) (o : CallOptions) :
    (o.apply x).apply y = o.apply y := by
  rcases x with duration | ⟨name, value⟩
  · rcases y with duration' | ⟨name', value'⟩
    · rfl
    · cases h
  · rcases y with duration' | ⟨name', value'⟩
    · cases h
    · cases h
      exact congrArg (CallOptions.mk o.responseTimeout)
        (o.attributes.insert_insert_self name value value')

/-! ### What a list of steps does -/

theorem build_concat (steps : List Step) (step : Step) :
    build (steps ++ [step]) = (build steps).apply step :=
  List.foldl_concat ..

/-- **What is shown is what was written last.** -/
theorem shows_build_iff (steps : List Step) (step : Step) :
    (build steps).Shows step ↔ step.IsLast steps := by
  induction steps using List.reverseRecOn with
  | nil => exact iff_of_false (not_shows_default step) step.not_isLast_nil
  | append_singleton steps added ih =>
    rw [build_concat, shows_apply_iff, Step.isLast_concat_iff, ih]

/-- **What is unset was never written.** -/
theorem isUnset_build_iff (steps : List Step) (subject : Subject) :
    (build steps).IsUnset subject ↔ ∀ step ∈ steps, step.subject ≠ subject := by
  induction steps using List.reverseRecOn with
  | nil => exact iff_of_true (isUnset_default subject) (List.forall_mem_nil _)
  | append_singleton steps added ih =>
    rw [build_concat, isUnset_apply_iff, List.forall_mem_append, List.forall_mem_singleton, ih,
      and_comm]

/-- **Histories with the same last writes build the same options**, and no others do. -/
theorem build_eq_build_iff :
    build steps = build steps' ↔ ∀ step : Step, step.IsLast steps ↔ step.IsLast steps' := by
  simp only [← shows_build_iff]
  constructor
  · intro h step
    rw [h]
  · exact eq_of_shows

/-- A step is lost among later ones if one of them sets the same thing: it can be moved past the
others up to that one. -/
theorem foldl_apply_of_overwritten (h : ∃ y ∈ steps, y.subject = x.subject) (o : CallOptions) :
    steps.foldl apply (o.apply x) = steps.foldl apply o := by
  induction steps generalizing o with
  | nil => simp at h
  | cons y steps ih =>
    rw [List.foldl_cons, List.foldl_cons]
    by_cases h_y : y.subject = x.subject
    -- the next step is the one that overwrites
    · rw [apply_apply_of_subject_eq h_y]
    -- or it sets something else, and the lost step can wait until after it
    · have h_later : ∃ z ∈ steps, z.subject = x.subject := by
        obtain ⟨z, h_z, h_subject⟩ := h
        rcases List.mem_cons.1 h_z with rfl | h_z
        · exact absurd h_subject h_y
        · exact ⟨z, h_z, h_subject⟩
      rw [apply_comm (Ne.symm h_y), ih h_later]

/-! ### The main theorem -/

/-- **Options are exactly their last writes.** -/
structure BuiltByLastWrites : Prop where
  /-- An attribute has the value that the last step for its name has given it. -/
  value : ∀ steps name value,
    (build steps).attribute? name = some value ↔ (Step.attribute name value).IsLast steps
  /-- It has none if no step is for its name. -/
  value_none : ∀ steps name,
    (build steps).attribute? name = none ↔ ∀ step ∈ steps, step.subject ≠ .attribute name
  /-- The timeout is that of the last step that sets it. -/
  timeout : ∀ steps duration,
    (build steps).responseTimeout = some duration ↔ (Step.responseTimeout duration).IsLast steps
  /-- There is none if no step sets it. -/
  timeout_none : ∀ steps,
    (build steps).responseTimeout = none ↔ ∀ step ∈ steps, step.subject ≠ .responseTimeout
  /-- Options are equal if they have the same last timeout and, for every name, the same last value,
  and not otherwise. -/
  eq_iff : ∀ steps steps', build steps = build steps' ↔
    (∀ duration, (Step.responseTimeout duration).IsLast steps ↔
      (Step.responseTimeout duration).IsLast steps') ∧
    ∀ name value, (Step.attribute name value).IsLast steps ↔
      (Step.attribute name value).IsLast steps'
  /-- Neighbours that set different things can be swapped. -/
  swap : ∀ before x y after, x.subject ≠ y.subject →
    build (before ++ x :: y :: after) = build (before ++ y :: x :: after)
  /-- A step can be left out if a later one sets the same thing. -/
  overwritten : ∀ before x between y after, y.subject = x.subject →
    build (before ++ x :: (between ++ y :: after)) = build (before ++ (between ++ y :: after))
  /-- Only the empty history builds the default options. -/
  default_iff : ∀ steps, build steps = {} ↔ steps = []

theorem built_by_last_writes : BuiltByLastWrites where
  value steps name value := shows_build_iff steps (.attribute name value)
  value_none steps name := isUnset_build_iff steps (.attribute name)
  timeout steps duration := shows_build_iff steps (.responseTimeout duration)
  timeout_none steps := isUnset_build_iff steps .responseTimeout
  eq_iff steps steps' := by
    rw [build_eq_build_iff]
    constructor
    · exact fun h => ⟨fun duration => h _, fun name value => h _⟩
    · rintro ⟨h_timeout, h_attribute⟩ (duration | ⟨name, value⟩)
      · exact h_timeout duration
      · exact h_attribute name value
  swap before x y after h := by
    unfold build
    rw [List.foldl_append, List.foldl_append]
    simp only [List.foldl_cons]
    rw [apply_comm h]
  overwritten before x between y after h := by
    have h_later : ∃ z ∈ between ++ y :: after, z.subject = x.subject :=
      ⟨y, List.mem_append_right _ List.mem_cons_self, h⟩
    calc build (before ++ x :: (between ++ y :: after))
        = (between ++ y :: after).foldl apply ((build before).apply x) := List.foldl_append ..
      _ = (between ++ y :: after).foldl apply (build before) :=
          foldl_apply_of_overwritten h_later _
      _ = build (before ++ (between ++ y :: after)) := (List.foldl_append ..).symm
  default_iff steps := by
    refine ⟨fun h => ?_, fun h => by rw [h]; rfl⟩
    -- every step would have left its mark
    have h_unset : ∀ subject, ∀ step ∈ steps, step.subject ≠ subject := by
      intro subject
      rw [← isUnset_build_iff, h]
      exact isUnset_default subject
    exact List.eq_nil_iff_forall_not_mem.2 fun step h_step => h_unset step.subject step h_step rfl

/-- A tenant that is named twice, with a timeout in between. -/
theorem built_by_last_writes_tenants :
    (Step.timeout 3000).subject ≠ (Step.attribute "tenant" "globex").subject ∧
      build [.attribute "tenant" "acme", .timeout 3000, .attribute "tenant" "globex"]
        = build [.attribute "tenant" "acme", .attribute "tenant" "globex", .timeout 3000] ∧
      (Step.attribute "tenant" "globex").subject = (Step.attribute "tenant" "acme").subject ∧
      build [.attribute "tenant" "acme", .timeout 3000, .attribute "tenant" "globex"]
        = build [.timeout 3000, .attribute "tenant" "globex"] := by
  have h_apart : (Step.timeout 3000).subject ≠ (Step.attribute "tenant" "globex").subject := nofun
  have h_same : (Step.attribute "tenant" "globex").subject
      = (Step.attribute "tenant" "acme").subject := rfl
  exact ⟨h_apart, built_by_last_writes.swap [_] _ _ [] h_apart, h_same,
    built_by_last_writes.overwritten [] _ [_] _ [] h_same⟩

end KeyedBreakers.CallOptions
