import KeyedBreakers.Toml.Document
import Mathlib.Data.List.Basic
import Mathlib.Data.List.Nodup

/-!
# Names in a document

A document is built by adding to its root, one section after another. What is added goes under a
name that the root has not, or into what it has under one already; a table that only was implied
moves to the end, and is not left behind. So the root never has a name twice, and what stands under
a name in it can be spoken of.

* `Entries.Distinct` — no name stands twice;
* `Entries.Distinct.of_modify` — what every addition has in common;
* `distinct_of_parse?` — the root of a document.
-/

namespace KeyedBreakers.Toml

/-- No name stands twice. -/
def Entries.Distinct (es : Entries) : Prop :=
  (es.map (·.1)).Nodup

section Distinct

variable {es es' : Entries} {path : List String} {name : String}
  {fill : Entries → Option Entries}

/-! ### Changes to the entries of a table -/

theorem Entries.notMem_of_find? (h : es.find? name = none) : name ∉ es.map (·.1) := by
  intro h_mem
  obtain ⟨entry, h_entry, rfl⟩ := List.mem_map.1 h_mem
  have h_ne := List.lookup_eq_none_iff.1 h entry h_entry
  simp at h_ne

namespace Entries.Distinct

/-- An entry with a new name. -/
theorem push (h : es.Distinct) (h_new : name ∉ es.map (·.1)) (value : Toml) :
    Distinct (es ++ [(name, value)]) := by
  show ((es ++ [(name, value)]).map (·.1)).Nodup
  rw [List.map_append]
  exact List.Nodup.append h (List.nodup_singleton name) (List.disjoint_singleton.2 h_new)

/-- Another value under a name. -/
theorem replace (h : es.Distinct) (name : String) (value : Toml) :
    (es.replace name value).Distinct := by
  have h_names : (es.replace name value).map (·.1) = es.map (·.1) := by
    rw [Entries.replace, List.map_map]
    refine List.map_congr_left fun e _ => ?_
    show (if e.1 = name then (name, value) else e).1 = e.1
    split
    · next h_eq => exact h_eq.symm
    · rfl
  show ((es.replace name value).map (·.1)).Nodup
  rw [h_names]
  exact h

/-- Another value under a name, at the end. -/
theorem move (h : es.Distinct) (name : String) (value : Toml) :
    Distinct (es.without name ++ [(name, value)]) := by
  refine push (h.sublist (List.filter_sublist.map _)) ?_ value
  intro h_mem
  obtain ⟨entry, h_entry, h_name⟩ := List.mem_map.1 h_mem
  have h_other := (List.mem_filter.1 h_entry).2
  exact of_decide_eq_true h_other h_name

/-! ### Additions to a document -/

/-- At the end of a path anything may happen that keeps names distinct. On the way there a table is
only put under a new name, or in the place of the one that was entered. -/
theorem of_modify {made origin : Origin} {change : Origin → Entries → Option Entries}
    (h_change : ∀ {origin es es'}, Distinct es → change origin es = some es' → Distinct es')
    (h : es.Distinct) (h_modify : modify made change path origin es = some es') :
    es'.Distinct := by
  cases path with
  | nil => exact h_change h h_modify
  | cons name path =>
    rw [modify] at h_modify
    split at h_modify
    -- a table that is missing is made
    · next h_none =>
      obtain ⟨inner, -, h_eq⟩ := Option.bind_eq_some_iff.1 h_modify
      cases h_eq
      exact h.push (notMem_of_find? h_none) _
    -- a table is entered if it is open
    · split at h_modify
      · cases h_modify
      · obtain ⟨inner, -, h_eq⟩ := Option.bind_eq_some_iff.1 h_modify
        cases h_eq
        exact h.replace name _
    -- of a list of tables the last is entered
    · obtain ⟨last, -, h_rest⟩ := Option.bind_eq_some_iff.1 h_modify
      obtain ⟨inner, -, h_eq⟩ := Option.bind_eq_some_iff.1 h_rest
      cases h_eq
      exact h.replace name _
    -- no other value can be entered
    · cases h_modify

theorem of_add? {value : Toml} (h : es.Distinct) (h_add : add? path name value es = some es') :
    es'.Distinct := by
  refine of_modify ?_ h h_add
  intro origin inner inner' h_inner h_change
  split at h_change
  · cases h_change
  · next h_free =>
    -- of the two things that were ruled out, the second is that the name is taken
    cases h_change
    rw [not_or, Bool.not_eq_true, Option.isSome_eq_false_iff, Option.isNone_iff_eq_none] at h_free
    exact h_inner.push (notMem_of_find? h_free.2) value

theorem of_open? (h : es.Distinct) (h_open : open? path name fill es = some es') :
    es'.Distinct := by
  refine of_modify ?_ h h_open
  intro origin parent parent' h_parent h_change
  split at h_change
  · next h_none =>
    obtain ⟨inner, -, h_eq⟩ := Option.bind_eq_some_iff.1 h_change
    cases h_eq
    exact h_parent.push (notMem_of_find? h_none) _
  · obtain ⟨inner, -, h_eq⟩ := Option.bind_eq_some_iff.1 h_change
    cases h_eq
    exact h_parent.move name _
  · cases h_change

theorem of_openElement? (h : es.Distinct) (h_open : openElement? path name fill es = some es') :
    es'.Distinct := by
  refine of_modify ?_ h h_open
  intro origin parent parent' h_parent h_change
  split at h_change
  · next h_none =>
    obtain ⟨inner, -, h_eq⟩ := Option.bind_eq_some_iff.1 h_change
    cases h_eq
    exact h_parent.push (notMem_of_find? h_none) _
  · obtain ⟨inner, -, h_eq⟩ := Option.bind_eq_some_iff.1 h_change
    cases h_eq
    exact h_parent.replace name _
  · cases h_change

/-- What each step of a fold keeps, the fold keeps. -/
theorem of_foldlM {α : Type} {add : Entries → α → Option Entries}
    (h_add : ∀ {es a es'}, Distinct es → add es a = some es' → Distinct es') {as : List α}
    (h : es.Distinct) (h_fold : as.foldlM add es = some es') : es'.Distinct := by
  induction as generalizing es with
  | nil =>
    cases h_fold
    exact h
  | cons a as ih =>
    rw [List.foldlM_cons] at h_fold
    obtain ⟨es₁, h_a, h_as⟩ := Option.bind_eq_some_iff.1 h_fold
    exact ih (h_add h h_a) h_as

theorem of_addSection? {s : Section} (h : es.Distinct) (h_section : addSection? es s = some es') :
    es'.Distinct := by
  rw [addSection?] at h_section
  split at h_section
  · exact of_foldlM (fun h_es h_add => h_es.of_add? h_add) h h_section
  · exact h.of_open? h_section
  · exact h.of_openElement? h_section

end Entries.Distinct

/-- **The root of a document has no name twice.** -/
theorem distinct_of_parse? {text : String} {root : Entries} (h : parse? text = some root) :
    root.Distinct := by
  have h_empty : Entries.Distinct [] := List.nodup_nil
  obtain ⟨sections, -, h_fold⟩ := Option.bind_eq_some_iff.1 h
  exact Entries.Distinct.of_foldlM (fun h_es h_section => h_es.of_addSection? h_section)
    h_empty h_fold

end Distinct

end KeyedBreakers.Toml
