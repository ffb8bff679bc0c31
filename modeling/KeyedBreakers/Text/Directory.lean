/-!
# Directories: maps from text

A finite map whose keys are texts, kept in ascending order of its keys with each key once. The order
is that of the code points, which is also the order of the bytes. Since a map has one such list, two
directories are equal exactly when they map the same keys to the same values, whatever the order and
number of the insertions that made them.

* `insert` — sets the value of a key, replacing the old one;
* `find?` — the value of a key;
* `find?_insert`, `find?_ofList` — the last value set is the value found, and other keys keep theirs;
* `mem_toList_iff`, `eq_of_mem_iff` — the list has what is found, and is the only one in order that
  has it;
* `eq_of_find?_eq`, `insert_comm`, `insert_insert_self` — what is found is all there is to a
  directory, so neither the order of insertions shows nor what was replaced.
-/

namespace KeyedBreakers.Text

/-- A map from texts to values, with the keys in ascending order. -/
structure Directory (α : Type) where
  entries : List (String × α)
  ascending : entries.Pairwise (fun a b => a.1 < b.1)

namespace Directory

variable {α : Type}

/-- Puts the value of a key into an ascending list, in place of an older one. -/
def insertEntry (key : String) (value : α) : List (String × α) → List (String × α)
  | [] => [(key, value)]
  | (k, v) :: rest =>
    if key < k then (key, value) :: (k, v) :: rest
    else if key = k then (key, value) :: rest
    else (k, v) :: insertEntry key value rest

theorem mem_of_mem_insertEntry {key : String} {value : α} {es : List (String × α)}
    {e : String × α} (h : e ∈ insertEntry key value es) : e = (key, value) ∨ e ∈ es := by
  induction es with
  | nil => simpa [insertEntry] using h
  | cons hd tl ih =>
    obtain ⟨k, v⟩ := hd
    rw [insertEntry] at h
    split at h
    · simpa using h
    · split at h
      · rcases List.mem_cons.1 h with h | h
        · exact Or.inl h
        · exact Or.inr (List.mem_cons_of_mem _ h)
      · rcases List.mem_cons.1 h with h | h
        · exact Or.inr (by simp [h])
        · exact (ih h).imp id (List.mem_cons_of_mem _)

theorem ascending_insertEntry (key : String) (value : α) {es : List (String × α)}
    (h : es.Pairwise (fun a b => a.1 < b.1)) :
    (insertEntry key value es).Pairwise (fun a b => a.1 < b.1) := by
  induction es with
  | nil => simp [insertEntry]
  | cons hd tl ih =>
    obtain ⟨k, v⟩ := hd
    obtain ⟨hk, ht⟩ := List.pairwise_cons.1 h
    rw [insertEntry]
    split
    · next hlt =>
      refine List.pairwise_cons.2 ⟨fun e he => ?_, h⟩
      rcases List.mem_cons.1 he with rfl | he
      · exact hlt
      · exact String.lt_trans hlt (hk e he)
    · next hge =>
      split
      · next heq => exact List.pairwise_cons.2 ⟨fun e he => heq ▸ hk e he, ht⟩
      · next hne =>
        refine List.pairwise_cons.2 ⟨fun e he => ?_, ih ht⟩
        rcases mem_of_mem_insertEntry he with rfl | he
        · have hle : k ≤ key := String.not_lt.1 hge
          rcases Decidable.em (k < key) with hlt | hnlt
          · exact hlt
          · exact absurd (String.le_antisymm (String.not_lt.1 hnlt) hle) hne
        · exact hk e he

/-- The directory without keys. -/
def empty : Directory α := ⟨[], List.Pairwise.nil⟩

instance : EmptyCollection (Directory α) := ⟨empty⟩

instance : Inhabited (Directory α) := ⟨empty⟩

/-- The directory in which `key` has the given value and all other keys are as before. -/
def insert (d : Directory α) (key : String) (value : α) : Directory α :=
  ⟨insertEntry key value d.entries, ascending_insertEntry key value d.ascending⟩

/-- The value of a key. -/
def find? (d : Directory α) (key : String) : Option α :=
  d.entries.lookup key

/-- The directory made by setting the entries of a list one after another. -/
def ofList (es : List (String × α)) : Directory α :=
  es.foldl (fun d e => d.insert e.1 e.2) empty

/-- The entries in ascending order of their keys. -/
def toList (d : Directory α) : List (String × α) := d.entries

instance [DecidableEq α] : DecidableEq (Directory α) := fun a b =>
  if h : a.entries = b.entries then isTrue (by cases a; cases b; cases h; rfl)
  else isFalse (fun e => h (e ▸ rfl))

/-! ### What is found -/

@[simp] theorem find?_empty (key : String) : (empty : Directory α).find? key = none := rfl

theorem lookup_cons_eq_ite (k key : String) (value : α) (es : List (String × α)) :
    ((key, value) :: es).lookup k = if k = key then some value else es.lookup k := by
  rw [List.lookup_cons]
  by_cases h : k = key
  · simp [h]
  · rw [beq_false_of_ne h, if_neg h]

theorem lookup_insertEntry (key k : String) (value : α) (es : List (String × α)) :
    (insertEntry key value es).lookup k = if k = key then some value else es.lookup k := by
  induction es with
  | nil => exact lookup_cons_eq_ite k key value []
  | cons hd tl ih =>
    obtain ⟨k', v'⟩ := hd
    rw [insertEntry]
    split
    · exact lookup_cons_eq_ite k key value _
    · split
      · next heq =>
        subst heq
        simp only [lookup_cons_eq_ite]
        split <;> rfl
      · next hne =>
        simp only [lookup_cons_eq_ite, ih]
        by_cases hk : k = k'
        · simp [hk, Ne.symm hne]
        · simp [hk]

/-- The value set last is the value found; other keys keep theirs. -/
@[simp] theorem find?_insert (d : Directory α) (key k : String) (value : α) :
    (d.insert key value).find? k = if k = key then some value else d.find? k :=
  lookup_insertEntry key k value d.entries

/-- Of the values that a list has for a key, the last one is found. -/
theorem find?_ofList (es : List (String × α)) (key : String) :
    (ofList es).find? key = es.reverse.lookup key := by
  have h_from : ∀ (es : List (String × α)) (d : Directory α),
      (es.foldl (fun d e => d.insert e.1 e.2) d).find? key
        = (es.reverse.lookup key).or (d.find? key) := by
    intro es
    induction es with
    | nil => exact fun d => rfl
    | cons e es ih =>
      intro d
      rw [List.foldl_cons, ih, find?_insert, List.reverse_cons, List.lookup_append,
        lookup_cons_eq_ite, List.lookup_nil, Option.or_assoc]
      split <;> rfl
  rw [ofList, h_from, find?_empty, Option.or_none]

/-! ### The list -/

/-- The list has an entry for each key that is found, and no others. -/
theorem mem_toList_iff {d : Directory α} {key : String} {value : α} :
    (key, value) ∈ d.toList ↔ d.find? key = some value := by
  obtain ⟨es, h_es⟩ := d
  show (key, value) ∈ es ↔ es.lookup key = some value
  induction es with
  | nil => simp
  | cons e es ih =>
    obtain ⟨k, v⟩ := e
    obtain ⟨h_first, h_rest⟩ := List.pairwise_cons.1 h_es
    rw [List.mem_cons, lookup_cons_eq_ite, ih h_rest]
    by_cases h : key = k
    · subst h
      -- the key does not occur again
      have h_once : es.lookup key ≠ some value := fun h_found =>
        String.lt_irrefl key (h_first _ ((ih h_rest).2 h_found))
      rw [if_pos rfl]
      simp [h_once, eq_comm]
    · rw [if_neg h]
      simp [h]

/-- Lists in order are the same if they have the same entries. -/
theorem eq_of_mem_iff {es es' : List (String × α)} (h_es : es.Pairwise fun a b => a.1 < b.1)
    (h_es' : es'.Pairwise fun a b => a.1 < b.1) (h_mem : ∀ e, e ∈ es ↔ e ∈ es') : es = es' := by
  have h_nodup : ∀ {es : List (String × α)}, es.Pairwise (fun a b => a.1 < b.1) → es.Nodup := by
    intro es h
    refine h.imp fun {a b} (h_lt : a.1 < b.1) h_eq => ?_
    rw [h_eq] at h_lt
    exact String.lt_irrefl _ h_lt
  refine List.Perm.eq_of_pairwise ?_ h_es h_es'
    ((List.perm_ext_iff_of_nodup (h_nodup h_es) (h_nodup h_es')).2 h_mem)
  intro a b _ _ h_lt h_gt
  exact absurd h_gt (String.lt_asymm h_lt)

/-! ### Equal directories -/

/-- Directories in which the same is found are the same. -/
theorem eq_of_find?_eq {d d' : Directory α} (h : ∀ key, d.find? key = d'.find? key) : d = d' := by
  have h_mem : ∀ e, e ∈ d.entries ↔ e ∈ d'.entries := by
    rintro ⟨key, value⟩
    calc (key, value) ∈ d.toList
      _ ↔ d.find? key = some value := mem_toList_iff
      _ ↔ d'.find? key = some value := by rw [h key]
      _ ↔ (key, value) ∈ d'.toList := mem_toList_iff.symm
  obtain ⟨es, h_es⟩ := d
  obtain ⟨es', h_es'⟩ := d'
  obtain rfl : es = es' := eq_of_mem_iff h_es h_es' h_mem
  rfl

/-- Two keys can be set in either order. -/
theorem insert_comm (d : Directory α) {key key' : String} (h : key ≠ key') (value value' : α) :
    (d.insert key value).insert key' value' = (d.insert key' value').insert key value := by
  refine eq_of_find?_eq fun k => ?_
  simp only [find?_insert]
  by_cases h_k : k = key
  · have h_ne : k ≠ key' := h_k ▸ h
    rw [if_neg h_ne, if_pos h_k, if_pos h_k]
  · rw [if_neg h_k, if_neg h_k]

/-- Nothing is left of a value that is replaced. -/
theorem insert_insert_self (d : Directory α) (key : String) (value value' : α) :
    (d.insert key value).insert key value' = d.insert key value' := by
  refine eq_of_find?_eq fun k => ?_
  simp only [find?_insert]
  split <;> rfl

end Directory

end KeyedBreakers.Text
