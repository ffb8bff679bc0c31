import KeyedBreakers.Proofs.Call.WrittenTarget

/-!
# What is dropped from a text

An address is read from the significant characters of a text: padding is dropped at both ends, and
tabs and line breaks everywhere. A character that is no padding stays wherever it stands, so that
every cut at such a character in the text is a cut in what is left of it.

* `stripStart`, `stripEnd` — what is left of the text in front of such a character, and behind it;
* `significant_append` — the significant characters on both sides of it;
* `Strips` — a function that drops ignored characters, and at most padding besides;
* `Url.parse_significant` — an address may as well be read from the significant characters.
-/

namespace KeyedBreakers.Url

open KeyedBreakers.Text

/-! ### Both sides of a character that stays -/

/-- What is left of a text in front of a character that stays. -/
def stripStart (cs : List Char) : List Char := (cs.dropWhile isPadding).filter (!isIgnored ·)

/-- What is left of a text behind a character that stays. -/
def stripEnd (cs : List Char) : List Char := (cs.rdropWhile isPadding).filter (!isIgnored ·)

variable {c : Char} {before rest cs : List Char}

theorem filter_cons_of_isPadding (h : isPadding c = false) (cs : List Char) :
    (c :: cs).filter (!isIgnored ·) = c :: cs.filter (!isIgnored ·) :=
  List.filter_cons_of_pos (by rw [WrittenTarget.isIgnored_of_isPadding h]; rfl)

theorem dropWhile_append_of_isPadding (h : isPadding c = false) (before rest : List Char) :
    (before ++ c :: rest).dropWhile isPadding = before.dropWhile isPadding ++ c :: rest := by
  rw [List.dropWhile_append]
  split
  · next h_empty =>
    rw [List.isEmpty_iff.1 h_empty, List.dropWhile_cons_of_neg (by simp [h]), List.nil_append]
  · rfl

theorem rdropWhile_append_of_isPadding (h : isPadding c = false) (before rest : List Char) :
    (before ++ c :: rest).rdropWhile isPadding = before ++ c :: rest.rdropWhile isPadding := by
  rw [List.append_cons, WrittenTarget.rdropWhile_append rest List.getLast?_concat h,
    List.append_assoc, List.singleton_append]

/-- **A character that stays divides the text** into what loses its start and what loses its end. -/
theorem significant_append (h : isPadding c = false) (before rest : List Char) :
    significant (before ++ c :: rest) = stripStart before ++ c :: stripEnd rest := by
  show (((before ++ c :: rest).dropWhile isPadding).rdropWhile isPadding).filter _ = _
  rw [dropWhile_append_of_isPadding h, rdropWhile_append_of_isPadding h, List.filter_append,
    filter_cons_of_isPadding h]
  rfl

/-! ### Functions that drop padding -/

/-- A function that drops ignored characters from a text, and padding at most behind all that
stays. -/
structure Strips (g : List Char → List Char) : Prop where
  subset : ∀ cs, g cs ⊆ cs
  append : ∀ {c}, isPadding c = false → ∀ before rest,
    g (before ++ c :: rest) = before.filter (!isIgnored ·) ++ c :: g rest

theorem strips_filter : Strips (List.filter (!isIgnored ·)) where
  subset _ := List.filter_subset_self _
  append h before rest := by rw [List.filter_append, filter_cons_of_isPadding h]

theorem strips_stripEnd : Strips stripEnd where
  subset cs :=
    List.Subset.trans (List.filter_subset_self _) (List.rdropWhile_prefix isPadding cs).subset
  append h before rest := by
    rw [stripEnd, rdropWhile_append_of_isPadding h, List.filter_append, filter_cons_of_isPadding h]
    rfl

namespace Strips

variable {g : List Char → List Char}

theorem nil (h : Strips g) : g [] = [] := List.subset_nil.1 (h.subset [])

/-- Without padding nothing is dropped. -/
theorem eq_self (h : Strips g) (h_cs : ∀ c ∈ cs, isPadding c = false) : g cs = cs := by
  induction cs with
  | nil => exact h.nil
  | cons c cs ih =>
    have h_c := h_cs c List.mem_cons_self
    have h_rest := ih fun d h_d => h_cs d (List.mem_cons_of_mem c h_d)
    rw [← List.nil_append (c :: cs), h.append h_c, h_rest]
    rfl

/-- A text that ends with a character that stays keeps its end. -/
theorem eq_filter (h : Strips g) (h_last : ∀ c ∈ cs.getLast?, isPadding c = false) :
    g cs = cs.filter (!isIgnored ·) := by
  cases h_cs : cs.getLast? with
  | none =>
    rw [List.getLast?_eq_none_iff.1 h_cs, h.nil]
    rfl
  | some c =>
    obtain ⟨front, rfl⟩ := List.getLast?_eq_some_iff.1 h_cs
    have h_c := h_last c h_cs
    rw [h.append h_c, h.nil, List.filter_append, filter_cons_of_isPadding h_c]
    rfl

end Strips

/-! ### Dropping twice -/

theorem isPadding_getLast_rdropWhile (cs : List Char) :
    ∀ c ∈ (cs.rdropWhile isPadding).getLast?, isPadding c = false := by
  intro c h_c
  have h_ne : cs.rdropWhile isPadding ≠ [] := List.ne_nil_of_mem (List.mem_of_getLast? h_c)
  rw [List.getLast?_eq_some_getLast h_ne] at h_c
  obtain rfl := Option.some.inj h_c
  exact Bool.eq_false_iff.2 (List.rdropWhile_last_not isPadding cs h_ne)

theorem stripEnd_stripEnd (cs : List Char) : stripEnd (stripEnd cs) = stripEnd cs := by
  have h_last := isPadding_getLast_rdropWhile cs
  rw [stripEnd, stripEnd]
  generalize cs.rdropWhile isPadding = kept at h_last
  cases h_kept : kept.getLast? with
  | none =>
    rw [List.getLast?_eq_none_iff.1 h_kept]
    rfl
  | some c =>
    obtain ⟨front, rfl⟩ := List.getLast?_eq_some_iff.1 h_kept
    have h_c := h_last c h_kept
    rw [strips_filter.append h_c, rdropWhile_append_of_isPadding h_c, strips_filter.append h_c,
      List.filter_filter]
    simp

/-- **Nothing is dropped from what is left.** -/
theorem significant_significant (cs : List Char) :
    significant (significant cs) = significant cs := by
  have h_significant : significant cs = stripEnd (cs.dropWhile isPadding) := rfl
  cases h_cs : cs.dropWhile isPadding with
  | nil =>
    rw [h_significant, h_cs]
    rfl
  | cons c rest =>
    have h_c : isPadding c = false := by
      have h_head := List.head?_dropWhile_not isPadding cs
      rwa [h_cs] at h_head
    have h_strip : stripEnd (c :: rest) = c :: stripEnd rest := strips_stripEnd.append h_c [] rest
    have h_twice := significant_append h_c [] (stripEnd rest)
    rw [h_significant, h_cs, h_strip]
    rw [stripEnd_stripEnd] at h_twice
    exact h_twice

end KeyedBreakers.Url

namespace KeyedBreakers

open KeyedBreakers.Url

/-- **An address may as well be read from the significant characters.** -/
theorem Url.parse_significant (text : String) :
    Url.parse (String.ofList (significant text.toList)) = Url.parse text := by
  unfold Url.parse
  rw [String.toList_ofList, significant_significant]

end KeyedBreakers
