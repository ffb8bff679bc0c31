/-!
# Cutting text at characters

Text is cut at the first, the last or every occurrence of a mark. Each cut says what it loses: the
mark itself and nothing else, so joining the parts around the mark gives the text back.

* `cutFirst?`, `cutLast?` — the parts before and after the first or last mark;
* `cutAtText?` — the parts around the first occurrence of a whole text;
* `pieces` — all parts between marks; text without the mark is one piece;
* `joinWith` — the inverse: pieces with the mark between them.
-/

namespace KeyedBreakers.Text

/-- The parts before and after the first `mark`. -/
def cutFirst? (mark : Char) : List Char → Option (List Char × List Char)
  | [] => none
  | c :: cs =>
    if c = mark then some ([], cs)
    else (cutFirst? mark cs).map fun (before, after) => (c :: before, after)

/-- The parts before and after the last `mark`. -/
def cutLast? (mark : Char) : List Char → Option (List Char × List Char)
  | [] => none
  | c :: cs =>
    match cutLast? mark cs with
    | some (before, after) => some (c :: before, after)
    | none => if c = mark then some ([], cs) else none

/-- What follows `head` when the text starts with it. -/
def dropText? : List Char → List Char → Option (List Char)
  | [], cs => some cs
  | _ :: _, [] => none
  | h :: hs, c :: cs => if h = c then dropText? hs cs else none

/-- The parts before and after the first occurrence of `mark`. -/
def cutAtText? (mark : List Char) : List Char → Option (List Char × List Char)
  | [] => (dropText? mark []).map fun rest => ([], rest)
  | c :: cs =>
    match dropText? mark (c :: cs) with
    | some rest => some ([], rest)
    | none => (cutAtText? mark cs).map fun (before, after) => (c :: before, after)

/-- The parts between the characters that `isMark` accepts; never empty. -/
def piecesBy (isMark : Char → Bool) : List Char → List (List Char)
  | [] => [[]]
  | c :: cs =>
    if isMark c then [] :: piecesBy isMark cs
    else match piecesBy isMark cs with
      | [] => [[c]]
      | p :: ps => (c :: p) :: ps

/-- The parts between the occurrences of `mark`; never empty. -/
def pieces (mark : Char) (cs : List Char) : List (List Char) :=
  piecesBy (· = mark) cs

/-- The pieces in order with `mark` between neighbours. -/
def joinWith (mark : List Char) : List (List Char) → List Char
  | [] => []
  | [p] => p
  | p :: q :: ps => p ++ mark ++ joinWith mark (q :: ps)

/-! ### What a cut loses -/

theorem eq_of_cutFirst? {mark : Char} {cs before after : List Char}
    (h : cutFirst? mark cs = some (before, after)) : cs = before ++ mark :: after := by
  induction cs generalizing before with
  | nil => simp [cutFirst?] at h
  | cons c cs ih =>
    rw [cutFirst?] at h
    split at h
    · simp_all
    · obtain ⟨⟨b, a⟩, hc, he⟩ := Option.map_eq_some_iff.1 h
      obtain ⟨rfl, rfl⟩ := Prod.mk.inj he
      rw [ih hc, List.cons_append]

theorem eq_of_cutLast? {mark : Char} {cs before after : List Char}
    (h : cutLast? mark cs = some (before, after)) : cs = before ++ mark :: after := by
  induction cs generalizing before after with
  | nil => simp [cutLast?] at h
  | cons c cs ih =>
    rw [cutLast?] at h
    split at h
    · next b a hc =>
      obtain ⟨rfl, rfl⟩ := Prod.mk.inj (Option.some.inj h)
      rw [ih hc, List.cons_append]
    · split at h <;> simp_all

theorem eq_of_dropText? {head cs rest : List Char} (h : dropText? head cs = some rest) :
    cs = head ++ rest := by
  induction head generalizing cs with
  | nil => simpa [dropText?] using h
  | cons x xs ih =>
    cases cs with
    | nil => simp [dropText?] at h
    | cons c cs =>
      rw [dropText?] at h
      split at h
      · next hx => rw [ih h, hx, List.cons_append]
      · simp at h

theorem eq_of_cutAtText? {mark cs before after : List Char}
    (h : cutAtText? mark cs = some (before, after)) : cs = before ++ mark ++ after := by
  induction cs generalizing before with
  | nil =>
    obtain ⟨rest, h_rest, h_eq⟩ := Option.map_eq_some_iff.1 h
    obtain ⟨rfl, rfl⟩ := Prod.mk.inj h_eq
    exact eq_of_dropText? h_rest
  | cons c cs ih =>
    rw [cutAtText?] at h
    split at h
    · next rest h_rest =>
      obtain ⟨rfl, rfl⟩ := Prod.mk.inj (Option.some.inj h)
      exact eq_of_dropText? h_rest
    · obtain ⟨⟨b, a⟩, h_cut, h_eq⟩ := Option.map_eq_some_iff.1 h
      obtain ⟨rfl, rfl⟩ := Prod.mk.inj h_eq
      rw [ih h_cut, List.cons_append, List.cons_append]

/-! ### What a cut finds -/

/-- The first mark is the one before which there is none. -/
theorem cutFirst?_append {mark : Char} {before : List Char} (after : List Char)
    (h : mark ∉ before) : cutFirst? mark (before ++ mark :: after) = some (before, after) := by
  induction before with
  | nil => simp [cutFirst?]
  | cons c cs ih =>
    rw [List.mem_cons, not_or] at h
    obtain ⟨h_c, h_cs⟩ := h
    rw [List.cons_append, cutFirst?, if_neg (Ne.symm h_c), ih h_cs]
    rfl

theorem cutFirst?_of_notMem {mark : Char} {cs : List Char} (h : mark ∉ cs) :
    cutFirst? mark cs = none := by
  cases h_cut : cutFirst? mark cs with
  | none => rfl
  | some parts =>
    rw [eq_of_cutFirst? h_cut] at h
    simp at h

theorem cutLast?_of_notMem {mark : Char} {cs : List Char} (h : mark ∉ cs) :
    cutLast? mark cs = none := by
  cases h_cut : cutLast? mark cs with
  | none => rfl
  | some parts =>
    rw [eq_of_cutLast? h_cut] at h
    simp at h

/-- The last mark is the one after which there is none. -/
theorem cutLast?_append {mark : Char} (before : List Char) {after : List Char}
    (h : mark ∉ after) : cutLast? mark (before ++ mark :: after) = some (before, after) := by
  induction before with
  | nil => simp [cutLast?, cutLast?_of_notMem h]
  | cons c cs ih => rw [List.cons_append, cutLast?, ih]

/-- A text is cut at its last mark if it has one. -/
theorem cutLast?_cases (mark : Char) (cs : List Char) :
    mark ∉ cs ∧ cutLast? mark cs = none ∨
      ∃ before after, mark ∉ after ∧ cs = before ++ mark :: after ∧
        cutLast? mark cs = some (before, after) := by
  induction cs with
  | nil => exact .inl ⟨List.not_mem_nil, rfl⟩
  | cons c cs ih =>
    rcases ih with ⟨h_cs, h_cut⟩ | ⟨before, after, h_after, rfl, h_cut⟩
    · by_cases h_c : c = mark
      · exact .inr ⟨[], cs, h_cs, by rw [h_c, List.nil_append], by simp [cutLast?, h_cut, h_c]⟩
      · refine .inl ⟨?_, by simp [cutLast?, h_cut, h_c]⟩
        rw [List.mem_cons, not_or]
        exact ⟨Ne.symm h_c, h_cs⟩
    · exact .inr ⟨c :: before, after, h_after, rfl, by rw [cutLast?, h_cut]⟩

/-- Nothing changes in front of the last mark if a text without it comes first. -/
theorem cutLast?_append_left {mark : Char} {front : List Char} (h : mark ∉ front)
    (cs : List Char) :
    cutLast? mark (front ++ cs) = (cutLast? mark cs).map fun (before, after) =>
      (front ++ before, after) := by
  rcases cutLast?_cases mark cs with ⟨h_cs, h_cut⟩ | ⟨before, after, h_after, rfl, h_cut⟩
  · rw [h_cut, cutLast?_of_notMem (by simp [h, h_cs])]
    rfl
  · rw [h_cut, ← List.append_assoc, cutLast?_append _ h_after]
    rfl

theorem dropText?_append (head rest : List Char) : dropText? head (head ++ rest) = some rest := by
  induction head with
  | nil => rfl
  | cons c cs ih => rw [List.cons_append, dropText?, if_pos rfl, ih]

/-- A text is found behind a text without its first character. -/
theorem cutAtText?_append {c : Char} {before : List Char} (mark after : List Char)
    (h : c ∉ before) :
    cutAtText? (c :: mark) (before ++ c :: mark ++ after) = some (before, after) := by
  induction before with
  | nil =>
    rw [List.nil_append, List.cons_append, cutAtText?, ← List.cons_append, dropText?_append]
  | cons d ds ih =>
    rw [List.mem_cons, not_or] at h
    obtain ⟨h_d, h_ds⟩ := h
    rw [List.cons_append, List.cons_append, cutAtText?, dropText?, if_neg h_d, ih h_ds]
    rfl

theorem cutAtText?_isSome_of_dropText? {mark cs rest : List Char}
    (h : dropText? mark cs = some rest) : (cutAtText? mark cs).isSome = true := by
  cases cs with
  | nil =>
    rw [cutAtText?, h]
    rfl
  | cons c cs =>
    rw [cutAtText?, h]
    rfl

/-- A text with the mark in it is cut somewhere. -/
theorem cutAtText?_isSome_append (mark before after : List Char) :
    (cutAtText? mark (before ++ mark ++ after)).isSome = true := by
  induction before with
  | nil => exact cutAtText?_isSome_of_dropText? (dropText?_append mark after)
  | cons c cs ih =>
    rw [List.cons_append, List.cons_append, cutAtText?]
    split
    · rfl
    · rwa [Option.isSome_map]

theorem piecesBy_ne_nil (isMark : Char → Bool) (cs : List Char) : piecesBy isMark cs ≠ [] := by
  cases cs with
  | nil => simp [piecesBy]
  | cons c cs =>
    rw [piecesBy]
    split
    · simp
    · split <;> simp

/-- No piece has a mark in it. -/
theorem eq_false_of_mem_piecesBy {isMark : Char → Bool} {cs p : List Char} {c : Char}
    (h_p : p ∈ piecesBy isMark cs) (h_c : c ∈ p) : isMark c = false := by
  induction cs generalizing p with
  | nil =>
    obtain rfl := List.mem_singleton.1 h_p
    cases h_c
  | cons d cs ih =>
    rw [piecesBy] at h_p
    split at h_p
    · rcases List.mem_cons.1 h_p with rfl | h_p
      · cases h_c
      · exact ih h_p h_c
    · next h_d =>
      split at h_p
      · next h_nil => exact absurd h_nil (piecesBy_ne_nil isMark cs)
      · next q qs h_pieces =>
        rw [h_pieces] at ih
        rcases List.mem_cons.1 h_p with rfl | h_p
        · rcases List.mem_cons.1 h_c with rfl | h_c
          · exact Bool.eq_false_iff.2 h_d
          · exact ih List.mem_cons_self h_c
        · exact ih (List.mem_cons_of_mem _ h_p) h_c

/-- A text without marks is one piece, which goes up to the first mark. -/
theorem piecesBy_append {isMark : Char → Bool} {p : List Char} (h_p : ∀ c ∈ p, isMark c = false)
    {m : Char} (h_m : isMark m = true) (cs : List Char) :
    piecesBy isMark (p ++ m :: cs) = p :: piecesBy isMark cs := by
  induction p with
  | nil => rw [List.nil_append, piecesBy, if_pos h_m]
  | cons c p ih =>
    have h_c := h_p c List.mem_cons_self
    rw [List.cons_append, piecesBy, ih fun d h_d => h_p d (List.mem_cons_of_mem _ h_d),
      if_neg (by simp [h_c])]

theorem piecesBy_of_free {isMark : Char → Bool} {p : List Char} (h_p : ∀ c ∈ p, isMark c = false) :
    piecesBy isMark p = [p] := by
  induction p with
  | nil => rfl
  | cons c p ih =>
    have h_c := h_p c List.mem_cons_self
    rw [piecesBy, ih fun d h_d => h_p d (List.mem_cons_of_mem _ h_d), if_neg (by simp [h_c])]

/-- Cutting undoes joining. -/
theorem piecesBy_joinWith {isMark : Char → Bool} {m : Char} (h_m : isMark m = true)
    {ps : List (List Char)} (h_ne : ps ≠ []) (h_ps : ∀ p ∈ ps, ∀ c ∈ p, isMark c = false) :
    piecesBy isMark (joinWith [m] ps) = ps := by
  fun_induction joinWith [m] ps with
  | case1 => exact absurd rfl h_ne
  | case2 p => exact piecesBy_of_free (h_ps p List.mem_cons_self)
  | case3 p q ps ih =>
    rw [List.append_assoc, List.singleton_append, piecesBy_append (h_ps p List.mem_cons_self) h_m,
      ih (List.cons_ne_nil _ _) fun r h_r => h_ps r (List.mem_cons_of_mem _ h_r)]

theorem joinWith_pieces (mark : Char) (cs : List Char) : joinWith [mark] (pieces mark cs) = cs := by
  induction cs with
  | nil => rfl
  | cons c cs ih =>
    unfold pieces at ih ⊢
    rw [piecesBy]
    cases hp : piecesBy (· = mark) cs with
    | nil => exact absurd hp (piecesBy_ne_nil _ cs)
    | cons p ps =>
      rw [hp] at ih
      split
      · next hc => simp_all [joinWith]
      · cases ps <;> simp_all [joinWith]

/-- A mark in front of all pieces is one in front of each. -/
theorem cons_joinWith (m : Char) (p : List Char) (ps : List (List Char)) :
    m :: joinWith [m] (p :: ps) = (p :: ps).flatMap (m :: ·) := by
  induction ps generalizing p with
  | nil => simp [joinWith]
  | cons q ps ih =>
    rw [joinWith, List.append_assoc, List.singleton_append, ih q]
    rfl

/-- What is written comes from a piece or from between two. -/
theorem mem_or_mem_of_mem_joinWith {mark : List Char} {ps : List (List Char)} {c : Char}
    (h : c ∈ joinWith mark ps) : c ∈ mark ∨ ∃ p ∈ ps, c ∈ p := by
  fun_induction joinWith mark ps with
  | case1 => simp at h
  | case2 p => exact .inr ⟨p, List.mem_singleton_self p, h⟩
  | case3 p q ps ih =>
    rw [List.append_assoc, List.mem_append, List.mem_append] at h
    rcases h with h_p | h_mark | h_rest
    · exact .inr ⟨p, List.mem_cons_self .., h_p⟩
    · exact .inl h_mark
    · exact (ih h_rest).imp_right fun ⟨r, h_r, h_c⟩ => ⟨r, List.mem_cons_of_mem _ h_r, h_c⟩

theorem mem_joinWith_of_mem {mark p : List Char} {ps : List (List Char)} {c : Char} (h_p : p ∈ ps)
    (h_c : c ∈ p) : c ∈ joinWith mark ps := by
  fun_induction joinWith mark ps with
  | case1 => simp at h_p
  | case2 q => rwa [← List.mem_singleton.1 h_p]
  | case3 q r ps ih =>
    rw [List.append_assoc, List.mem_append, List.mem_append]
    rcases List.mem_cons.1 h_p with rfl | h_p
    · exact .inl h_c
    · exact .inr (.inr (ih h_p))

/-- A character other than the mark is in a piece. -/
theorem exists_mem_pieces {mark c : Char} {cs : List Char} (h : c ∈ cs) (h_ne : c ≠ mark) :
    ∃ p ∈ pieces mark cs, c ∈ p := by
  rw [← joinWith_pieces mark cs] at h
  exact (mem_or_mem_of_mem_joinWith h).resolve_left (by simpa using h_ne)

/-- Where each element is read, so is the list of all. -/
theorem mapM_eq_some_map {α β : Type} {f : α → Option β} {g : α → β} {xs : List α}
    (h : ∀ x ∈ xs, f x = some (g x)) : xs.mapM f = some (xs.map g) := by
  induction xs with
  | nil => rfl
  | cons x xs ih =>
    rw [List.mapM_cons, h x List.mem_cons_self, ih fun y h_y => h y (List.mem_cons_of_mem _ h_y)]
    rfl

/-- Where every piece is read, each leaves its value. -/
theorem exists_of_mapM_eq_some {α β : Type} {f : α → Option β} {xs : List α} {ys : List β}
    (h : xs.mapM f = some ys) {x : α} (h_x : x ∈ xs) : ∃ y ∈ ys, f x = some y := by
  induction xs generalizing ys with
  | nil => cases h_x
  | cons z zs ih =>
    simp only [List.mapM_cons, Option.bind_eq_bind, Option.bind_eq_some_iff, Option.pure_def,
      Option.some.injEq] at h
    obtain ⟨y, h_y, rest, h_rest, rfl⟩ := h
    rcases List.mem_cons.1 h_x with rfl | h_x
    · exact ⟨y, List.mem_cons_self .., h_y⟩
    · obtain ⟨y', h_y', h_f⟩ := ih h_rest h_x
      exact ⟨y', List.mem_cons_of_mem _ h_y', h_f⟩

/-- Every value that is read comes from an element. -/
theorem exists_of_mem_of_mapM_eq_some {α β : Type} {f : α → Option β} {xs : List α} {ys : List β}
    (h : xs.mapM f = some ys) {y : β} (h_y : y ∈ ys) : ∃ x ∈ xs, f x = some y := by
  induction xs generalizing ys with
  | nil =>
    cases h
    cases h_y
  | cons z zs ih =>
    simp only [List.mapM_cons, Option.bind_eq_bind, Option.bind_eq_some_iff, Option.pure_def,
      Option.some.injEq] at h
    obtain ⟨value, h_value, rest, h_rest, rfl⟩ := h
    rcases List.mem_cons.1 h_y with rfl | h_y
    · exact ⟨z, List.mem_cons_self, h_value⟩
    · obtain ⟨x, h_x, h_f⟩ := ih h_rest h_y
      exact ⟨x, List.mem_cons_of_mem _ h_x, h_f⟩

end KeyedBreakers.Text
