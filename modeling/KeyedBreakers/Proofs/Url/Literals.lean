import KeyedBreakers.Url.Ipv4
import KeyedBreakers.Url.Ipv6

/-!
# Literal addresses

An IPv4 or IPv6 address can be written in many ways and has one text of its own, from which it is read
back. For IPv4 this is four decimal numbers, none of which can be taken for octal. For IPv6 it is eight
groups, or two runs of groups around the first longest run of zeros; the mark in between is found again
because no group is empty.

* `Ipv4.parse?_render`, `Ipv4.endsInNumber_render` — IPv4 addresses are read back;
* `Ipv6.longestZeros_spec` — a longest run is a run of zeros;
* `Ipv6.parse?_render` — IPv6 addresses are read back.
-/

namespace KeyedBreakers.Url

open KeyedBreakers.Text

/-! ### IPv4 -/

namespace Ipv4

theorem lt_of_mem_bytes {a : Ipv4} {n : Nat} (h : n ∈ a.bytes) : n < 256 := by
  have h_a := a.address.toNat_lt
  simp only [bytes, List.mem_cons, List.not_mem_nil, or_false] at h
  have h_top : a.address.toNat / Nat.pow 256 3 < 256 := by
    show a.address.toNat / 16777216 < 256
    omega
  rcases h with rfl | rfl | rfl | rfl
  · exact h_top
  all_goals exact Nat.mod_lt _ (by decide)

/-- A byte in decimal has no leading zero, so it is read in base ten. -/
theorem readPart?_decimal {n : Nat} (h : n < 256) : readPart? (decimal n) = some n := by
  have h_byte : ∀ n < 256, readPart? (decimal n) = some n := by decide +kernel
  exact h_byte n h

theorem pieces_render (a : Ipv4) : pieces '.' a.render = a.bytes.map decimal := by
  refine piecesBy_joinWith (decide_eq_true rfl) (List.cons_ne_nil _ _) fun p h_p c h_c => ?_
  obtain ⟨n, -, rfl⟩ := List.mem_map.1 h_p
  rw [decide_eq_false_iff_not]
  rintro rfl
  exact absurd (isDigit_of_mem_decimal h_c) (by decide)

theorem partsOf_render (a : Ipv4) : partsOf a.render = a.bytes.map decimal := by
  unfold partsOf
  rw [pieces_render]
  exact if_neg fun h_last => decimal_ne_nil _ (Option.some.inj h_last)

theorem endsInNumber_render (a : Ipv4) : endsInNumber a.render = true := by
  have h_digits : (decimal (a.address.toNat % 256)).all Char.isDigit = true :=
    List.all_eq_true.2 fun c h_c => isDigit_of_mem_decimal h_c
  unfold endsInNumber
  rw [partsOf_render]
  have h_last : (a.bytes.map decimal).getLast? = some (decimal (a.address.toNat % 256)) := rfl
  rw [h_last]
  dsimp only
  rw [decide_eq_true ⟨decimal_ne_nil _, h_digits⟩, Bool.true_or]

/-- The number is put together from its bytes. -/
theorem assemble?_bytes (a : Ipv4) :
    assemble? a.bytes.dropLast (a.address.toNat % 256) = some a := by
  have h_leading : a.bytes.dropLast.all (· < 256) = true :=
    List.all_eq_true.2 fun n h_n => decide_eq_true (lt_of_mem_bytes (List.dropLast_subset _ h_n))
  have h_sum : a.bytes.dropLast.foldl (fun n b => n * 256 + b) 0
      * Nat.pow 256 (4 - a.bytes.dropLast.length) + a.address.toNat % 256 = a.address.toNat := by
    simp only [bytes, List.dropLast_cons_cons, List.dropLast_singleton, List.foldl_cons,
      List.foldl_nil, List.length_cons, List.length_nil, Nat.pow_eq]
    omega
  have h_last : a.address.toNat % 256 < Nat.pow 256 (4 - a.bytes.dropLast.length) :=
    Nat.mod_lt _ (by decide)
  unfold assemble?
  rw [if_pos ⟨h_leading, h_last⟩]
  dsimp only
  rw [h_sum, UInt32.ofNat_toNat]

/-- **An IPv4 address is read back from its text.** -/
theorem parse?_render (a : Ipv4) : parse? a.render = some a := by
  have h_numbers : (a.bytes.map decimal).mapM readPart? = some (a.bytes.map id) := by
    rw [List.mapM_map]
    exact mapM_eq_some_map fun n h_n => readPart?_decimal (lt_of_mem_bytes h_n)
  unfold parse?
  rw [partsOf_render]
  dsimp only
  rw [if_neg (by simp [bytes]), h_numbers, List.map_id]
  exact assemble?_bytes a

end Ipv4

/-! ### Double marks -/

/-- No mark is found in a text without its first character. -/
theorem cutAtText?_append_left {c : Char} {front : List Char} (mark : List Char) (h : c ∉ front)
    (cs : List Char) :
    cutAtText? (c :: mark) (front ++ cs) = (cutAtText? (c :: mark) cs).map fun (before, after) =>
      (front ++ before, after) := by
  induction front with
  | nil =>
    rw [List.nil_append]
    cases cutAtText? (c :: mark) cs <;> rfl
  | cons d front ih =>
    rw [List.mem_cons, not_or] at h
    rw [List.cons_append, cutAtText?, dropText?, if_neg h.1, ih h.2]
    cases cutAtText? (c :: mark) cs <;> rfl

/-- A double mark does not occur where nonempty pieces are joined by single ones. -/
theorem cutAtText?_joinWith {m : Char} {ps : List (List Char)} (h_ps : ∀ p ∈ ps, p ≠ [] ∧ m ∉ p)
    (cs : List Char) :
    cutAtText? [m, m] (joinWith [m] ps ++ cs) = (cutAtText? [m, m] cs).map fun (before, after) =>
      (joinWith [m] ps ++ before, after) := by
  fun_induction joinWith [m] ps with
  | case1 =>
    rw [List.nil_append]
    cases cutAtText? [m, m] cs <;> rfl
  | case2 p => exact cutAtText?_append_left [m] (h_ps p List.mem_cons_self).2 cs
  | case3 p q ps ih =>
    have h_rest := ih fun r h_r => h_ps r (List.mem_cons_of_mem _ h_r)
    -- the mark behind a piece is followed by the start of the next
    have h_mark : cutAtText? [m, m] (m :: (joinWith [m] (q :: ps) ++ cs))
        = (cutAtText? [m, m] (joinWith [m] (q :: ps) ++ cs)).map fun (before, after) =>
            (m :: before, after) := by
      obtain ⟨h_ne, h_m⟩ := h_ps q (.tail _ (.head _))
      obtain ⟨c, q', rfl⟩ := List.exists_cons_of_ne_nil h_ne
      obtain ⟨rest, h_join⟩ : ∃ rest, joinWith [m] ((c :: q') :: ps) = c :: rest := by
        cases ps <;> exact ⟨_, rfl⟩
      have h_c : m ≠ c := fun h_eq => h_m (h_eq ▸ List.mem_cons_self)
      rw [h_join, List.cons_append, cutAtText?, dropText?, if_pos rfl, dropText?, if_neg h_c]
    rw [List.append_assoc, List.append_assoc, List.singleton_append,
      cutAtText?_append_left [m] (h_ps p List.mem_cons_self).2, h_mark, h_rest, Option.map_map,
      Option.map_map]
    cases cutAtText? [m, m] cs with
    | none => rfl
    | some parts => simp

/-! ### IPv6 -/

namespace Ipv6

theorem length_hexadecimal {n : Nat} (h : n < 65536) : (hexadecimal n).length ≤ 4 :=
  (Nat.length_toDigits_le_iff (by decide) (by decide)).2 h

theorem readGroup?_hexadecimal (g : UInt16) : readGroup? (hexadecimal g.toNat) = some g.toNat := by
  rw [readGroup?, if_pos (length_hexadecimal g.toNat_lt), readHexadecimal?_hexadecimal]

/-- A written group is not empty and has neither colons nor points. -/
theorem notMem_hexadecimal {c : Char} (h : isHexDigit c = false) (n : Nat) : c ∉ hexadecimal n := by
  intro h_c
  rw [isHexDigit_of_mem_hexadecimal h_c] at h
  cases h

theorem cutAtText?_renderGroups (gs : List UInt16) (cs : List Char) :
    cutAtText? [':', ':'] (renderGroups gs ++ cs)
      = (cutAtText? [':', ':'] cs).map fun (before, after) => (renderGroups gs ++ before, after) := by
  refine cutAtText?_joinWith (fun p h_p => ?_) cs
  obtain ⟨g, -, rfl⟩ := List.mem_map.1 h_p
  exact ⟨hexadecimal_ne_nil _, notMem_hexadecimal (by decide) _⟩

/-- Groups are read back, wherever they stand. -/
theorem readGroups?_renderGroups (atEnd : Bool) (gs : List UInt16) :
    readGroups? atEnd (renderGroups gs) = some (gs.map UInt16.toNat) := by
  cases gs with
  | nil => rfl
  | cons g gs =>
    have h_pieces : pieces ':' (renderGroups (g :: gs))
        = (g :: gs).map fun g => hexadecimal g.toNat := by
      refine piecesBy_joinWith (decide_eq_true rfl) (List.cons_ne_nil _ _) fun p h_p c h_c => ?_
      obtain ⟨g, -, rfl⟩ := List.mem_map.1 h_p
      rw [decide_eq_false_iff_not]
      rintro rfl
      exact notMem_hexadecimal (by decide) _ h_c
    have h_ne : renderGroups (g :: gs) ≠ [] := by
      intro h_nil
      rw [h_nil] at h_pieces
      exact hexadecimal_ne_nil _ (List.cons.inj h_pieces).1.symm
    have h_groups : ((g :: gs).map fun g => hexadecimal g.toNat).mapM readGroup?
        = some ((g :: gs).map UInt16.toNat) := by
      rw [List.mapM_map]
      exact mapM_eq_some_map fun g _ => readGroup?_hexadecimal g
    unfold readGroups?
    rw [if_neg h_ne, h_pieces]
    dsimp only
    split
    · next h_last => cases h_last
    · next last h_last =>
      -- no point stands in a group
      have h_point : (atEnd && last.contains '.') = false := by
        obtain ⟨g, -, rfl⟩ := List.mem_map.1 (List.mem_of_getLast? h_last)
        rw [Bool.and_eq_false_iff, List.contains_eq_mem, decide_eq_false_iff_not]
        exact .inr (notMem_hexadecimal (by decide) _)
      rw [h_point, if_neg Bool.false_ne_true, h_groups]

/-- The groups of an address make it again. -/
theorem ofGroups?_toList (a : Ipv6) : ofGroups? (a.groups.toList.map UInt16.toNat) = some a := by
  have h_groups : (a.groups.toList.map UInt16.toNat).map UInt16.ofNat = a.groups.toList := by
    rw [List.map_map]
    exact List.map_id'' (fun g => UInt16.ofNat_toNat) _
  unfold ofGroups?
  rw [dif_pos (by simp)]
  simp only [h_groups]
  rfl

theorem take_zerosAtHead (gs : List UInt16) :
    List.replicate (zerosAtHead gs) 0 ++ gs.drop (zerosAtHead gs) = gs := by
  induction gs with
  | nil => rfl
  | cons g gs ih =>
    unfold zerosAtHead at ih ⊢
    rw [List.takeWhile_cons]
    split
    · next h_g =>
      rw [List.length_cons, List.replicate_succ, List.drop_succ_cons, List.cons_append, ih,
        of_decide_eq_true h_g]
    · rfl

/-- **A longest run of zeros is a run of zeros.** -/
theorem longestZeros_spec (gs : List UInt16) :
    gs.take (longestZeros gs).1 ++ (List.replicate (longestZeros gs).2 0
      ++ gs.drop ((longestZeros gs).1 + (longestZeros gs).2)) = gs := by
  induction gs with
  | nil => rfl
  | cons g gs ih =>
    rw [longestZeros]
    dsimp only
    split
    · rw [List.take_zero, List.nil_append, Nat.zero_add]
      exact take_zerosAtHead (g :: gs)
    · rw [List.take_succ_cons, List.cons_append, Nat.add_right_comm, List.drop_succ_cons, ih]

/-- **An IPv6 address is read back from its text.** -/
theorem parse?_render (a : Ipv6) : parse? a.render = some a := by
  unfold render
  dsimp only
  split
  · have h_cut : cutAtText? [':', ':'] (renderGroups a.groups.toList) = none := by
      have h := cutAtText?_renderGroups a.groups.toList []
      rwa [List.append_nil] at h
    unfold parse?
    rw [h_cut]
    dsimp only
    rw [readGroups?_renderGroups]
    exact ofGroups?_toList a
  · next h_length =>
    have h_groups := longestZeros_spec a.groups.toList
    have h_size : a.groups.toList.length = 8 := by simp
    generalize longestZeros a.groups.toList = run at h_length h_groups
    obtain ⟨start, length⟩ := run
    dsimp only at h_length h_groups ⊢
    generalize a.groups.toList.take start = front at h_groups
    generalize a.groups.toList.drop (start + length) = back at h_groups
    have h_cut : cutAtText? [':', ':'] (renderGroups front ++ [':', ':'] ++ renderGroups back)
        = some (renderGroups front, renderGroups back) := by
      have h_here : cutAtText? [':', ':'] ([':', ':'] ++ renderGroups back)
          = some ([], renderGroups back) := rfl
      rw [List.append_assoc, cutAtText?_renderGroups, h_here, Option.map_some]
      dsimp only
      rw [List.append_nil]
    -- the zeros that are not written fill what is missing
    have h_count : front.length + length + back.length = 8 := by
      have h := congrArg List.length h_groups
      rw [h_size, List.length_append, List.length_append, List.length_replicate] at h
      omega
    have h_zeros : front.map UInt16.toNat
        ++ List.replicate (8 - (front.map UInt16.toNat).length - (back.map UInt16.toNat).length) 0
        ++ back.map UInt16.toNat = a.groups.toList.map UInt16.toNat := by
      rw [List.length_map, List.length_map, ← h_groups, List.map_append, List.map_append,
        List.map_replicate, List.append_assoc]
      have h_missing : 8 - front.length - back.length = length := by omega
      rw [h_missing]
      rfl
    unfold parse?
    rw [h_cut]
    dsimp only
    rw [readGroups?_renderGroups, readGroups?_renderGroups]
    show (if (front.map UInt16.toNat).length + (back.map UInt16.toNat).length < 8 then
      ofGroups? (front.map UInt16.toNat ++ _ ++ back.map UInt16.toNat) else none) = some a
    rw [if_pos (by rw [List.length_map, List.length_map]; omega), h_zeros]
    exact ofGroups?_toList a

end Ipv6

end KeyedBreakers.Url
