import KeyedBreakers.Unicode.Composition
import KeyedBreakers.Unicode.Direction
import KeyedBreakers.Unicode.Folding

/-!
# The tables, row by row

What is known of a table as a whole is checked once for each of its rows. Nothing is said here of what
a row is for; only its code points are looked at.

* `isPlainComposition` — composed characters are outside ASCII, and their parts are neither controls,
  digits or signs of addresses nor capitals;
* `isSmallReplacement` — replacements bring no capitals;
* `isQuietDirection` — nothing in ASCII is written from right to left.
-/

namespace KeyedBreakers.Unicode

open KeyedBreakers.Text

/-- The code point of a capital letter of ASCII. -/
def isCapitalCode (n : Nat) : Bool :=
  0x41 ≤ n && n ≤ 0x5A

theorem isCapitalCode_eq_false_iff {n : Nat} : isCapitalCode n = false ↔ n < 0x41 ∨ 0x5A < n := by
  rw [isCapitalCode, Bool.and_eq_false_iff, decide_eq_false_iff_not, decide_eq_false_iff_not,
    Nat.not_le, Nat.not_le]

/-! ### Composed characters -/

/-- The row of a character outside ASCII that is made of letters in small form and of signs from `<`
on, the at sign excepted. -/
def isPlainComposition (run : Run (List Nat)) : Bool :=
  0x80 ≤ run.first && run.value.all fun code => 0x3C ≤ code && code != 0x40 && !isCapitalCode code

set_option maxRecDepth 40000 in
theorem isPlainComposition_of_mem : ∀ run ∈ compositions.runs, isPlainComposition run = true := by
  unfold compositions
  refine RunTable.forall_mem_ofText ?_
  decide +kernel

/-! ### Replacements -/

/-- The row of a replacement that brings no capital. -/
def isSmallReplacement (run : Run Folding) : Bool :=
  match run.value with
  | .onto codes => codes.all (!isCapitalCode ·)
  | .inStep _ target => 0x5A < target || target + (run.last - run.first) < 0x41

set_option maxRecDepth 40000 in
theorem isSmallReplacement_of_mem_letters :
    ∀ t ∈ [foldedLetters, foldedRadicals, foldedUnits, foldedIdeographs], ∀ run ∈ t.runs,
      isSmallReplacement run = true := by
  simp only [List.forall_mem_cons, List.not_mem_nil, false_implies, implies_true, and_true]
  refine ⟨?_, ?_, ?_, ?_⟩
  all_goals
    refine RunTable.forall_mem_ofText ?_
    decide +kernel

set_option maxRecDepth 40000 in
theorem isSmallReplacement_of_mem_forms :
    ∀ t ∈ [foldedArabicForms, foldedWidths, foldedSupplement], ∀ run ∈ t.runs,
      isSmallReplacement run = true := by
  simp only [List.forall_mem_cons, List.not_mem_nil, false_implies, implies_true, and_true]
  refine ⟨?_, ?_, ?_⟩
  all_goals
    refine RunTable.forall_mem_ofText ?_
    decide +kernel

theorem isSmallReplacement_of_mem : ∀ run ∈ folded.runs, isSmallReplacement run = true := by
  refine RunTable.forall_mem_join fun t h_t => ?_
  rcases List.mem_append.1 (show t ∈ [foldedLetters, foldedRadicals, foldedUnits, foldedIdeographs]
    ++ [foldedArabicForms, foldedWidths, foldedSupplement] from h_t) with h_t | h_t
  · exact isSmallReplacement_of_mem_letters t h_t
  · exact isSmallReplacement_of_mem_forms t h_t

/-! ### Directions -/

/-- The row of characters outside ASCII, or of such as turn no name. -/
def isQuietDirection (run : Run Direction) : Bool :=
  0x80 ≤ run.first || (run.value != .rightToLeft && run.value != .arabicNumber)

set_option maxRecDepth 40000 in
theorem isQuietDirection_of_mem : ∀ run ∈ directions.runs, isQuietDirection run = true := by
  unfold directions
  refine RunTable.forall_mem_ofText ?_
  decide +kernel

end KeyedBreakers.Unicode
