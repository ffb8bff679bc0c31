import KeyedBreakers.Text.Digits
import KeyedBreakers.Text.Split

/-!
# Tables over code points

A property of characters is a list of runs of code points with one value each. Tables are written as
text, because a property has hundreds of runs: rows are separated by blanks and line ends, a row is
a code point or a closed interval `first-last` in hexadecimal, and what follows is the value in a
notation that the table's own module explains.

`RunTable.find?` looks a code point up by halving, so the runs have to ascend and not overlap; a
code point in no run has no value.
-/

namespace KeyedBreakers.Unicode

open KeyedBreakers.Text

/-- The code points from `first` to `last`, with the value they share. -/
structure Run (α : Type) where
  first : Nat
  last : Nat
  value : α

/-- A property of code points as ascending runs. -/
structure RunTable (α : Type) where
  runs : Array (Run α)

namespace RunTable

variable {α : Type}

/-! ### Looking up -/

/-- The run that holds `c` among those from index `low` up to but not including `high`. -/
def search (t : RunTable α) (c low high : Nat) : Option (Run α) :=
  if low < high then
    let middle := (low + high) / 2
    match t.runs[middle]? with
    | none => none
    | some run =>
      if c < run.first then t.search c low middle
      else if run.last < c then t.search c (middle + 1) high
      else some run
  else none
termination_by high - low

/-- The run that holds the code point `c`. -/
def run? (t : RunTable α) (c : Nat) : Option (Run α) :=
  t.search c 0 t.runs.size

/-- The value of the character `c`. -/
def find? (t : RunTable α) (c : Char) : Option α :=
  (t.run? c.toNat).map Run.value

/-- Whether the character `c` lies in a run. -/
def contains (t : RunTable α) (c : Char) : Bool :=
  (t.run? c.toNat).isSome

/-! ### Reading the written form -/

/-- The code point at the head of the text and what follows it. -/
def readCodePoint (cs : List Char) : Nat × List Char :=
  (valueInBase 16 hexDigit? (cs.takeWhile isHexDigit), cs.dropWhile isHexDigit)

/-- One row: a code point or an interval, then a value in the notation that `value` reads. -/
def readRow (value : List Char → α) (row : List Char) : Run α :=
  match readCodePoint row with
  | (first, '-' :: more) =>
    let (last, rest) := readCodePoint more
    ⟨first, last, value rest⟩
  | (first, rest) => ⟨first, first, value rest⟩

/-- Whether a character separates rows. -/
def isGap (c : Char) : Bool :=
  c == ' ' || c == '\n'

/-- The table that `text` writes. -/
def ofText (value : List Char → α) (text : String) : RunTable α :=
  ⟨((piecesBy isGap text.toList).filter (· ≠ [])).map (readRow value) |>.toArray⟩

/-- One table after another; the runs of each come before those of the next. -/
def join (tables : List (RunTable α)) : RunTable α :=
  ⟨(tables.flatMap fun t => t.runs.toList).toArray⟩

/-! ### What a table holds -/

/-- A search ends at a run of the table that holds the code point. -/
theorem mem_of_search_eq_some {t : RunTable α} {c low high : Nat} {run : Run α}
    (h : t.search c low high = some run) : run ∈ t.runs ∧ run.first ≤ c ∧ c ≤ run.last := by
  fun_induction t.search c low high with
  | case1 low high h_lt middle h_get => cases h
  | case2 low high h_lt middle found h_get h_below ih => exact ih h
  | case3 low high h_lt middle found h_get h_below h_above ih => exact ih h
  | case4 low high h_lt middle found h_get h_below h_above =>
    obtain rfl := Option.some.inj h
    exact ⟨Array.mem_of_getElem? h_get, Nat.not_lt.1 h_below, Nat.not_lt.1 h_above⟩
  | case5 low high h_ge => cases h

/-- A fact that holds of each written row holds of the whole table. The text is given as a list of
characters, in which form it can be checked. -/
theorem forall_mem_ofText {value : List Char → α} {cs : List Char} {p : Run α → Bool}
    (h : (((piecesBy isGap cs).filter (· ≠ [])).map (readRow value)).all p = true) :
    ∀ run ∈ (ofText value (String.ofList cs)).runs, p run = true := by
  intro run h_run
  rw [ofText, String.toList_ofList, List.mem_toArray] at h_run
  exact List.all_eq_true.1 h run h_run

/-- A fact that holds of all parts of a table holds of the table. -/
theorem forall_mem_join {tables : List (RunTable α)} {P : Run α → Prop}
    (h : ∀ t ∈ tables, ∀ run ∈ t.runs, P run) : ∀ run ∈ (join tables).runs, P run := by
  intro run h_run
  rw [join, List.mem_toArray, List.mem_flatMap] at h_run
  obtain ⟨t, h_t, h_run⟩ := h_run
  exact h t h_t run (Array.mem_toList_iff.1 h_run)

end RunTable

/-- A set of characters: a table without values. -/
abbrev CharSet := RunTable Unit

/-- The set that `text` writes. -/
def CharSet.ofText (text : String) : CharSet :=
  RunTable.ofText (fun _ => ()) text

end KeyedBreakers.Unicode
