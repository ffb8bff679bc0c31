/-!
# Digits

Numbers as runs of digits, in base ten and base sixteen. Only the ASCII digits count, so a digit of
another script is never read as a number.

* `decimal`, `hexadecimal` — the digits of a number, most significant first, no leading zeros;
* `readDecimal?` — the value of a nonempty run of decimal digits, leading zeros allowed;
* `readDecimal?_decimal`, `readHexadecimal?_hexadecimal` — reading what was written gives the number
  back.
-/

namespace KeyedBreakers.Text

/-! ### Writing -/

/-- The decimal digits of `n`. -/
def decimal (n : Nat) : List Char :=
  Nat.toDigits 10 n

/-- The hexadecimal digits of `n`, with small letters. -/
def hexadecimal (n : Nat) : List Char :=
  Nat.toDigits 16 n

/-- The hexadecimal digit of a number below sixteen, with a capital letter. -/
def capitalHexDigit (n : Nat) : Char :=
  if n < 10 then Char.ofNat (48 + n) else Char.ofNat (55 + n)

/-- The decimal digits of a whole number, after a minus sign if it is negative. -/
def signedDecimal (n : Int) : List Char :=
  if n < 0 then '-' :: decimal n.natAbs else decimal n.natAbs

/-! ### Reading -/

/-- The value of a hexadecimal digit, in either case. -/
def hexDigit? (c : Char) : Option Nat :=
  if '0' ≤ c ∧ c ≤ '9' then some (c.toNat - 48)
  else if 'a' ≤ c ∧ c ≤ 'f' then some (c.toNat - 87)
  else if 'A' ≤ c ∧ c ≤ 'F' then some (c.toNat - 55)
  else none

/-- Whether the character is a hexadecimal digit. -/
def isHexDigit (c : Char) : Bool :=
  (hexDigit? c).isSome

/-- The value of a run of digits in base `b`, where `digit?` gives the value of each. -/
def valueInBase (b : Nat) (digit? : Char → Option Nat) (ds : List Char) : Nat :=
  ds.foldl (fun n c => n * b + (digit? c).getD 0) 0

/-- The value of a nonempty run of decimal digits. -/
def readDecimal? (ds : List Char) : Option Nat :=
  if ds ≠ [] ∧ ds.all Char.isDigit then some (Nat.ofDigitChars 10 ds 0) else none

/-- The value of a nonempty run of hexadecimal digits. -/
def readHexadecimal? (ds : List Char) : Option Nat :=
  if ds ≠ [] ∧ ds.all isHexDigit then some (valueInBase 16 hexDigit? ds) else none

/-- The value of a nonempty run of decimal digits with an optional plus sign in front, at most
`limit`. -/
def readBounded? (limit : Nat) (cs : List Char) : Option Nat :=
  let digits := match cs with
    | '+' :: ds => ds
    | ds => ds
  (readDecimal? digits).filter (· ≤ limit)

/-- What holds of the ASCII characters one by one. -/
theorem forall_ascii {P : Char → Prop} (h : ∀ n < 0x80, P (Char.ofNat n)) {c : Char}
    (h_c : c.toNat < 0x80) : P c := by
  have h_n := h c.toNat h_c
  rwa [Char.ofNat_toNat] at h_n

theorem isHexDigit_of_isDigit {c : Char} (h : c.isDigit = true) : isHexDigit c = true := by
  have h_range : '0' ≤ c ∧ c ≤ '9' := by
    simpa [Char.isDigit, Char.le_def] using h
  rw [isHexDigit, hexDigit?, if_pos h_range]
  rfl

/-- What is read as a number in a range is digits, behind a plus sign at most. -/
theorem readBounded?_eq_some {limit n : Nat} {cs : List Char} (h : readBounded? limit cs = some n) :
    cs ≠ [] ∧ (∀ c ∈ cs, c.isDigit = true ∨ c = '+') ∧ ∀ c ∈ cs.getLast?, c.isDigit = true := by
  have h_read : ∀ {ds : List Char}, (readDecimal? ds).filter (· ≤ limit) = some n →
      ds ≠ [] ∧ ∀ c ∈ ds, c.isDigit = true := by
    intro ds h_ds
    have h_ds := (Option.filter_eq_some_iff.1 h_ds).1
    unfold readDecimal? at h_ds
    split at h_ds
    · next h_digits => exact ⟨h_digits.1, List.all_eq_true.1 h_digits.2⟩
    · cases h_ds
  unfold readBounded? at h
  dsimp only at h
  split at h
  · next ds =>
    obtain ⟨h_ne, h_digits⟩ := h_read h
    refine ⟨List.cons_ne_nil _ _, fun c h_c => ?_, fun c h_c => ?_⟩
    · exact (List.mem_cons.1 h_c).symm.imp_left (h_digits c)
    · rw [List.getLast?_cons_of_ne_nil h_ne] at h_c
      exact h_digits c (List.mem_of_getLast? h_c)
  · obtain ⟨h_ne, h_digits⟩ := h_read h
    exact ⟨h_ne, fun c h_c => .inl (h_digits c h_c),
      fun c h_c => h_digits c (List.mem_of_getLast? h_c)⟩

/-! ### Reading what was written -/

theorem isDigit_of_mem_decimal {c : Char} {n : Nat} (h : c ∈ decimal n) : c.isDigit :=
  Nat.isDigit_of_mem_toDigits (by decide) (by decide) h

theorem decimal_ne_nil (n : Nat) : decimal n ≠ [] :=
  Nat.toDigits_ne_nil

/-- A number written in base sixteen has hexadecimal digits only. -/
theorem isHexDigit_of_mem_hexadecimal {c : Char} {n : Nat} (h : c ∈ hexadecimal n) :
    isHexDigit c = true := by
  have h_digit : ∀ d < 16, isHexDigit d.digitChar = true := by decide
  unfold hexadecimal at h
  induction n using Nat.strongRecOn with
  | ind n ih =>
    rw [Nat.toDigits_eq_if (by decide)] at h
    split at h
    · next h_lt => exact List.mem_singleton.1 h ▸ h_digit n h_lt
    · next h_le =>
      rcases List.mem_append.1 h with h | h
      · exact ih (n / 16) (by omega) h
      · exact List.mem_singleton.1 h ▸ h_digit _ (Nat.mod_lt n (by decide))

/-- The digits of a number read back as that number. -/
@[simp] theorem readDecimal?_decimal (n : Nat) : readDecimal? (decimal n) = some n := by
  have hd : (decimal n).all Char.isDigit = true :=
    List.all_eq_true.2 fun _ hc => isDigit_of_mem_decimal hc
  rw [readDecimal?, if_pos ⟨decimal_ne_nil n, hd⟩]
  simp [decimal]

theorem hexadecimal_ne_nil (n : Nat) : hexadecimal n ≠ [] :=
  Nat.toDigits_ne_nil

theorem valueInBase_concat (b : Nat) (digit? : Char → Option Nat) (ds : List Char) (c : Char) :
    valueInBase b digit? (ds ++ [c]) = valueInBase b digit? ds * b + (digit? c).getD 0 := by
  rw [valueInBase, List.foldl_append]
  rfl

/-- The hexadecimal digits of a number have it as their value. -/
theorem valueInBase_hexadecimal (n : Nat) : valueInBase 16 hexDigit? (hexadecimal n) = n := by
  have h_digit : ∀ d < 16, (hexDigit? d.digitChar).getD 0 = d := by decide
  unfold hexadecimal
  induction n using Nat.strongRecOn with
  | ind n ih =>
    rw [Nat.toDigits_eq_if (by decide)]
    split
    · next h_lt =>
      show 0 * 16 + (hexDigit? n.digitChar).getD 0 = n
      rw [h_digit n h_lt]
      omega
    · next h_le =>
      rw [valueInBase_concat, ih (n / 16) (by omega), h_digit _ (Nat.mod_lt n (by decide))]
      omega

/-- The hexadecimal digits of a number read back as that number. -/
@[simp] theorem readHexadecimal?_hexadecimal (n : Nat) :
    readHexadecimal? (hexadecimal n) = some n := by
  have h_digits : (hexadecimal n).all isHexDigit = true :=
    List.all_eq_true.2 fun _ h_c => isHexDigit_of_mem_hexadecimal h_c
  rw [readHexadecimal?, if_pos ⟨hexadecimal_ne_nil n, h_digits⟩, valueInBase_hexadecimal]

end KeyedBreakers.Text
