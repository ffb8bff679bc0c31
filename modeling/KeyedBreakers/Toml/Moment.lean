import KeyedBreakers.Text.Digits

/-!
# Dates and times in documents

A date, a date and a time of day with an optional offset, or a time of day. All fields have a fixed
number of digits and are checked: months have their days, in leap years too, and a minute may have a
leap second. No setting is a moment, so the readers keep only what follows one.
-/

namespace KeyedBreakers.Toml

open KeyedBreakers.Text

/-- A field of exactly the given number of digits whose value is from `low` to `high`. -/
def readField? (length low high : Nat) (cs : List Char) : Option (Nat × List Char) := do
  let digits := cs.take length
  if digits.length ≠ length then none
  let n ← readDecimal? digits
  if low ≤ n ∧ n ≤ high then some (n, cs.drop length) else none

/-- What follows the given character at the front. -/
def skip? (c : Char) : List Char → Option (List Char)
  | d :: rest => if d = c then some rest else none
  | [] => none

/-- Whether a year has a leap day. -/
def isLeap (year : Nat) : Bool :=
  year % 4 = 0 && (year % 100 != 0 || year % 400 = 0)

/-- The number of days of a month. -/
def daysOf (year month : Nat) : Nat :=
  if month = 2 then if isLeap year then 29 else 28
  else if month = 4 ∨ month = 6 ∨ month = 9 ∨ month = 11 then 30
  else 31

/-- What follows a date. -/
def readDate? (cs : List Char) : Option (List Char) := do
  let (year, rest) ← readField? 4 0 9999 cs
  let (month, rest) ← skip? '-' rest >>= readField? 2 1 12
  let (_, rest) ← skip? '-' rest >>= readField? 2 1 (daysOf year month)
  some rest

/-- What follows the decimal places of a second, if there are any. -/
def skipPlaces? : List Char → Option (List Char)
  | '.' :: c :: rest => if c.isDigit then some (rest.dropWhile Char.isDigit) else none
  | ['.'] => none
  | rest => some rest

/-- What follows a time of day. -/
def readTime? (cs : List Char) : Option (List Char) := do
  let (_, rest) ← readField? 2 0 23 cs
  let (_, rest) ← skip? ':' rest >>= readField? 2 0 59
  let (_, rest) ← skip? ':' rest >>= readField? 2 0 60
  skipPlaces? rest

/-- What follows the offset of a time, if there is one. -/
def readOffset? : List Char → Option (List Char)
  | [] => some []
  | c :: rest =>
    if c = 'Z' ∨ c = 'z' then some rest
    else if c = '+' ∨ c = '-' then do
      let (_, rest) ← readField? 2 0 23 rest
      let (_, rest) ← skip? ':' rest >>= readField? 2 0 59
      some rest
    else some (c :: rest)

/-- What follows a moment. After a date a space may be the end of the value as well as the start of
the time. -/
def readMoment? (cs : List Char) : Option (List Char) :=
  match readDate? cs with
  | none => readTime? cs
  | some [] => some []
  | some (c :: rest) =>
    if c = 'T' ∨ c = 't' then readTime? rest >>= readOffset?
    else if c = ' ' then
      match readTime? rest with
      | some rest => readOffset? rest
      | none => some (c :: rest)
    else some (c :: rest)

end KeyedBreakers.Toml
