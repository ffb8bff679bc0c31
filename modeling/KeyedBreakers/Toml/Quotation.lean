import KeyedBreakers.Text.Digits
import KeyedBreakers.Toml.Spacing

/-!
# Quoted texts in documents

Between double quotation marks a backslash starts an escape; between single ones it stands for
itself. Three marks of either kind quote a text of several lines: a line end directly after them
does not count, up to two marks may stand inside and at the end, and, between double marks, a
backslash at the end of a line drops all blanks and line ends up to the next character.
-/

namespace KeyedBreakers.Toml

open KeyedBreakers.Text

/-! ### Escapes -/

/-- The character with the given code, unless the code is one of half a pair or too large. -/
def character? (code : Nat) : Option Char :=
  if h : code.isValidChar then some (Char.ofNatAux code h) else none

/-- The character whose code is the given number of hexadecimal digits at the front. -/
def readCode? (length : Nat) (cs : List Char) : Option (Char × List Char) := do
  let digits := cs.take length
  if digits.length ≠ length then none
  let code ← readHexadecimal? digits
  let c ← character? code
  some (c, cs.drop length)

/-- The character that the text after a backslash stands for. -/
def readEscape? : List Char → Option (Char × List Char)
  | 'b' :: rest => some ('\x08', rest)
  | 't' :: rest => some ('\t', rest)
  | 'n' :: rest => some ('\n', rest)
  | 'f' :: rest => some ('\x0c', rest)
  | 'r' :: rest => some ('\r', rest)
  | '"' :: rest => some ('"', rest)
  | '\\' :: rest => some ('\\', rest)
  | 'u' :: rest => readCode? 4 rest
  | 'U' :: rest => readCode? 8 rest
  | _ => none

/-- What follows a backslash at the end of a line, after the blanks and line ends it drops. -/
def lineJoin? (cs : List Char) : Option (List Char) :=
  (newline? (skipSpaces cs)).map skipBlankLines

/-! ### Texts -/

/-- A kind of quotation: its mark, and whether a backslash has a meaning inside. -/
structure Quotation where
  mark : Char
  escapes : Bool

/-- Quotation with escapes. -/
def basic : Quotation := ⟨'"', true⟩

/-- Quotation of characters that stand for themselves. -/
def literal : Quotation := ⟨'\x27', false⟩

/-- The characters of a text of one line, up to the closing mark. -/
def readLine? (q : Quotation) : (fuel : Nat) → List Char → Option (List Char × List Char)
  | 0, _ => none
  | _ + 1, [] => none
  | fuel + 1, c :: rest =>
    if c = q.mark then some ([], rest)
    else if q.escapes ∧ c = '\\' then do
      let (c, rest) ← readEscape? rest
      let (cs, rest) ← readLine? q fuel rest
      some (c :: cs, rest)
    else if isPlain c then (readLine? q fuel rest).map fun (cs, rest) => (c :: cs, rest)
    else none

/-- The characters of a text of several lines, up to the closing marks. -/
def readParagraph? (q : Quotation) : (fuel : Nat) → List Char → Option (List Char × List Char)
  | 0, _ => none
  | _ + 1, [] => none
  | fuel + 1, c :: rest =>
    if c = q.mark then
      let marks := (c :: rest).takeWhile (· == q.mark)
      let rest := rest.dropWhile (· == q.mark)
      if marks.length < 3 then
        (readParagraph? q fuel rest).map fun (cs, rest) => (marks ++ cs, rest)
      else if marks.length ≤ 5 then some (marks.drop 3, rest)
      else none
    else if q.escapes ∧ c = '\\' then
      match lineJoin? rest with
      | some rest => readParagraph? q fuel rest
      | none => do
        let (c, rest) ← readEscape? rest
        let (cs, rest) ← readParagraph? q fuel rest
        some (c :: cs, rest)
    else match newline? (c :: rest) with
      | some rest => (readParagraph? q fuel rest).map fun (cs, rest) => ('\n' :: cs, rest)
      | none =>
        if isPlain c then (readParagraph? q fuel rest).map fun (cs, rest) => (c :: cs, rest)
        else none

/-- A text of one line whose opening mark is at the front. -/
def readQuoted? (q : Quotation) : List Char → Option (String × List Char)
  | [] => none
  | c :: rest =>
    if c = q.mark then
      (readLine? q (rest.length + 1) rest).map fun (cs, rest) => (String.ofList cs, rest)
    else none

/-- A text of one line or several whose opening mark is at the front. -/
def readText? (q : Quotation) (cs : List Char) : Option (String × List Char) :=
  if cs.take 3 = [q.mark, q.mark, q.mark] then
    let body := cs.drop 3
    let body := (newline? body).getD body
    (readParagraph? q (body.length + 1) body).map fun (cs, rest) => (String.ofList cs, rest)
  else readQuoted? q cs

end KeyedBreakers.Toml
