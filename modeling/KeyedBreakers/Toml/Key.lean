import KeyedBreakers.Toml.Quotation

/-!
# Keys in documents

A key is a name or several with points between them. A name of ASCII letters, digits, hyphens and
underscores stands bare; every other is quoted on one line. Blanks may surround each name. A key has
fewer than `nestingLimit` names.
-/

namespace KeyedBreakers.Toml

open KeyedBreakers.Text

/-- The depth that tables and values of a document do not reach. -/
def nestingLimit : Nat := 80

/-- Whether a character may stand in a bare name. -/
def isBare (c : Char) : Bool :=
  c.isAlphanum || c == '-' || c == '_'

/-- A name. -/
def readName? : List Char → Option (String × List Char)
  | '"' :: rest => readQuoted? basic ('"' :: rest)
  | '\x27' :: rest => readQuoted? literal ('\x27' :: rest)
  | cs =>
    let name := cs.takeWhile isBare
    if name = [] then none else some (String.ofList name, cs.dropWhile isBare)

/-- Names with points between them, and what follows them and the blanks after them. -/
def readNames? : (fuel : Nat) → List Char → Option (List String × List Char)
  | 0, _ => none
  | fuel + 1, cs => do
    let (name, rest) ← readName? (skipSpaces cs)
    match skipSpaces rest with
    | '.' :: rest =>
      let (names, rest) ← readNames? fuel rest
      some (name :: names, rest)
    | rest => some ([name], rest)

/-- A key as the names before its last, its last name, and what follows. -/
def readKey? (cs : List Char) : Option (List String × String × List Char) := do
  let (names, rest) ← readNames? (nestingLimit - 1) cs
  let last ← names.getLast?
  some (names.dropLast, last, rest)

end KeyedBreakers.Toml
