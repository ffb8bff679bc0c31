import KeyedBreakers.Toml.Value

/-!
# Documents

A document is read as a list of sections: the assignments before the first header, and then each
header with the assignments under it. The tables are built from the sections in a second pass; what
no table can take in is no document.
-/

namespace KeyedBreakers.Toml

open KeyedBreakers.Text

/-- What starts a section. -/
inductive Header where
  /-- The start of the document. -/
  | start
  | table (path : List String) (name : String)
  | element (path : List String) (name : String)

/-- A header with the assignments up to the next. -/
structure Section where
  header : Header
  assignments : List Assignment

/-! ### Reading -/

/-- A line with a header, and what follows it. -/
def readHeader? : List Char → Option (Header × List Char)
  | '[' :: '[' :: rest => do
    let (path, name, rest) ← readKey? rest
    let ']' :: ']' :: rest := rest | none
    let rest ← lineEnd? rest
    some (.element path name, rest)
  | '[' :: rest => do
    let (path, name, rest) ← readKey? rest
    let ']' :: rest := rest | none
    let rest ← lineEnd? rest
    some (.table path name, rest)
  | _ => none

/-- A line with an assignment, and what follows it. -/
def readLineAssignment? (cs : List Char) : Option (Assignment × List Char) := do
  let (assignment, rest) ← readAssignment? (readValue? (nestingLimit - 1)) cs
  let rest ← lineEnd? rest
  some (assignment, rest)

/-- The sections of the remaining lines. The first has `header` and starts with `done`, which holds
its assignments so far in reverse. -/
def readSections? (header : Header) (done : List Assignment) :
    (fuel : Nat) → List Char → Option (List Section)
  | 0, _ => none
  | fuel + 1, cs =>
    match skipSpacing cs with
    | [] => some [⟨header, done.reverse⟩]
    | '[' :: rest => do
      let (next, rest) ← readHeader? ('[' :: rest)
      let sections ← readSections? next [] fuel rest
      some (⟨header, done.reverse⟩ :: sections)
    | rest => do
      let (assignment, rest) ← readLineAssignment? rest
      readSections? header (assignment :: done) fuel rest

/-! ### Building -/

/-- The root table with one more section. -/
def addSection? (root : Entries) (s : Section) : Option Entries :=
  match s.header with
  | .start => addAll? s.assignments root
  | .table path name => open? path name (addAll? s.assignments) root
  | .element path name => openElement? path name (addAll? s.assignments) root

/-- The text without a byte order mark in front. -/
def withoutMark : List Char → List Char
  | '\uFEFF' :: rest => rest
  | cs => cs

/-- The root table of the document that a text is. -/
def parse? (text : String) : Option Entries := do
  let cs := withoutMark text.toList
  let sections ← readSections? .start [] (cs.length + 1) cs
  sections.foldlM addSection? []

end KeyedBreakers.Toml
