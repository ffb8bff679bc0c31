import KeyedBreakers.Toml.Basic

/-!
# Adding to tables

Documents add to a table in three ways: by a key with its value, by a header that opens a table, and
by a header with two brackets that opens a further table of its name. Each finds its place by a path
of names from the root.

* `modify` — goes down a path, making the tables that are missing;
* `add?` — a key with its value; the names of a dotted key only lead through tables that no header
  opened and whose brackets are not closed;
* `open?`, `openElement?` — a header; it may open a table that other headers have implied, but not
  one that is open already.
-/

namespace KeyedBreakers.Toml

/-- The value under a name. -/
def Entries.find? (name : String) (es : Entries) : Option Toml :=
  es.lookup name

/-- The entries with another value under a name that has one. -/
def Entries.replace (name : String) (value : Toml) (es : Entries) : Entries :=
  es.map fun e => if e.1 = name then (name, value) else e

/-- The entries without a name. -/
def Entries.without (name : String) (es : Entries) : Entries :=
  es.filter fun e => e.1 ≠ name

/-- Changes the table at the end of a path. Missing tables on the way are made with the origin
`made`; of tables with one name the way leads into the last. -/
def modify (made : Origin) (change : Origin → Entries → Option Entries) :
    (path : List String) → Origin → Entries → Option Entries
  | [], origin, es => change origin es
  | name :: path, _, es =>
    match es.find? name with
    | none => do
      let inner ← modify made change path made []
      some (es ++ [(name, .table made inner)])
    | some (.table origin inner) =>
      if origin = .inline ∨ (made = .dotted ∧ origin = .header) then none
      else do
        let inner ← modify made change path origin inner
        some (es.replace name (.table origin inner))
    | some (.tables elements) => do
      let last ← elements.getLast?
      let inner ← modify made change path .header last
      some (es.replace name (.tables (elements.dropLast ++ [inner])))
    | some _ => none

/-- Adds a value under a dotted key, whose last name is new in its table. -/
def add? (path : List String) (name : String) (value : Toml) (es : Entries) : Option Entries :=
  modify .dotted
    (fun origin inner =>
      if (path ≠ [] ∧ origin ≠ .dotted) ∨ (inner.find? name).isSome then none
      else some (inner ++ [(name, value)]))
    path .header es

/-- A key with its value: the names before the last, the last, and the value. -/
structure Assignment where
  path : List String
  name : String
  value : Toml

/-- Adds assignments one after another. -/
def addAll? (assignments : List Assignment) (es : Entries) : Option Entries :=
  assignments.foldlM (fun es a => add? a.path a.name a.value es) es

/-- Opens the table with the given header and fills it. A table that headers inside it have implied
is taken up, and moves to the end of its parent. -/
def open? (path : List String) (name : String) (fill : Entries → Option Entries) (root : Entries) :
    Option Entries :=
  modify .implied
    (fun _ parent =>
      match parent.find? name with
      | none => do
        let inner ← fill []
        some (parent ++ [(name, .table .header inner)])
      | some (.table .implied inner) => do
        let inner ← fill inner
        some (parent.without name ++ [(name, .table .header inner)])
      | some _ => none)
    path .header root

/-- Opens one more table of the name that a header with two brackets gives, and fills it. -/
def openElement? (path : List String) (name : String) (fill : Entries → Option Entries)
    (root : Entries) : Option Entries :=
  modify .implied
    (fun _ parent =>
      match parent.find? name with
      | none => do
        let inner ← fill []
        some (parent ++ [(name, .tables [inner])])
      | some (.tables elements) => do
        let inner ← fill []
        some (parent.replace name (.tables (elements ++ [inner])))
      | some _ => none)
    path .header root

end KeyedBreakers.Toml
