/-!
# TOML values

A document is a table: named values in the order in which they were written. A table remembers what
brought it about, because that decides who may still add to it.
-/

namespace KeyedBreakers

namespace Toml

/-- What brought a table about. -/
inductive Origin where
  /-- A header of its own. -/
  | header
  /-- The header of a table inside it. -/
  | implied
  /-- A dotted key. -/
  | dotted
  /-- Curly brackets; nothing can be added to it later. -/
  | inline
deriving DecidableEq, Repr

end Toml

/-- A value in a document. -/
inductive Toml where
  | text (value : String)
  | integer (value : Int)
  | real (value : Float)
  | flag (value : Bool)
  /-- A date, a time of day, or both. -/
  | moment
  | array (items : List Toml)
  | table (origin : Toml.Origin) (entries : List (String × Toml))
  /-- Tables with one name, each under a header with two brackets. -/
  | tables (elements : List (List (String × Toml)))
deriving Inhabited

/-- Named values in the order in which they were written. -/
abbrev Toml.Entries := List (String × Toml)

end KeyedBreakers
