/-!
# JSON values

The arguments of a call are JSON values, and a configuration may be given as one. Whole numbers are
kept apart from fractions. The members of an object are a plain list; what they mean does not depend
on their order, and of two members with one name the later one counts.
-/

namespace KeyedBreakers

/-- A JSON value. -/
inductive Json where
  | null
  | flag (value : Bool)
  | integer (value : Int)
  | real (value : Float)
  | text (value : String)
  | array (items : List Json)
  | object (members : List (String × Json))
deriving Inhabited

namespace Json

/-- The value of the last member with the given name. -/
def member? (name : String) : Json → Option Json
  | object members => members.reverse.lookup name
  | _ => none

end Json

end KeyedBreakers
