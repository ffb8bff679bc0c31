import KeyedBreakers.Call.Options
import KeyedBreakers.Call.Target
import KeyedBreakers.Json.Basic

/-!
# Calls

A call as a selector sees it: the target, the options it was issued with, the operation it invokes,
and the arguments.
-/

namespace KeyedBreakers

/-- One outgoing remote call. -/
structure Call where
  target : Target
  options : CallOptions := {}
  operation : String
  arguments : List Json := []

end KeyedBreakers
