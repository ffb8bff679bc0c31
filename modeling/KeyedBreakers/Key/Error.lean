/-!
# Why a call has no key
-/

namespace KeyedBreakers

/-- Why no key can be derived from a call. -/
inductive KeyError where
  /-- The target has no host, as the address of a local socket has none. -/
  | missingHost (target : String)
  /-- The name of the operation is empty. -/
  | missingOperation
  /-- A selector of the caller's own refuses the call. -/
  | custom (cause : String)
deriving DecidableEq, Repr

namespace KeyError

/-- What is said of a call without a key. -/
def message : KeyError → String
  | missingHost target => "call target '" ++ target ++ "' has no host"
  | missingOperation => "call has an empty operation name"
  | custom cause => "key derivation failed: " ++ cause

/-- The texts of the errors behind this one, outermost first. -/
def sources : KeyError → List String
  | custom cause => [cause]
  | _ => []

end KeyError

end KeyedBreakers
