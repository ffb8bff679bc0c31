import KeyedBreakers.Text.Directory

/-!
# Options of a call

A call may carry a response timeout and named attributes, such as the tenant it is made for. A
registry never reads them; a selector may. Options are built by steps, and only the last step for
each thing counts: the attributes are a directory, so equal options are equal values.

A timeout is kept to the nanosecond. Callers that count in milliseconds set and read it in those.
-/

namespace KeyedBreakers

open KeyedBreakers.Text

/-- A span of time: whole seconds and, of a further second, some nanoseconds. -/
structure Duration where
  seconds : UInt64
  nanoseconds : Fin 1000000000
deriving DecidableEq, Repr

namespace Duration

/-- The span of so many milliseconds. -/
def ofMilliseconds (n : Nat) : Duration :=
  ⟨.ofNat (n / 1000), ⟨n % 1000 * 1000000, by omega⟩⟩

/-- The whole milliseconds of a span. -/
def milliseconds (d : Duration) : Nat :=
  d.seconds.toNat * 1000 + d.nanoseconds.val / 1000000

end Duration

/-- The options that a call was issued with. -/
structure CallOptions where
  /-- How long the caller wants to wait for the response. -/
  responseTimeout : Option Duration := none
  /-- Free-form attributes by name. -/
  attributes : Directory String := ∅
deriving DecidableEq, Inhabited

namespace CallOptions

/-- One step in building options. -/
inductive Step where
  | responseTimeout (duration : Duration)
  | attribute (name value : String)
deriving DecidableEq, Repr

/-- The step that sets the timeout to so many milliseconds. -/
def Step.timeout (milliseconds : Nat) : Step :=
  .responseTimeout (.ofMilliseconds milliseconds)

/-- The options after one more step. -/
def apply (options : CallOptions) : Step → CallOptions
  | .responseTimeout duration => { options with responseTimeout := some duration }
  | .attribute name value => { options with attributes := options.attributes.insert name value }

/-- The options that a list of steps builds from nothing. -/
def build (steps : List Step) : CallOptions :=
  steps.foldl apply {}

/-- The value of an attribute. -/
def attribute? (options : CallOptions) (name : String) : Option String :=
  options.attributes.find? name

/-- The timeout in whole milliseconds. -/
def timeout (options : CallOptions) : Option Nat :=
  options.responseTimeout.map Duration.milliseconds

/-! ### What one step shows -/

@[simp] theorem responseTimeout_apply_responseTimeout (o : CallOptions) (d : Duration) :
    (o.apply (.responseTimeout d)).responseTimeout = some d := rfl

@[simp] theorem responseTimeout_apply_attribute (o : CallOptions) (name value : String) :
    (o.apply (.attribute name value)).responseTimeout = o.responseTimeout := rfl

@[simp] theorem attribute?_apply_responseTimeout (o : CallOptions) (d : Duration) (name : String) :
    (o.apply (.responseTimeout d)).attribute? name = o.attribute? name := rfl

@[simp] theorem attribute?_apply_attribute (o : CallOptions) (name value k : String) :
    (o.apply (.attribute name value)).attribute? k =
      if k = name then some value else o.attribute? k :=
  Directory.find?_insert o.attributes name k value

end CallOptions

end KeyedBreakers
