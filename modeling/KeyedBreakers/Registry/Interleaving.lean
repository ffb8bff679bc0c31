import KeyedBreakers.Registry.Basic

/-!
# Resolving calls at the same time

Many threads may call a registry at once. A call is then a sequence of steps between which other
threads may take theirs; what one step does to the registry happens at once. A call looks its key
up, calls the factory without holding anything, settles the instance, and, if the registry keeps
metrics, reads the size and publishes it in two more steps. While a thread is in the factory it may
start a call of its own on the registry, so the calls that a thread is in form a stack.

* `Stage` — how far one call has come;
* `Move` — one step of a thread;
* `System` — a registry with its threads and all that has happened so far;
* `System.step?` — the system after a move, if the thread can make it;
* `System.run?` — the system after a schedule.
-/

namespace KeyedBreakers

/-- How far a call for a key has come. -/
inductive Stage (K : Type) where
  /-- About to look the key up. -/
  | looking (key : K)
  /-- In the factory. -/
  | creating (key : K)
  /-- Back from the factory with an instance. -/
  | settling (breaker : Breaker K)
  /-- About to read the size of the registry. -/
  | measuring (winner : Breaker K)
  /-- About to publish the size that was read. -/
  | publishing (winner : Breaker K) (size : Nat)
  /-- About to return. -/
  | returning (outcome : Outcome K)

/-- One step of a thread. -/
inductive Move (K : Type) where
  /-- Starts a call, whose key is derived at once. -/
  | call (call : Call)
  /-- Starts a call for a key. -/
  | callKey (key : K)
  /-- Asks for the breaker of a key and creates none. -/
  | peek (key : K)
  /-- Looks the key up. -/
  | look
  /-- The factory makes an instance. -/
  | make
  /-- The factory fails. -/
  | fail (cause : String)
  /-- Binds the instance or drops it. -/
  | settle
  /-- Reads the size of the registry. -/
  | measure
  /-- Publishes the size. -/
  | publish
  /-- Returns from the innermost call. -/
  | finish

/-- What has happened in a thread. -/
inductive Signal (K : Type) where
  /-- A call for a key has started. -/
  | began (key : K)
  /-- The innermost call has looked its key up. -/
  | looked (found : Option (Breaker K))
  /-- The innermost call has come out of the factory, with an instance or the reason for none. -/
  | left (product : Except String (Breaker K))
  /-- The innermost call has bound its instance, or dropped it for the breaker found. -/
  | settled (found : Option (Breaker K))
  | occurred (occurrence : Occurrence K)
  /-- The call that started last and has not ended yet has ended. -/
  | ended (outcome : Outcome K)
  /-- A call that has no key has started and ended. -/
  | refused (cause : KeyError)
  /-- A question for the breaker of a key has been answered. -/
  | peeked (key : K) (found : Option (Breaker K))

/-- A registry with the threads that call it. -/
structure System (K : Type) where
  registry : Registry K
  /-- The calls that each thread is in, the innermost first. -/
  threads : Nat → List (Stage K)
  /-- What has happened so far, in order, with the thread that it happened in. -/
  trace : List (Nat × Signal K)

namespace System

variable {K : Type}

/-- A registry that no thread is calling. -/
def idle (r : Registry K) : System K := ⟨r, fun _ => [], []⟩

/-- Whether a thread is in no call, or in the factory; only then can it start one. -/
def canStart : List (Stage K) → Bool
  | [] => true
  | .creating _ :: _ => true
  | _ => false

/-- The system with the calls of a thread and the registry changed and with more that happened. -/
def put (s : System K) (thread : Nat) (r : Registry K) (stages : List (Stage K))
    (signals : List (Signal K)) : System K where
  registry := r
  threads t := if t = thread then stages else s.threads t
  trace := s.trace ++ signals.map fun signal => (thread, signal)

variable [DecidableEq K]

/-- The system after a thread has made a move; none if it cannot make it. -/
def step? (s : System K) (thread : Nat) (move : Move K) : Option (System K) :=
  let r := s.registry
  match move, s.threads thread with
  | .call call, stages =>
    if canStart stages then
      match r.selector call with
      | .error cause =>
        let told := (Registry.toldUnderivable call cause).map Signal.occurred
        some (s.put thread r stages (told ++ [.refused cause]))
      | .ok key => some (s.put thread r (.looking key :: stages) [.began key])
    else none
  | .callKey key, stages =>
    if canStart stages then some (s.put thread r (.looking key :: stages) [.began key]) else none
  | .peek key, stages =>
    if canStart stages then some (s.put thread r stages [.peeked key (r.get? key)]) else none
  | .look, .looking key :: outer =>
    match r.get? key with
    | some breaker =>
      some (s.put thread r (.returning (.ok breaker) :: outer) [.looked (some breaker)])
    | none =>
      some (s.put thread r (.creating key :: outer) [.looked none, .occurred (.entered key)])
  | .make, .creating key :: outer =>
    let (breaker, r) := r.make key
    some (s.put thread r (.settling breaker :: outer) [.left (.ok breaker)])
  | .fail cause, .creating key :: outer =>
    some (s.put thread r (.returning (.error (.creation key cause)) :: outer)
      (.left (.error cause) :: (r.toldFailure key cause).map .occurred))
  | .settle, .settling breaker :: outer =>
    let settled := r.settle breaker
    let next := if r.metered then .measuring settled.winner else .returning (.ok settled.winner)
    some (s.put thread settled.registry (next :: outer)
      (.settled (r.get? breaker.key) :: settled.trace.map .occurred))
  | .measure, .measuring winner :: outer =>
    some (s.put thread r (.publishing winner r.size :: outer) [])
  | .publish, .publishing winner size :: outer =>
    some (s.put thread r (.returning (.ok winner) :: outer) ((r.gauged size).map .occurred))
  | .finish, .returning outcome :: outer => some (s.put thread r outer [.ended outcome])
  | _, _ => none

/-- Who moves next, and how, in order. -/
abbrev Schedule (K : Type) := List (Nat × Move K)

/-- The system after a schedule; none if some thread cannot make its move. -/
def run? (s : System K) (schedule : Schedule K) : Option (System K) :=
  schedule.foldlM (fun s step => s.step? step.1 step.2) s

/-- What has occurred, in order, in whatever thread. -/
def occurrences (s : System K) : List (Occurrence K) :=
  s.trace.filterMap fun
    | (_, .occurred occurrence) => some occurrence
    | _ => none

/-- The outcomes of the calls of a thread, in the order in which they ended. -/
def outcomesOf (s : System K) (thread : Nat) : List (Outcome K) :=
  s.trace.filterMap fun
    | (t, .ended outcome) => if t = thread then some outcome else none
    | (t, .refused cause) => if t = thread then some (.error (.keyDerivation cause)) else none
    | _ => none

end System

end KeyedBreakers
