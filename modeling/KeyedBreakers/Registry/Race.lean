import KeyedBreakers.Registry.Interleaving

/-!
# Races

A number of threads make the same call at once. All that find no breaker for its key are in the
factory before the first of them leaves it; then they leave one after another. Whatever the order,
one instance is bound, and all whose factory call succeeds get it.
-/

namespace KeyedBreakers

namespace System

variable {K : Type} [DecidableEq K]

/-- The next move of a thread that is in a call, if its factory calls end as `failure` says. -/
def nextMove? (failure : Option String) : List (Stage K) → Option (Move K)
  | [] => none
  | .looking _ :: _ => some .look
  | .creating _ :: _ =>
    match failure with
    | some cause => some (.fail cause)
    | none => some .make
  | .settling _ :: _ => some .settle
  | .measuring _ :: _ => some .measure
  | .publishing .. :: _ => some .publish
  | .returning _ :: _ => some .finish

/-- The system after the next move of a thread; as before if the thread is in no call. -/
def advance (failure : Option String) (s : System K) (thread : Nat) : System K :=
  ((nextMove? failure (s.threads thread)).bind (s.step? thread)).getD s

/-- The system after the given threads have started a call. -/
def startAll (s : System K) (threads : List Nat) (call : Call) : System K :=
  threads.foldl (fun s t => (s.step? t (.call call)).getD s) s

/-- The threads in the order in which they move after the start of a race: each looks the key up,
and then each makes its other moves, of which there are five at most. -/
def raceOrder (count : Nat) : List Nat :=
  List.range count ++ (List.range count).flatMap (List.replicate 5)

end System

/-- The system after a race of `count` threads. -/
def Registry.race {K : Type} [DecidableEq K] (r : Registry K) (count : Nat) (call : Call)
    (failure : Option String) : System K :=
  (System.raceOrder count).foldl (System.advance failure)
    ((System.idle r).startAll (List.range count) call)

end KeyedBreakers
