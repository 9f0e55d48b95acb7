import ReadThrough.Flight.Basic
import ReadThrough.Ordered

/-!
# Calls of shared computations

Any interleaving of calls that start, computations that complete, waiting
calls that take up an outcome, and calls that are dropped.  The outcome of a
computation whose leader is dropped is a given one that tells so.  An event
that does not fit the state of its call changes nothing.
-/

namespace ReadThrough.Flight

variable {ρ : Type}

inductive Status (ρ : Type) where
  /-- Its own computation is running. -/
  | leading (ticket : Nat)
  /-- It waits for the outcome of another call's computation. -/
  | waiting (ticket : Nat)
  | finished (result : ρ)
  | dropped
  deriving DecidableEq, Repr

structure Call (ρ : Type) where
  key : String
  status : Status ρ
  deriving DecidableEq, Repr

/-- The flight and the calls made so far, by their numbers. -/
structure Calls (ρ : Type) where
  flight : Flight ρ
  calls : List (Nat × Call ρ)
  deriving DecidableEq, Repr

inductive Event (ρ : Type) where
  /-- A call for a key is made under a new number. -/
  | start (call : Nat) (key : String)
  /-- The computation of a leading call ends. -/
  | complete (call : Nat) (result : ρ)
  /-- A waiting call takes up the outcome, if it is published. -/
  | resume (call : Nat)
  /-- The caller gives up. -/
  | drop (call : Nat)
  deriving DecidableEq, Repr

inductive Effect (ρ : Type) where
  | invoke (call : Nat)
  | wake (call : Nat)
  | finish (call : Nat) (result : ρ)
  deriving DecidableEq, Repr

namespace Calls

def empty : Calls ρ := ⟨.empty, []⟩

def find? (state : Calls ρ) (call : Nat) : Option (Call ρ) :=
  Ordered.get? call state.calls

def update (state : Calls ρ) (call : Nat) (key : String) (status : Status ρ) : Calls ρ :=
  { state with calls := Ordered.put call ⟨key, status⟩ state.calls }

def waiters (state : Calls ρ) (ticket : Nat) : List Nat :=
  state.calls.filterMap fun (number, call) =>
    match call.status with
    | .waiting other => if other = ticket then some number else none
    | _ => none

def settle (state : Calls ρ) (key : String) (ticket : Nat) (outcome : ρ) :
    Calls ρ × List (Effect ρ) :=
  ({ state with flight := state.flight.settle key ticket outcome },
    (state.waiters ticket).map .wake)

/-- The state after an event; `cancelled` is the outcome of a dropped leader. -/
def step (cancelled : ρ) (state : Calls ρ) : Event ρ → Calls ρ × List (Effect ρ)
  | .start call key =>
    if (state.find? call).isSome then (state, [])
    else
      match state.flight.enter key with
      | (.lead ticket, flight) =>
        ({ state with flight }.update call key (.leading ticket), [.invoke call])
      | (.join ticket, flight) =>
        ({ state with flight }.update call key (.waiting ticket), [])
  | .complete call result =>
    match state.find? call with
    | some ⟨key, .leading ticket⟩ =>
      let (state, woken) := state.settle key ticket result
      (state.update call key (.finished result), .finish call result :: woken)
    | _ => (state, [])
  | .resume call =>
    match state.find? call with
    | some ⟨key, .waiting ticket⟩ =>
      match state.flight.outcome? ticket with
      | some outcome => (state.update call key (.finished outcome), [.finish call outcome])
      | none => (state, [])
    | _ => (state, [])
  | .drop call =>
    match state.find? call with
    | some ⟨key, .leading ticket⟩ =>
      let (state, woken) := state.settle key ticket cancelled
      (state.update call key .dropped, woken)
    | some ⟨key, .waiting _⟩ => (state.update call key .dropped, [])
    | _ => (state, [])

def run (cancelled : ρ) (state : Calls ρ) : List (Event ρ) → Calls ρ × List (Effect ρ)
  | [] => (state, [])
  | event :: events =>
    let (next, effects) := step cancelled state event
    let (final, later) := run cancelled next events
    (final, effects ++ later)

end Calls

end ReadThrough.Flight
