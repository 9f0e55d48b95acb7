import ReadThrough.Agenda
import ReadThrough.Flight.Calls

/-!
# Timed calls of shared computations

Calls at given times, with computations that take given times.  The result
tells when each call ended and how many computations ran at given times.
-/

namespace ReadThrough.Flight

variable {ρ : Type}

structure TimedCall (ρ : Type) where
  key : String
  start : Nat
  takes : Nat
  result : ρ
  dropAt : Option Nat

/-- How a call ended: with a result, or dropped if there is none. -/
structure TimedEnd (ρ : Type) where
  result : Option ρ
  time : Nat
  deriving DecidableEq, Repr

namespace Timeline

inductive Activity (ρ : Type) where
  /-- Wait for the start of a planned call, and make it. -/
  | start (call : Nat)
  | event (event : Event ρ)
  /-- Wait for a time, and count the running computations. -/
  | probe (time : Nat)

structure State (ρ : Type) where
  calls : Calls ρ
  ends : List (Nat × TimedEnd ρ)
  invoked : List Nat
  probed : List Nat

/-- An activity of a task after a delay, at once if there is none. -/
def after (turn : Turn (Activity ρ)) (delay : Nat) (activity : Activity ρ) :
    Consequence (Activity ρ) :=
  if delay = 0 then .goOn activity else .plan (turn.time + delay) turn.task activity

/-- Note an effect and plan what follows from it.  Every call is a task. -/
def note (plan : List (TimedCall ρ)) (turn : Turn (Activity ρ)) (state : State ρ) :
    Effect ρ → State ρ × List (Consequence (Activity ρ))
  | .invoke call =>
    let completion :=
      match plan[call]? with
      | some planned => [after turn planned.takes (.event (.complete call planned.result))]
      | none => []
    ({ state with invoked := state.invoked ++ [call] }, completion)
  | .wake call => (state, [.plan turn.time call (.event (.resume call))])
  | .finish call result =>
    ({ state with ends := Ordered.put call ⟨some result, turn.time⟩ state.ends }, [])

def noteAll (plan : List (TimedCall ρ)) (turn : Turn (Activity ρ)) (state : State ρ) :
    List (Effect ρ) → State ρ × List (Consequence (Activity ρ))
  | [] => (state, [])
  | effect :: effects =>
    let (state, first) := note plan turn state effect
    let (state, others) := noteAll plan turn state effects
    (state, first ++ others)

def noteDrop (now : Nat) (state : State ρ) : Event ρ → State ρ
  | .drop call =>
    if (Ordered.get? call state.ends).isSome then state
    else { state with ends := Ordered.put call ⟨none, now⟩ state.ends }
  | _ => state

def limitOf (call : Nat) (planned : TimedCall ρ) (turn : Turn (Activity ρ)) :
    List (Consequence (Activity ρ)) :=
  (planned.dropAt.map fun time => .limit (max turn.time time) call (.event (.drop call))).toList

def perform (cancelled : ρ) (plan : List (TimedCall ρ)) (turn : Turn (Activity ρ)) :
    Activity ρ → State ρ → State ρ × List (Consequence (Activity ρ))
  | .start call, state =>
    match plan[call]? with
    | some planned =>
      if turn.time < planned.start then (state, [.plan planned.start call (.start call)])
      else (state, .goOn (.event (.start call planned.key)) :: limitOf call planned turn)
    | none => (state, [])
  | .probe time, state =>
    if turn.time < time then (state, [.plan time turn.task (.probe time)])
    else ({ state with probed := state.probed ++ [state.calls.flight.inFlight] }, [])
  | .event event, state =>
    let (calls, effects) := state.calls.step cancelled event
    noteAll plan turn (noteDrop turn.time { state with calls } event) effects

/-- Make the calls as planned, and count the running computations at the given times. -/
def run (cancelled : ρ) (plan : List (TimedCall ρ)) (probes : List Nat) : State ρ :=
  let calls := (List.range plan.length).map fun call => .plan 0 call (.start call)
  let probes := probes.mapIdx fun index time => .plan 0 (plan.length + index) (.probe time)
  Agenda.run (perform cancelled plan) (6 * plan.length + 2 * probes.length)
    (Agenda.ofList (calls ++ probes)) ⟨.empty, [], [], []⟩

end Timeline

end ReadThrough.Flight
