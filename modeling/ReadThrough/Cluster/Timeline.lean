import ReadThrough.Agenda
import ReadThrough.Cluster.Step
import ReadThrough.Group.Hosted

/-!
# Timed calls in a cluster

Calls at given times, with data sources and ways between the nodes that take
given times.  The result tells when each call ended, what was reported, which
fetches were begun and for which keys a data source was reached.
-/

namespace ReadThrough.Cluster

/-- What lies around the groups of a cluster. -/
structure Surroundings where
  /-- The data sources by the numbers of the groups. -/
  sources : List Source
  /-- What an address outside of the cluster answers for a group and a key, and after how long. -/
  outside : String → Http.Target → Option (Nat × Except Causes Bytes)
  /-- The milliseconds that a fetch takes to another node. -/
  latency : Nat

structure TimedCall where
  node : Nat
  group : String
  key : String
  /-- Whether the call is made by another node. -/
  forPeer : Bool
  start : Nat
  dropAt : Option Nat
  deriving DecidableEq, Repr

/-- How a call ended: with an outcome, or dropped if there is none. -/
structure TimedEnd where
  outcome : Option Outcome
  time : Nat
  deriving DecidableEq

namespace Timeline

inductive Activity where
  /-- Wait for the start of a planned call, and make it. -/
  | start (index : Nat)
  | drop (index : Nat)
  /-- The lookup of a data source for a call ends. -/
  | lookUp (call member : Nat) (key : String)
  | event (event : Event)
  deriving DecidableEq

structure State where
  cluster : Cluster
  /-- The numbers of the planned calls, by the numbers that the cluster gave them. -/
  planned : List (Nat × Nat)
  ends : List (Nat × TimedEnd)
  departures : List (Nat × Nat)
  logs : List Log
  /-- The address, the group and the key of each fetch. -/
  fetched : List (String × String × String)
  /-- The keys for which a data source was reached. -/
  lookedUp : List String

def State.start (cluster : Cluster) : State := ⟨cluster, [], [], [], [], [], []⟩

def State.noteEnd (state : State) (index : Nat) (ended : TimedEnd) : State :=
  if (Ordered.get? index state.ends).isSome then state
  else { state with ends := Ordered.put index ended state.ends }

/-- The planned call to which a call belongs: the call itself, or the one whose fetch it answers. -/
def State.taskOf (state : State) (call : Nat) : Option Nat :=
  match Ordered.get? call state.cluster.calls with
  | some ⟨_, some fetcher⟩ => Ordered.get? fetcher state.planned
  | _ => Ordered.get? call state.planned

/-- An activity of a task after a delay, at once if there is none. -/
def after (turn : Turn Activity) (delay : Nat) (activity : Activity) : Consequence Activity :=
  if delay = 0 then .goOn activity else .plan (turn.time + delay) turn.task activity

/-- Note an effect and plan what follows from it.  Every planned call is a task. -/
def note (around : Surroundings) (turn : Turn Activity) (state : State) :
    Effect → State × List (Consequence Activity)
  | .fetch call address group key =>
    let next :=
      { state with
        departures := Ordered.put call turn.time state.departures
        fetched := state.fetched ++ [(address, group, key)] }
    match around.outside address ⟨group, key⟩ with
    | some (delay, result) => (next, [after turn delay (.event (.respond call result))])
    | none => (next, [after turn around.latency (.event (.arrive call))])
  | .load call member key =>
    let source := around.sources[member]?.getD .empty
    (state, [after turn (source.delayOf key) (.lookUp call member key)])
  | .reply call =>
    let start := (Ordered.get? call state.departures).getD turn.time
    (state, [.goOn (.event (.receive call (.ofMilliseconds (turn.time - start))))])
  | .wake call =>
    (state, ((state.taskOf call).map fun task =>
      .plan turn.time task (.event (.resume call))).toList)
  | .finish call outcome =>
    match Ordered.get? call state.planned with
    | some index => (state.noteEnd index ⟨some outcome, turn.time⟩, [])
    | none => (state, [])
  | .log entry => ({ state with logs := state.logs ++ [entry] }, [])

def noteAll (around : Surroundings) (turn : Turn Activity) (state : State) :
    List Effect → State × List (Consequence Activity)
  | [] => (state, [])
  | effect :: effects =>
    let (next, first) := note around turn state effect
    let (final, others) := noteAll around turn next effects
    (final, first ++ others)

def happen (around : Surroundings) (turn : Turn Activity) (state : State) (event : Event) :
    State × List (Consequence Activity) :=
  let (cluster, effects) := state.cluster.step event
  noteAll around turn { state with cluster } effects

def eventOf (call : TimedCall) : Event :=
  if call.forPeer then .getForPeer call.node call.group call.key
  else .get call.node call.group call.key

def limitOf (index : Nat) (call : TimedCall) (turn : Turn Activity) :
    List (Consequence Activity) :=
  (call.dropAt.map fun time => .limit (max turn.time time) index (.drop index)).toList

def perform (around : Surroundings) (plan : List TimedCall) (turn : Turn Activity) :
    Activity → State → State × List (Consequence Activity)
  | .start index, state =>
    match plan[index]? with
    | some call =>
      if turn.time < call.start then (state, [.plan call.start index (.start index)])
      else
        let (next, consequences) :=
          happen around turn
            { state with planned := Ordered.put state.cluster.issued index state.planned }
            (eventOf call)
        (next, consequences ++ limitOf index call turn)
    | none => (state, [])
  | .drop index, state =>
    match state.planned.find? fun entry => entry.2 = index with
    | some (call, _) =>
      happen around turn (state.noteEnd index ⟨none, turn.time⟩) (.drop call)
    | none => (state, [])
  | .lookUp call member key, state =>
    if (Ordered.get? call state.cluster.calls).isSome then
      let source := around.sources[member]?.getD .empty
      happen around turn { state with lookedUp := state.lookedUp ++ [key] }
        (.loaded call (source.lookup key))
    else (state, [])
  | .event event, state => happen around turn state event

/-- Each call takes part in at most this many activities, with those of the call it fetches by. -/
def activityLimit : Nat := 16

def run (around : Surroundings) (cluster : Cluster) (plan : List TimedCall) : State :=
  let tasks := (List.range plan.length).map fun index => .plan 0 index (.start index)
  Agenda.run (perform around plan) (activityLimit * plan.length) (Agenda.ofList tasks)
    (.start cluster)

end Timeline

end ReadThrough.Cluster
