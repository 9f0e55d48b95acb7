import ReadThrough.Cluster.Basic

/-!
# Steps of a cluster

A fetch travels to an address, is answered there by a call of its own, and
brings the answer back.  Such a call never asks another node.  What the data
sources and nodes outside of the cluster answer, and when, is up to the events.
-/

namespace ReadThrough.Cluster

/-- What happens next.  New calls get the next number. -/
inductive Event where
  | get (node : Nat) (group key : String)
  /-- A node outside of the cluster asks a node for a key of a group. -/
  | getForPeer (node : Nat) (group key : String)
  /-- The fetch of a call reaches its address. -/
  | arrive (call : Nat)
  /-- Somebody outside of the cluster answers the fetch of a call. -/
  | respond (call : Nat) (result : Except Causes Bytes)
  /-- The answer to the fetch of a call comes back, so long after its start. -/
  | receive (call : Nat) (elapsed : Span)
  | loaded (call : Nat) (result : Except Causes Bytes)
  /-- A waiting call takes up the outcome, if it is published. -/
  | resume (call : Nat)
  /-- The caller gives up. -/
  | drop (call : Nat)
  deriving DecidableEq

inductive Effect where
  | fetch (call : Nat) (address group key : String)
  | load (call member : Nat) (key : String)
  | reply (call : Nat)
  /-- The outcome for which a call waits is published. -/
  | wake (call : Nat)
  | finish (call : Nat) (outcome : Outcome)
  | log (entry : Log)
  deriving DecidableEq

/-- How a node presents an outcome to the node that asked for it. -/
def present : Outcome → Except Causes Bytes
  | .ok value => .ok value
  | .error error => .error ["server returned: " ++ error.message]

def setTransit (cluster : Cluster) (call : Nat) (transit : Transit) : Cluster :=
  { cluster with transits := Ordered.put call transit cluster.transits }

def forget (cluster : Cluster) (call : Nat) : Cluster :=
  { cluster with
    calls := cluster.calls.filter fun entry => entry.1 ≠ call
    transits := cluster.transits.filter fun entry => entry.1 ≠ call }

def answer (cluster : Cluster) (call : Nat) (result : Except Causes Bytes) :
    Cluster × List Effect :=
  (cluster.setTransit call (.answered result), [.reply call])

/-- A call has ended: the fetch that it answers goes on, or its client gets the outcome. -/
def conclude (cluster : Cluster) (call : Nat) (outcome : Outcome) : Cluster × List Effect :=
  match Ordered.get? call cluster.calls with
  | some ⟨_, some fetcher⟩ => (cluster.forget call).answer fetcher (present outcome)
  | _ => (cluster.forget call, [.finish call outcome])

/-- Carry out what an event brought about in the group of the given number. -/
def absorb (member : Nat) (cluster : Cluster) : Group.Effect → Cluster × List Effect
  | .fetch call address key =>
    match cluster.members[member]? with
    | some home =>
      (cluster.setTransit call (.travelling address home.group.name key),
        [.fetch call address home.group.name key])
    | none => (cluster, [])
  | .load call key => (cluster, [.load call member key])
  | .wake call => (cluster, [.wake call])
  | .finish call outcome => cluster.conclude call outcome
  | .log entry => (cluster, [.log entry])

def absorbAll (member : Nat) (cluster : Cluster) :
    List Group.Effect → Cluster × List Effect
  | [] => (cluster, [])
  | effect :: effects =>
    let (next, first) := absorb member cluster effect
    let (final, others) := absorbAll member next effects
    (final, first ++ others)

def choiceOf (cluster : Cluster) (home : Member) : Group.Choice :=
  match cluster.nodes[home.node]? with
  | some node => node.picker.choose
  | none => fun _ => (none, [])

def stepMember (cluster : Cluster) (member : Nat) (event : Group.Event) :
    Cluster × List Effect :=
  match cluster.members[member]? with
  | some home =>
    let (group, effects) := home.group.step (cluster.choiceOf home) event
    absorbAll member
      { cluster with members := cluster.members.set member { home with group } } effects
  | none => (cluster, [])

def stepCall (cluster : Cluster) (call : Nat) (event : Group.Event) : Cluster × List Effect :=
  match Ordered.get? call cluster.calls with
  | some info => cluster.stepMember info.member event
  | none => (cluster, [])

def begin (cluster : Cluster) (member : Nat) (fetcher : Option Nat)
    (event : Nat → Group.Event) : Cluster × List Effect :=
  let call := cluster.issued
  { cluster with
      calls := Ordered.put call ⟨member, fetcher⟩ cluster.calls
      issued := call + 1 }.stepMember member (event call)

/-- Make a call from outside; a node without the group has no value. -/
def request (cluster : Cluster) (node : Nat) (group : String)
    (event : Nat → Group.Event) : Cluster × List Effect :=
  match cluster.find? node group with
  | some member => cluster.begin member none event
  | none =>
    ({ cluster with issued := cluster.issued + 1 },
      [.finish cluster.issued (.error (.unknownGroup group))])

/-- The number of the node with an address. -/
def nodeAt? (cluster : Cluster) (address : String) : Option Nat :=
  cluster.nodes.findIdx? fun node => node.picker.self? == some address

/-- The fetch of a call has reached an address. -/
def serve (cluster : Cluster) (fetcher : Nat) (address group key : String) :
    Cluster × List Effect :=
  if cluster.down.contains address then
    cluster.answer fetcher (.error [address ++ " is down"])
  else
    match cluster.nodeAt? address with
    | none => cluster.answer fetcher (.error [address ++ " is unknown"])
    | some node =>
      match cluster.find? node group with
      | none => cluster.answer fetcher (present (.error (.unknownGroup group)))
      | some member =>
        (cluster.setTransit fetcher (.serving cluster.issued)).begin member (some fetcher)
          fun call => .getForPeer call key

def abandon (cluster : Cluster) (call : Nat) : Cluster × List Effect :=
  let (next, effects) := cluster.stepCall call (.drop call)
  (next.forget call, effects)

def step (cluster : Cluster) : Event → Cluster × List Effect
  | .get node group key => cluster.request node group fun call => .get call key
  | .getForPeer node group key => cluster.request node group fun call => .getForPeer call key
  | .arrive call =>
    match Ordered.get? call cluster.transits with
    | some (.travelling address group key) => cluster.serve call address group key
    | _ => (cluster, [])
  | .respond call result =>
    match Ordered.get? call cluster.transits with
    | some (.travelling _ _ _) => cluster.answer call result
    | _ => (cluster, [])
  | .receive call elapsed =>
    match Ordered.get? call cluster.transits with
    | some (.answered result) =>
      { cluster with transits := cluster.transits.filter fun entry => entry.1 ≠ call }.stepCall
        call (.fetched call elapsed result)
    | _ => (cluster, [])
  | .loaded call result => cluster.stepCall call (.loaded call result)
  | .resume call => cluster.stepCall call (.resume call)
  | .drop call =>
    match Ordered.get? call cluster.transits with
    | some (.serving answering) =>
      let (next, first) := cluster.abandon answering
      let (final, others) := next.abandon call
      (final, first ++ others)
    | _ => cluster.abandon call

end ReadThrough.Cluster
