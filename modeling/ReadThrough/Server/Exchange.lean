import ReadThrough.Cluster.Simulation
import ReadThrough.Server.Dispatch

/-!
# Exchanges with a server

A request at a node of a cluster is answered at once, or with the outcome of a
call in one of the groups once this call ends.  Until then the server goes on,
and other requests are received and answered.
-/

namespace ReadThrough.Server

open Cluster (Simulation)

inductive Answer where
  | response (response : Http.Response)
  | statistics (statistics : Statistics)

def Answer.ofOutcome (outcome : Outcome) : Answer := .response (outcomeResponse outcome)

/--
A request at a node; `pool` is the pool of the node, and `registered` tells
whether the node has a registry.
-/
structure Request where
  node : Nat
  pool : Option Peer.Pool
  registered : Bool
  method : String
  target : String

namespace Request

def path (request : Request) : String :=
  ((Http.Uri.parse? request.target).map Http.Uri.path).getD ""

def action (request : Request) (cluster : Cluster) : Action :=
  dispatch request.pool (if request.registered then some (cluster.groupsOf request.node) else none)
    request.method request.path

def lookUp (request : Request) (forPeer : Bool) (target : Http.Target) : Cluster.Event :=
  if forPeer then .getForPeer request.node target.group target.key
  else .get request.node target.group target.key

end Request

/-- A cluster with the requests that its nodes have received so far. -/
structure Exchange where
  cluster : Cluster
  /-- The numbers of the requests by the calls that were made for them. -/
  requests : List (Nat × Nat)
  received : Nat

structure Exchange.Progress where
  next : Exchange
  effects : List Cluster.Effect
  answers : List (Nat × Answer)

namespace Exchange

def answer? (requests : List (Nat × Nat)) : Cluster.Effect → Option (Nat × Answer)
  | .finish call outcome =>
    (Ordered.get? call requests).map fun request => (request, .ofOutcome outcome)
  | .fetch .. | .load .. | .reply _ | .wake _ | .log _ => none

/-- The cluster has gone on, and the requests whose calls have ended are answered. -/
def goOn (exchange : Exchange) (result : Cluster × List Cluster.Effect) : Progress where
  next := { exchange with cluster := result.1 }
  effects := result.2
  answers := result.2.filterMap (answer? exchange.requests)

/-- Receive a request, which gets the next number. -/
def receive (exchange : Exchange) (request : Request) : Progress :=
  let number := exchange.received
  let next := { exchange with received := number + 1 }
  match request.action exchange.cluster with
  | .respond response => ⟨next, [], [(number, .response response)]⟩
  | .report statistics => ⟨next, [], [(number, .statistics statistics)]⟩
  | .lookUp forPeer target =>
    { next with
      requests := Ordered.put exchange.cluster.issued number exchange.requests }.goOn
        (exchange.cluster.step (request.lookUp forPeer target))

end Exchange

/--
Answer a request in a simulated cluster, in which nothing happens besides; there
is no answer yet if the call of the request goes on after that.
-/
def exchange (simulation : Simulation) (request : Request) : Simulation × Option Answer :=
  match request.action simulation.cluster with
  | .respond response => (simulation, some (.response response))
  | .report statistics => (simulation, some (.statistics statistics))
  | .lookUp forPeer target =>
    let (next, ended, _) := simulation.call request.node target.group target.key forPeer
    (next, (ended.bind Cluster.TimedEnd.outcome).map Answer.ofOutcome)

end ReadThrough.Server
