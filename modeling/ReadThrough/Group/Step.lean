import ReadThrough.Group.Basic
import ReadThrough.Log

/-!
# Steps of a group

A group reacts to calls, to the answers of other nodes and of its data source,
and to callers that give up.  Between two such events nothing happens, so a
sequence of events is an interleaving of the calls.  An event that does not fit
the stage of its call changes nothing.
-/

namespace ReadThrough.Group

inductive Event where
  /-- A client asks for the value of a key under a new call number. -/
  | get (call : Nat) (key : String)
  /-- Another node asks for the value of a key under a new call number. -/
  | getForPeer (call : Nat) (key : String)
  /-- The node that was asked answers after some time. -/
  | fetched (call : Nat) (elapsed : Span) (result : Except Causes Bytes)
  | loaded (call : Nat) (result : Except Causes Bytes)
  /-- A waiting call takes up the outcome, if it is published. -/
  | resume (call : Nat)
  /-- The caller gives up. -/
  | drop (call : Nat)
  deriving DecidableEq

inductive Effect where
  | fetch (call : Nat) (address key : String)
  | load (call : Nat) (key : String)
  | wake (call : Nat)
  | finish (call : Nat) (outcome : Outcome)
  | log (entry : Log)
  deriving DecidableEq

/-- Chooses the address of the node to which a key belongs, and reports on it. -/
abbrev Choice := String → Option String × List Log

def report (group : Group) (message : String) : Effect :=
  .log (.debug ("[" ++ group.name ++ "] " ++ message))

def lookupWaiters (group : Group) (ticket : Nat) : List Nat :=
  group.callers.filterMap fun (call, caller) =>
    match caller.stage with
    | .joined other => if other = ticket then some call else none
    | _ => none

def sourceWaiters (group : Group) (ticket : Nat) : List Nat :=
  group.callers.filterMap fun (call, caller) =>
    match caller.stage with
    | .waiting _ other => if other = ticket then some call else none
    | _ => none

/-- Publish the outcome of a lookup, if the call leads one. -/
def settleLookup (group : Group) (key : String) (outcome : Outcome) :
    Option Nat → Group × List Effect
  | none => (group, [])
  | some ticket =>
    ({ group with lookups := group.lookups.settle key ticket outcome },
      (group.lookupWaiters ticket).map .wake)

def settleSource (group : Group) (key : String) (ticket : Nat) (outcome : Outcome) :
    Group × List Effect :=
  ({ group with sourceRuns := group.sourceRuns.settle key ticket outcome },
    (group.sourceWaiters ticket).map .wake)

/-- End a call that leads a lookup, if any. -/
def finish (group : Group) (call : Nat) (key : String) (lookup : Option Nat) (outcome : Outcome) :
    Group × List Effect :=
  let (settled, woken) := (group.forget call).settleLookup key outcome lookup
  (settled, .finish call outcome :: woken)

/-- Take part in the run of the data source for a key, or start one. -/
def loadLocally (group : Group) (call : Nat) (key : String) (lookup : Option Nat) :
    Group × List Effect :=
  match group.sourceRuns.enter key with
  | (.join ticket, _) => (group.setStage call key (.waiting lookup ticket), [])
  | (.lead ticket, sourceRuns) =>
    ({ group with
        sourceRuns
        localLoads := group.localLoads + 1 }.setStage call key (.loading lookup ticket),
      [group.report ("invoking getter for " ++ key), .load call key])

/-- Begin a lookup, with the node to which the key belongs or with the data source. -/
def beginLookup (choose : Choice) (group : Group) (call : Nat) (key : String) (ticket : Nat) :
    Group × List Effect :=
  let (address?, reports) := if group.attached then choose key else (none, [])
  match address? with
  | some address =>
    (group.setStage call key (.fetching ticket address),
      reports.map .log ++
        [group.report ("fetching " ++ key ++ " from " ++ address), .fetch call address key])
  | none =>
    let (next, effects) := group.loadLocally call key (some ticket)
    (next, reports.map .log ++ effects)

def lookUp (choose : Choice) (group : Group) (call : Nat) (key : String) :
    Group × List Effect :=
  match group.lookups.enter key with
  | (.join ticket, _) => (group.setStage call key (.joined ticket), [])
  | (.lead ticket, lookups) => beginLookup choose { group with lookups } call key ticket

/-- Answer from the cache, or go on in the given way. -/
def readThrough (group : Group) (call : Nat) (key note : String)
    (missing : Group → Group × List Effect) : Group × List Effect :=
  if (group.caller? call).isSome then (group, [])
  else if key.isEmpty then (group, [.finish call (.error .invalidKey)])
  else
    match group.cache.get key with
    | (some value, cache) =>
      ({ group with cache },
        [group.report ("cache hit for " ++ key ++ note), .finish call (.ok value)])
    | (none, cache) => missing { group with cache }

def fetchReport (group : Group) (key address : String) (causes : Causes) : Effect :=
  .log (.warn ("[" ++ group.name ++ "] failed to fetch " ++ key ++ " from " ++ address ++ ": " ++
    (LoadError.remote causes).message ++ ". Loading locally..."))

/-- The group after the data source gave a value, which it keeps, or an error. -/
def keep (group : Group) (key : String) : Except Causes Bytes → Group × Outcome
  | .ok value => ({ group with cache := (group.cache.put key value).1 }, .ok value)
  | .error causes => (group, .error (.source (.reported causes)))

def step (choose : Choice) (group : Group) : Event → Group × List Effect
  | .get call key => group.readThrough call key "" fun group => group.lookUp choose call key
  | .getForPeer call key =>
    group.readThrough call key " (peer request)" fun group => group.loadLocally call key none
  | .fetched call elapsed result =>
    match group.caller? call with
    | some ⟨key, .fetching ticket address⟩ =>
      let timed := { group with latency := group.latency.addSpan elapsed }
      match result with
      | .ok value =>
        { timed with peerLoads := timed.peerLoads + 1 }.finish call key (some ticket) (.ok value)
      | .error causes =>
        let failed := { timed with peerErrors := timed.peerErrors + 1 }
        let (next, effects) := failed.loadLocally call key (some ticket)
        (next, group.fetchReport key address causes :: effects)
    | _ => (group, [])
  | .loaded call result =>
    match group.caller? call with
    | some ⟨key, .loading lookup ticket⟩ =>
      let (kept, outcome) := group.keep key result
      let (settled, woken) := kept.settleSource key ticket outcome
      let (next, effects) := settled.finish call key lookup outcome
      (next, woken ++ effects)
    | _ => (group, [])
  | .resume call =>
    match group.caller? call with
    | some ⟨key, .joined ticket⟩ =>
      match group.lookups.outcome? ticket with
      | some outcome => group.finish call key none outcome
      | none => (group, [])
    | some ⟨key, .waiting lookup ticket⟩ =>
      match group.sourceRuns.outcome? ticket with
      | some outcome => group.finish call key lookup outcome
      | none => (group, [])
    | _ => (group, [])
  | .drop call =>
    let cancelled : Outcome := .error .cancelled
    match group.caller? call with
    | some ⟨_, .joined _⟩ => (group.forget call, [])
    | some ⟨key, .fetching ticket _⟩ =>
      (group.forget call).settleLookup key cancelled (some ticket)
    | some ⟨key, .waiting lookup _⟩ => (group.forget call).settleLookup key cancelled lookup
    | some ⟨key, .loading lookup ticket⟩ =>
      let (settled, woken) := (group.forget call).settleSource key ticket cancelled
      let (next, more) := settled.settleLookup key cancelled lookup
      (next, woken ++ more)
    | none => (group, [])

end ReadThrough.Group
