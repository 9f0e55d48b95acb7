import ReadThrough.Server.Basic

/-!
# Steps of a server

An address is selected when the server starts to open one, and kept until the
server learns, while it serves, that the configuration selects another one.
The server hears of changes from the time on at which its address is open.
-/

namespace ReadThrough.Server

inductive Event where
  | start
  | attempt
  | opened
  | refused
  /-- The time to wait after a refusal is over. -/
  | retry
  | hear
  /-- The server looks whether the node still runs. -/
  | check
  | closed
  deriving DecidableEq, Repr

structure Surroundings where
  running : Bool
  config : Option Config
  deriving Inhabited

def Surroundings.changes (around : Surroundings) : Nat :=
  (around.config.map Config.changes).getD 0

/-- Of how many changes a server knows after it heard something, if there is something to hear. -/
def Surroundings.hear? (around : Surroundings) (seen : Nat) : Option Nat :=
  around.config.bind fun config => config.hear? seen

/-- A server that learned of a change compares its address with the selected one. -/
def compare (server : Server) (around : Surroundings) (seen : Nat) : Server :=
  if server.address = select around.config then
    { server with phase := if around.running then .serving seen else .closing }
  else { server with settled := false, phase := .closing }

/-- The server after an event; one that does not fit its phase changes nothing. -/
def step (around : Surroundings) (server : Server) : Event → Server
  | .start => if server.phase = .idle then { server with phase := .ready } else server
  | .attempt =>
    if server.phase = .ready then
      if !around.running then { server with phase := .stopped }
      else if server.settled then { server with phase := .opening }
      else ⟨select around.config, true, .opening⟩
    else server
  | .opened =>
    if server.phase = .opening then { server with phase := .serving around.changes } else server
  | .refused => if server.phase = .opening then { server with phase := .pausing } else server
  | .retry => if server.phase = .pausing then { server with phase := .ready } else server
  | .hear =>
    match server.phase with
    | .serving seen =>
      match around.hear? seen with
      | some seen => server.compare around seen
      | none => server
    | _ => server
  | .check =>
    match server.phase with
    | .serving _ => if around.running then server else { server with phase := .closing }
    | _ => server
  | .closed => if server.phase = .closing then { server with phase := .ready } else server

/--
What a server does next on its own, where `opens` tells which addresses can be
opened.  It rests while it serves and knows of all changes, while it pauses,
and when it does not run.
-/
def next? (opens : String → Bool) (around : Surroundings) (server : Server) : Option Event :=
  match server.phase with
  | .ready => some .attempt
  | .opening => some (if opens server.address then .opened else .refused)
  | .serving seen =>
    if (around.hear? seen).isSome then some .hear
    else if around.running then none
    else some .check
  | .closing => some .closed
  | .idle | .pausing | .stopped => none

/-- Let a server go on until it rests; `limit` bounds the number of its steps. -/
def settle (opens : String → Bool) (around : Surroundings) : (limit : Nat) → Server → Server
  | 0, server => server
  | limit + 1, server =>
    match next? opens around server with
    | some event => settle opens around limit (step around server event)
    | none => server

/-- A server rests after at most so many steps: it hears, closes, selects, and opens. -/
def stepLimit : Nat := 8

/-- Let a server go on for longer than it pauses after a refusal. -/
def proceed (opens : String → Bool) (around : Surroundings) (server : Server) : Server :=
  settle opens around stepLimit (step around (settle opens around stepLimit server) .retry)

end ReadThrough.Server
