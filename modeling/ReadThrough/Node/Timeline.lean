import ReadThrough.Node.Basic

/-!
# Nodes in virtual time

The file of the configuration is looked at in regular intervals.  When the node
has stopped this happens once more.
-/

namespace ReadThrough.Node

/-- Let time pass in which the file is not looked at. -/
def waitUntil (node : Node) (time : Nat) : Node :=
  { node with
    now := time
    peers := node.peers.waitUntil node.running time }

/-- Look at the file at the planned time, and let the pool hear what changed. -/
def watch (node : Node) (time : Nat) : Node × List Log :=
  let node := (node.waitUntil time).reloadFile.1
  { node with watchAt := if node.running then some (time + watchInterval) else none }.hear

/-- Let time pass until the given time; `limit` bounds how often the file is looked at. -/
def passUntil (time : Nat) : (limit : Nat) → Node → Node × List Log
  | 0, node => (node.waitUntil time, [])
  | limit + 1, node =>
    match node.watchAt with
    | some due =>
      if due ≤ time then
        let (next, first) := node.watch due
        let (final, others) := passUntil time limit next
        (final, first ++ others)
      else (node.waitUntil time, [])
    | none => (node.waitUntil time, [])

def pass (node : Node) (milliseconds : Nat) : Node × List Log :=
  node.passUntil (node.now + milliseconds) (milliseconds / watchInterval + 1)

/-- Let the server go on for longer than it pauses, where `opens` tells what can be opened. -/
def serve (node : Node) (opens : String → Bool) : Node :=
  { node with server := node.server.proceed opens node.surroundings }

end ReadThrough.Node
