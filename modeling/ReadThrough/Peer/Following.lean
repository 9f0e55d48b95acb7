import ReadThrough.Config.Basic
import ReadThrough.Peer.Pool

/-!
# Pools that follow the configuration

A pool is set up from the configuration of the node and takes over each change
of it.  A configuration with invalid settings leaves the pool as it is.  The
listener of the pool wakes up for a message or after some time at the latest,
and then looks whether the node still runs.  Settings on which their reader
stops end the listener.
-/

namespace ReadThrough.Peer

def refusalReport (error : SettingsError) : Log :=
  .error ("Failed to apply the peer settings: " ++ error.causes.text ++
    ". Keeping the current membership.")

/-- Take over the settings in a configuration; there is no result if their reader stops. -/
def Pool.adopt (pool : Pool) (document : Yaml.Value) : Option (Pool × List Log) :=
  match Settings.read document with
  | .ok (settings, members) => some (pool.apply settings members)
  | .error error => if error.isFault then none else some (pool, [refusalReport error])

structure Following where
  pool : Pool
  /-- Of how many changes of the configuration the listener knows. -/
  seen : Nat
  listening : Bool
  /-- The time, in milliseconds, at which the listener wakes up at the latest. -/
  deadline : Nat
  deriving Inhabited

namespace Following

/-- The milliseconds for which a listener waits for a message. -/
def patience : Nat := 500

def alone : Following := ⟨.standard .standard, 0, false, 0⟩

/--
Set up a pool from the configuration, if there is one; there is no result if
the reader of the settings stops.
-/
def install (now : Nat) : Option Config → Option (Following × List Log)
  | none => some (alone, [])
  | some config => do
    let (pool, reports) ← alone.pool.adopt config.document
    return (⟨pool, config.changes, true, now + patience⟩, reports)

/-- The listener hears something, if it can, and waits anew if the node runs. -/
def hear (following : Following) (running : Bool) (now : Nat) (config : Config) :
    Following × List Log :=
  if following.listening then
    match config.hear? following.seen with
    | none => (following, [])
    | some seen =>
      match following.pool.adopt config.document with
      | some (pool, reports) => (⟨pool, seen, running, now + patience⟩, reports)
      | none => ({ following with seen, listening := false }, [])
  else (following, [])

/-- The listener hears all that there is to hear: two messages at most. -/
def hearAll (following : Following) (running : Bool) (now : Nat) (config : Config) :
    Following × List Log :=
  let (next, first) := following.hear running now config
  let (final, second) := next.hear running now config
  (final, first ++ second)

def waitUntil (following : Following) (running : Bool) (now : Nat) : Following :=
  if following.listening && following.deadline ≤ now then
    if running then
      { following with
        deadline :=
          following.deadline + patience * ((now - following.deadline) / patience + 1) }
    else { following with listening := false }
  else following

end Following

end ReadThrough.Peer
