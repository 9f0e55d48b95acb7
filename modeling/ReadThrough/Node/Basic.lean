import ReadThrough.Config.Reload
import ReadThrough.Group.Hosted
import ReadThrough.Node.Platform
import ReadThrough.Peer.Following
import ReadThrough.Server.Step

/-!
# Nodes

A node with its components: the configuration with its file, the groups, the
pool of members and the server.  The platform tells which of them are installed;
whoever holds a component can go on to use it after the node has stopped.  The
configuration is loaded, its file changes and is read, the pool hears of changes
and the server goes on, in any order.
-/

namespace ReadThrough

namespace Node

inductive Component where
  | config
  | registry
  | peers
  | server
  deriving DecidableEq, Repr

end Node

structure Node where
  /-- The milliseconds since the start. -/
  now : Nat
  platform : Node.Platform fun _ : Node.Component => Unit
  reading : Config.Reading
  hasDirectory : Bool
  /-- The time at which the file is looked at again, if it is watched. -/
  watchAt : Option Nat
  registry : Node.Registry
  peers : Peer.Following
  server : Server
  deriving Inhabited

namespace Node

def defaultFile : String := "config/settings.yml"

/-- A running node without components, for a configuration file of the given name. -/
def start (name : String) : Node where
  now := 0
  platform := .empty
  reading := .start name
  hasDirectory := Config.isTopLevel name
  watchAt := none
  registry := []
  peers := .alone
  server := .start

def running (node : Node) : Bool := node.platform.running

def has (node : Node) (component : Component) : Bool :=
  (node.platform.find? component).isSome

def config (node : Node) : Config := node.reading.config

def config? (node : Node) : Option Config :=
  if node.has .config then some node.config else none

def pool? (node : Node) : Option Peer.Pool :=
  if node.has .peers then some node.peers.pool else none

def mark (node : Node) (component : Component) : Node :=
  { node with platform := node.platform.register component () }

def terminate (node : Node) : Node :=
  { node with platform := node.platform.terminate }

/-- Change the file of the configuration; to put something there makes the directory. -/
def changeFile (node : Node) (event : Config.Reading.Event) : Node :=
  { node with
    reading := (node.reading.step event).1
    hasDirectory := node.hasDirectory || event.makesFile }

def setConfig (node : Node) (config : Config) : Node :=
  { node with reading := { node.reading with config } }

def loadText (node : Node) (text : String) : Node × Except Config.ReadError Bool :=
  match node.config.loadText text none with
  | .ok config => (node.setConfig config, .ok true)
  | .error error => (node, .error error)

def loadFile (node : Node) : Node × Except Config.ReadError Bool :=
  let (config, result) := node.config.load node.reading.file
  (node.setConfig config, result)

def reloadFile (node : Node) : Node × Except Config.ReadError Bool :=
  let (config, result) := node.config.reload node.reading.file
  (node.setConfig config, result)

def watchInterval : Nat := 2000

/-- Install a new configuration, make its directory and read the file. -/
def installConfig (node : Node) : Node :=
  let fresh := (node.setConfig (.empty node.config.name)).mark .config
  { fresh.loadFile.1 with
    hasDirectory := true
    watchAt := if node.running then some (node.now + watchInterval) else none }

def installRegistry (node : Node) : Node :=
  { node.mark .registry with registry := [] }

/--
Install a pool which follows the configuration, if there is one; there is no
result if the reader of the settings stops.
-/
def installPeers (node : Node) : Option (Node × List Log) := do
  let (peers, reports) ← Peer.Following.install node.now node.config?
  return ({ node.mark .peers with peers }, reports)

def installServer (node : Node) : Node :=
  { node.mark .server with server := .start }

def hear (node : Node) : Node × List Log :=
  let (peers, reports) := node.peers.hearAll node.running node.now node.config
  ({ node with peers }, reports)

def surroundings (node : Node) : Server.Surroundings := ⟨node.running, node.config?⟩

def stepServer (node : Node) (event : Server.Event) : Node :=
  { node with server := node.server.step node.surroundings event }

end Node

end ReadThrough

namespace ReadThrough.Node

inductive Event where
  | load (text : String)
  /-- The file of the configuration changes, or one of its readers goes on. -/
  | file (event : Config.Reading.Event)
  | hear
  | server (event : Server.Event)
  | terminate
  deriving DecidableEq

def step (node : Node) : Event → Node
  | .load text => (node.loadText text).1
  | .file event => node.changeFile event
  | .hear => node.hear.1
  | .server event => node.stepServer event
  | .terminate => node.terminate

def run (node : Node) (events : List Event) : Node := events.foldl step node

end ReadThrough.Node
