import ReadThrough.Node.Basic

/-!
# Building a node

The features of a node are enabled and disabled by name.  The components are
installed in a fixed order, since the pool reads the configuration.
-/

namespace ReadThrough.Node

inductive Feature where
  | logging
  | signals
  | component (component : Component)
  deriving DecidableEq, Repr

def Feature.all : List Feature :=
  [.logging, .signals, .component .config, .component .registry, .component .peers,
    .component .server]

def Feature.name : Feature → String
  | .logging => "logging"
  | .signals => "signals"
  | .component .config => "config"
  | .component .registry => "registry"
  | .component .peers => "peers"
  | .component .server => "server"

def Feature.ofName? (name : String) : Option Feature :=
  Feature.all.find? fun feature => feature.name == name

inductive Choice where
  | enableAll
  | enable (feature : Feature)
  | disable (feature : Feature)
  deriving DecidableEq, Repr

def choose (enabled : List Feature) : Choice → List Feature
  | .enableAll => Feature.all
  | .enable feature => if feature ∈ enabled then enabled else feature :: enabled
  | .disable feature => enabled.filter fun other => other ≠ feature

def enabledBy (choices : List Choice) : List Feature :=
  choices.foldl choose []

/-- Install a component; there is no result if the reader of the settings stops. -/
def install (node : Node) : Component → Option Node
  | .config => some node.installConfig
  | .registry => some node.installRegistry
  | .peers => node.installPeers.map Prod.fst
  | .server => some node.installServer

/-- The components in the order in which they are installed. -/
def Component.all : List Component := [.config, .registry, .peers, .server]

def build (node : Node) (enabled : List Feature) : Option Node :=
  (Component.all.filter fun component => .component component ∈ enabled).foldlM install node

end ReadThrough.Node
