import ReadThrough.Config.Basic

/-!
# Servers

A server opens the address that the configuration of its node selects, and
serves there until the node stops or the configuration selects another one.
-/

namespace ReadThrough

namespace Server

inductive Phase where
  | idle
  /-- It is about to open an address. -/
  | ready
  /-- It tries to open its address. -/
  | opening
  /-- It could not open its address and waits for some time. -/
  | pausing
  /-- It serves at its address and knows of so many changes of the configuration. -/
  | serving (seen : Nat)
  | closing
  | stopped
  deriving DecidableEq, Repr

end Server

structure Server where
  /-- The address that was selected last. -/
  address : String
  /-- Whether that address is kept. -/
  settled : Bool
  phase : Server.Phase
  deriving DecidableEq, Repr

namespace Server

def start : Server := ⟨"", false, .idle⟩

instance : Inhabited Server := ⟨start⟩

def current? (server : Server) : Option String :=
  match server.phase with
  | .serving _ | .closing => some server.address
  | _ => none

def portLimit : Int := 65535

/-- The port in a configuration document; an invalid one counts as absent. -/
def portOf (document : Yaml.Value) : Int :=
  match (Config.query document "server.port").asInt? with
  | some port => if 0 < port ∧ port ≤ portLimit then port else Config.defaultPort
  | none => Config.defaultPort

def hostOf (document : Yaml.Value) : String :=
  (Config.query document "server.host").asText?.getD Config.defaultHost

def addressOf (document : Yaml.Value) : String :=
  hostOf document ++ ":" ++ toString (portOf document)

def select (config : Option Config) : String :=
  addressOf ((config.map Config.document).getD Config.emptyDocument)

end Server

end ReadThrough
