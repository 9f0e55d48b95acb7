import ReadThrough.Config.Document
import ReadThrough.Config.Setting
import ReadThrough.Text.Blank

/-!
# Settings of a node among its peers

The address of the node itself, the path of the peer protocol, the number of
virtual nodes per member and the time to wait for another node, together with
the list of members.  Addresses are the base URLs of nodes, in a form in which
spellings of one address become equal.  A setting that is present but invalid is
an error; the first one in the order of the reader decides.
-/

namespace ReadThrough.Peer

/-- The address without blanks around it and without the slashes at its end. -/
def normalizeAddress (address : String) : String :=
  String.ofList (Text.dropTrailing (· == '/') (Text.trimChars address.toList))

open Yaml (Value)
open Config (query)

structure Settings where
  /-- The address of the node as the other members know it. -/
  self : String
  /-- The path in front of the requests between nodes. -/
  basePath : String
  replicas : Nat
  timeout : Span
  deriving DecidableEq, Repr, Inhabited

def defaultBasePath : String := "/_peercache/"

def defaultReplicas : Nat := 50

/-- The address of a node on this machine that listens on the given port. -/
def localAddress (port : Int) : String := "http://localhost:" ++ toString port

def Settings.standard : Settings where
  self := localAddress Config.defaultPort
  basePath := defaultBasePath
  replicas := defaultReplicas
  timeout := .ofSeconds 5

def clientPath : String := "/api/"

def statsPath : String := "/_stats"

/-- The paths that the requests between nodes must not overlap. -/
def reservedPaths : List String := [clientPath, statsPath]

inductive SettingsError where
  | self (value : Value)
  | basePath (value : Value)
  | overlap (path reserved : String)
  | replicas (value : Value)
  | timeout (cause : Config.Setting.Error)
  | member (value : Value)
  | members (value : Value)
  deriving DecidableEq

def SettingsError.causes : SettingsError → Causes
  | .self value => ["Invalid peers.self: " ++ value.describe]
  | .basePath value =>
    ["Invalid peers.base_path: " ++ value.describe ++
      ". A path has to start and end with '/'."]
  | .overlap path reserved =>
    ["Invalid peers.base_path: " ++ path ++ ". It overlaps the reserved path " ++
      reserved ++ "."]
  | .replicas value =>
    ["Invalid peers.replicas: " ++ value.describe ++ ". Expected a positive number."]
  | .timeout cause => cause.causes
  | .member value => ["Invalid member in peers.members: " ++ value.describe]
  | .members value => ["Invalid peers.members: " ++ value.describe]

def SettingsError.isFault : SettingsError → Bool
  | .timeout cause => cause.isFault
  | _ => false

/-- Whether one of two paths begins with the other one. -/
def overlaps (left right : String) : Bool :=
  left.toList.isPrefixOf right.toList || right.toList.isPrefixOf left.toList

def isEnclosed (path : String) : Bool :=
  path.toList.head? == some '/' && path.toList.getLast? == some '/'

namespace Settings

/-- The address of the node; without a configured one it follows from the configured port. -/
def readSelf (document : Value) : Except SettingsError String :=
  match query document "peers.self" with
  | .str address => .ok (normalizeAddress address)
  | .bad | .null =>
    .ok (localAddress ((query document "server.port").asInt?.getD Config.defaultPort))
  | other => .error (.self other)

/-- The path in front of the requests between nodes, which overlaps no reserved one. -/
def readBasePath (document : Value) : Except SettingsError String := do
  let basePath ←
    match query document "peers.base_path" with
    | .str path => if isEnclosed path then .ok path else .error (.basePath (.str path))
    | .bad | .null => .ok defaultBasePath
    | other => .error (.basePath other)
  match reservedPaths.find? (overlaps basePath) with
  | some reserved => .error (.overlap basePath reserved)
  | none => .ok basePath

def readReplicas (document : Value) : Except SettingsError Nat :=
  match query document "peers.replicas" with
  | .int replicas =>
    if 0 < replicas then .ok replicas.toNat else .error (.replicas (.int replicas))
  | .bad | .null => .ok defaultReplicas
  | other => .error (.replicas other)

def readTimeout (document : Value) : Except SettingsError Span :=
  (Config.Setting.duration (query document "peers.timeout") standard.timeout).mapError .timeout

def readMember : Value → Except SettingsError String
  | .str address => .ok (normalizeAddress address)
  | other => .error (.member other)

def readMembers (document : Value) : Except SettingsError (List String) :=
  match query document "peers.members" with
  | .array members => members.mapM readMember
  | .bad | .null => .ok []
  | other => .error (.members other)

def read (document : Value) : Except SettingsError (Settings × List String) := do
  let self ← readSelf document
  let basePath ← readBasePath document
  let replicas ← readReplicas document
  let timeout ← readTimeout document
  let members ← readMembers document
  return (⟨self, basePath, replicas, timeout⟩, members)

end Settings

end ReadThrough.Peer
