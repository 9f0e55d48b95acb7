import ReadThrough.Log
import ReadThrough.Peer.Client
import ReadThrough.Peer.Ring
import ReadThrough.Peer.Settings

/-!
# Pools of nodes

The members of the cluster as one node sees them: the settings, the members in
ascending order, their ring, and a client for each member but the node itself.
All four are replaced together.
-/

namespace ReadThrough.Peer

structure Pool where
  hash : Hash
  settings : Settings
  members : List String
  ring : Ring
  clients : List (String × Client)

namespace Pool

def empty (hash : Hash) (settings : Settings) : Pool where
  hash
  settings
  members := []
  ring := .empty hash settings.replicas
  clients := []

/-- A pool that places texts by their check sums. -/
def standard (settings : Settings) : Pool := empty Crc32.checksum settings

instance : Inhabited Pool := ⟨standard .standard⟩

def normalizeSettings (settings : Settings) : Settings :=
  { settings with self := normalizeAddress settings.self }

/-- The members in their common form and in ascending order, each once. -/
def normalizeMembers (members : List String) : List String :=
  Ordered.ofList (members.map normalizeAddress)

def clientOf (settings : Settings) (member : String) : Client where
  address := member
  baseUrl := member ++ settings.basePath
  timeout := settings.timeout

/-- The clients of all members but the node itself. -/
def clientsOf (settings : Settings) (members : List String) : List (String × Client) :=
  (members.filter fun member => member ≠ settings.self).map fun member =>
    (member, clientOf settings member)

def changeReport (settings : Settings) (members : List String) : Log :=
  .info ("Cluster membership of " ++ settings.self ++ " changed: " ++
    ", ".intercalate members)

/-- Replace the membership, unless it stays the same. -/
def apply (pool : Pool) (settings : Settings) (members : List String) : Pool × List Log :=
  let settings := normalizeSettings settings
  let members := normalizeMembers members
  if pool.settings = settings ∧ pool.members = members then (pool, [])
  else
    ({ hash := pool.hash
       settings
       members
       ring := .ofMembers pool.hash settings.replicas members
       clients := clientsOf settings members },
      [changeReport settings members])

def set (pool : Pool) (members : List String) : Pool × List Log :=
  pool.apply pool.settings members

/-- The client of the node to which a key belongs, unless that is the node itself. -/
def pick (pool : Pool) (key : String) : Option Client × List Log :=
  match pool.ring.owner? key with
  | none => (none, [])
  | some owner =>
    if owner = pool.settings.self then (none, [])
    else (pool.clients.lookup owner, [.debug ("Picked peer " ++ owner ++ " for " ++ key)])

end Pool

end ReadThrough.Peer
