import ReadThrough.Http.Path
import ReadThrough.Http.Response
import ReadThrough.Server.Statistics

/-!
# Dispatch of requests

A path below the base path is a request of another node, one below the client
path a request of a client, and the statistics have a path of their own.  Values
come with the status 200, and every error has a status of its own kind.
-/

namespace ReadThrough.Server

open Http (Response Target)

def messageResponse (status : Nat) (message : String) : Response where
  status
  content := Http.textContent
  body := Utf8.encode message

def statusOf : LoadError → Nat
  | .invalidKey => 400
  | .unknownGroup _ => 404
  | _ => 500

def outcomeResponse : Outcome → Response
  | .ok value => ⟨200, Http.binaryContent, value⟩
  | .error error => messageResponse (statusOf error) error.message

inductive Route where
  /-- The value of a key for another node. -/
  | peer (target : Target)
  /-- The value of a key for a client. -/
  | client (target : Target)
  | statistics
  /-- A path that names no group and key where it should. -/
  | malformed
  | unknown
  deriving DecidableEq, Repr

def Route.ofTarget (route : Target → Route) (path : String) : Route :=
  match Target.ofPath? path with
  | some target => route target
  | none => .malformed

def Route.ofPath (basePath path : String) : Route :=
  match Http.stripStart? basePath path with
  | some rest => ofTarget .peer rest
  | none =>
    match Http.stripStart? Peer.clientPath path with
    | some rest => ofTarget .client rest
    | none => if path = Peer.statsPath then .statistics else .unknown

inductive Action where
  | respond (response : Response)
  /-- The value of a key is looked up for another node or for a client. -/
  | lookUp (forPeer : Bool) (target : Target)
  | report (statistics : Statistics)

def servedMethod : String := "GET"

/-- The path in front of the requests between nodes, at a node with the given pool. -/
def basePathOf (pool : Option Peer.Pool) : String :=
  (pool.map fun pool => pool.settings.basePath).getD Peer.defaultBasePath

def Route.action (pool : Option Peer.Pool) (groups : List Group) : Route → Action
  | .peer target => .lookUp true target
  | .client target => .lookUp false target
  | .statistics => .report (.of pool groups)
  | .malformed => .respond (messageResponse 400 "bad request")
  | .unknown => .respond (messageResponse 404 "not found")

def dispatch (pool : Option Peer.Pool) (groups : Option (List Group)) (method path : String) :
    Action :=
  if method ≠ servedMethod then .respond (messageResponse 405 "only GET is supported")
  else
    match groups with
    | none => .respond (messageResponse 503 "node is shutting down")
    | some groups => (Route.ofPath (basePathOf pool) path).action pool groups

end ReadThrough.Server
