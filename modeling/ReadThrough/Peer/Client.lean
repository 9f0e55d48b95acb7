import ReadThrough.Http.Path
import ReadThrough.Http.Response
import ReadThrough.Http.Uri
import ReadThrough.Log
import ReadThrough.Span
import ReadThrough.Text.Blank

/-!
# Clients of other nodes

A client asks one other node for a value.  A response with the status 200
carries the value; every other status, a broken connection, and a response
that does not come in time are failures.
-/

namespace ReadThrough.Peer

structure Client where
  address : String
  /-- The address with the path in front of the requests between nodes. -/
  baseUrl : String
  timeout : Span
  deriving DecidableEq, Repr, Inhabited

inductive Reply where
  | response (status : Nat) (body : Bytes)
  /-- The connection failed for a reason outside of the protocol. -/
  | broken (causes : Causes)
  /-- Nothing comes in time. -/
  | silence
  deriving DecidableEq, Repr

namespace Client

/-- The status of a response that carries a value. -/
def success : Nat := 200

def url (client : Client) (target : Http.Target) : String :=
  client.baseUrl ++ target.path

def uri? (client : Client) (target : Http.Target) : Option Http.Uri :=
  Http.Uri.parse? (client.url target)

def interpret (client : Client) (url : String) : Reply → Except Causes Bytes
  | .response status body =>
    if status = success then .ok body
    else
      .error ["Failed to fetch " ++ url,
        "server returned: " ++ Http.statusLine status ++ " (" ++
          Text.trim (Utf8.decodeLossy body) ++ ")"]
  | .broken causes => .error (("Failed to fetch " ++ url) :: causes)
  | .silence =>
    .error ["Fetching " ++ url ++ " timed out after " ++
      toString client.timeout.milliseconds ++ " ms"]

/-- The value of a key, where `exchange` sends a request and gives the reply. -/
def fetch (client : Client) (exchange : Http.Uri → Reply) (target : Http.Target) :
    Except Causes Bytes :=
  let url := client.url target
  match client.uri? target with
  | some uri => client.interpret url (exchange uri)
  | none => .error ["Invalid peer URL: " ++ url]

end Client

end ReadThrough.Peer
