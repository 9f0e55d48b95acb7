import ReadThrough.Http.Uri
import ReadThrough.Peer.Pool
import ReadThrough.Proofs.Http.Path
import ReadThrough.Proofs.Server.Answering

/-!
# Requests between nodes

A node that asks another one for a key of a group gets the value of exactly
this key of exactly this group: the path that the client writes is read by the
server as it was meant, values arrive as they are, and each error arrives as a
failure that tells its status and its message.
-/

namespace ReadThrough.Peer.Client

variable (client : Client) (exchange : Http.Uri → Reply) {target : Http.Target}

/-- A client whose URL can be read interprets what comes back for it. -/
theorem fetch_of_uri? {uri : Http.Uri} (sent : client.uri? target = some uri) :
    client.fetch exchange target = client.interpret (client.url target) (exchange uri) := by
  simp only [fetch, sent]

/-- Otherwise nothing is sent. -/
theorem fetch_of_unreadable (unreadable : client.uri? target = none) :
    client.fetch exchange target = .error ["Invalid peer URL: " ++ client.url target] := by
  simp only [fetch, unreadable]

/-- Over a network, the server answers if it accepts the connection. -/
theorem fetch_network (network : Http.Network) (unreachable : Reply) (serve : Http.Uri → Reply)
    {uri : Http.Uri} (sent : client.uri? target = some uri)
    (connected : network.accepts uri.authority = true) :
    client.fetch (network.exchange unreachable serve) target =
      client.interpret (client.url target) (serve uri) := by
  rw [client.fetch_of_uri? _ sent, Http.Network.exchange, if_pos connected]

end ReadThrough.Peer.Client

namespace ReadThrough.Server

open Http (Target)

/-! ## What the server reads -/

/-- A path below the base path names a key for another node, whatever the base path is. -/
theorem ofPath_peer (basePath : String) {target : Target} (named : target.group ≠ "") :
    Route.ofPath basePath (basePath ++ target.path) = .peer target := by
  rw [Route.ofPath, Http.stripStart?_append]
  simp only [Route.ofTarget, Target.ofPath?_path named]

/-- What a running node does about a request that it serves is decided by the path alone. -/
theorem dispatch_served (pool : Option Peer.Pool) (groups : List Group) (path : String) :
    dispatch pool (some groups) servedMethod path =
      (Route.ofPath (basePathOf pool) path).action pool groups := by
  simp only [dispatch, ne_eq, not_true_eq_false, if_false]

theorem dispatch_peer (pool : Option Peer.Pool) (groups : List Group) {target : Target}
    (named : target.group ≠ "") :
    dispatch pool (some groups) servedMethod (basePathOf pool ++ target.path) =
      .lookUp true target := by
  rw [dispatch_served, ofPath_peer _ named, Route.action]

/-- A running node with this base path is asked for this path by the method that is served. -/
structure Request.Served (request : Request) (basePath path : String) : Prop where
  registered : request.registered = true
  method : request.method = servedMethod
  base : basePathOf request.pool = basePath
  path : request.path = path

theorem Request.Served.action {request : Request} {basePath path : String}
    (served : request.Served basePath path) (cluster : Cluster) :
    request.action cluster =
      (Route.ofPath basePath path).action request.pool (cluster.groupsOf request.node) := by
  rw [Request.action, served.registered, if_pos rfl, served.method, served.path, dispatch_served,
    served.base]

/-! ## What the client reads -/

theorem status_outcomeResponse_error (error : LoadError) :
    (outcomeResponse (.error error)).status ≠ Peer.Client.success := by
  cases error <;> simp [outcomeResponse, messageResponse, statusOf, Peer.Client.success]

theorem interpret_value (client : Peer.Client) (url : String) (value : Bytes) :
    client.interpret url (.response (outcomeResponse (.ok value)).status
      (outcomeResponse (.ok value)).body) = .ok value := rfl

theorem interpret_error (client : Peer.Client) (url : String) (error : LoadError) :
    client.interpret url (.response (outcomeResponse (.error error)).status
      (outcomeResponse (.error error)).body) =
      .error ["Failed to fetch " ++ url,
        "server returned: " ++ Http.statusLine (statusOf error) ++ " (" ++
          Text.trim error.message ++ ")"] := by
  rw [Peer.Client.interpret, if_neg (status_outcomeResponse_error error)]
  simp only [outcomeResponse, messageResponse, Utf8.decodeLossy_encode]

/-! ## The whole way -/

/--
The URL of a key is the address of the other node with a path that no other key
has.  A server with the same base path takes this path for a lookup of the key
for another node, whatever else it is doing, and answers with the outcome of
that lookup.  The client gets a value if and only if there is one, and gets this
value; an error becomes a failure with the status and the message of the error.
-/
theorem peer_request_faithful (settings : Peer.Settings) (member : String) (target : Target)
    (named : target.group ≠ "") :
    let client := Peer.Pool.clientOf settings member
    let path := settings.basePath ++ target.path
    client.url target = member ++ path ∧
    (∀ other : Target, settings.basePath ++ other.path = path → other = target) ∧
    (∀ (pool : Option Peer.Pool) (groups : List Group), basePathOf pool = settings.basePath →
      dispatch pool (some groups) servedMethod path = .lookUp true target) ∧
    (∀ (pickers : List Peer.Picker) (before after : List Happening) (request : Request),
      request.Served settings.basePath path →
      let reached := ((Exchange.start pickers).run before).next
      let final := (Exchange.start pickers).run (before ++ .request request :: after)
      request.action reached.cluster = .lookUp true target ∧
        LookedUp reached request true target after final) ∧
    ∀ outcome : Outcome,
      let response := outcomeResponse outcome
      let received :=
        client.interpret (client.url target) (.response response.status response.body)
      (∀ (network : Http.Network) (unreachable : Peer.Reply) (serve : Http.Uri → Peer.Reply)
          (uri : Http.Uri), client.uri? target = some uri →
        network.accepts uri.authority = true →
        serve uri = .response response.status response.body →
          client.fetch (network.exchange unreachable serve) target = received) ∧
      (∀ value, received = .ok value ↔ outcome = .ok value) ∧
      ∀ error, outcome = .error error →
        received = .error ["Failed to fetch " ++ client.url target,
          "server returned: " ++ Http.statusLine (statusOf error) ++ " (" ++
            Text.trim error.message ++ ")"] := by
  intro client path
  refine ⟨?_, ?_, ?_, ?_, fun outcome => ⟨?_, ?_⟩⟩
  · exact String.append_assoc
  · intro other same
    exact Target.path_injective (by simpa [path] using same)
  · intro pool groups shared
    have dispatched := dispatch_peer pool groups named
    rwa [shared] at dispatched
  · intro pickers before after request served reached final
    have acts : request.action reached.cluster = .lookUp true target := by
      rw [served.action, ofPath_peer _ named, Route.action]
    exact ⟨acts, lookedUp rfl acts after⟩
  · intro network unreachable serve uri sent connected replies
    rw [client.fetch_network network unreachable serve sent connected, replies]
  · cases outcome with
    | ok value =>
        have arrived := interpret_value client (client.url target) value
        refine ⟨fun other => ?_, by simp⟩
        rw [arrived, Except.ok.injEq, Except.ok.injEq]
    | error error =>
        have failed := interpret_error client (client.url target) error
        refine ⟨fun value => ?_, ?_⟩
        · rw [failed]
          simp
        · rintro other same
          cases same
          exact failed

/-- A group with a slash in its name loads a value while another node waits for it. -/
theorem peer_request_faithful_slash :
    let settings : Peer.Settings := { Peer.Settings.standard with basePath := "/p/" }
    let pool : Peer.Pool := .standard settings
    let client := Peer.Pool.clientOf settings "http://b"
    let target : Target := ⟨"a/ü", "k k"⟩
    let path := "/p/a%2F%C3%BC/k%20k"
    let request : Request := ⟨0, some pool, true, servedMethod, path⟩
    let before : List Happening := [.occur (.move (.register 0 "a/ü" 9))]
    let after : List Happening := [.occur (.move (.event (.loaded 0 (.ok [7]))))]
    let final := (Exchange.start [.pool pool]).run (before ++ .request request :: after)
    target.group ≠ "" ∧ request.Served settings.basePath path ∧
      dispatch (some pool) (some []) servedMethod path = .lookUp true target ∧
      answersTo 0 final.answers = [.response ⟨200, Http.binaryContent, [7]⟩] ∧
      client.fetch (Http.Network.exchange ⟨fun _ => true⟩ .silence
        fun _ => .response 200 [7]) target = .ok [7] := by
  intro settings pool client target path request before after final
  have named : target.group ≠ "" := by decide
  have written : settings.basePath ++ target.path = path := by decide +kernel
  have parsed : (Http.Uri.parse? path).map Http.Uri.path = some path := by decide +kernel
  have served : request.Served settings.basePath path :=
    ⟨rfl, rfl, rfl, by rw [Request.path, parsed, Option.getD_some]⟩
  obtain ⟨-, -, dispatched, lookups, interpreted⟩ :=
    peer_request_faithful settings "http://b" target named
  rw [written] at dispatched lookups
  obtain ⟨-, lookup⟩ := lookups [.pool pool] before after request served
  have outcomes : Cluster.outcomesOf 0 final.effects = [.ok [7]] := by decide +kernel
  have sent : client.uri? target = some ⟨"http", "b", path, none⟩ := by decide +kernel
  obtain ⟨fetched, value, -⟩ := interpreted (.ok [7])
  refine ⟨named, served, dispatched (some pool) [] rfl, ?_, ?_⟩
  · exact lookup.answers.trans (congrArg (List.map Answer.ofOutcome) outcomes)
  · exact (fetched ⟨fun _ => true⟩ .silence _ _ sent rfl rfl).trans ((value [7]).mpr rfl)

end ReadThrough.Server
