import ReadThrough.Proofs.Http.Path
import ReadThrough.Proofs.Http.Uri
import ReadThrough.Proofs.Peer.Pool
import ReadThrough.Proofs.Peer.Settings
import ReadThrough.Proofs.Server.PeerRequest
import ReadThrough.Proofs.Server.Statistics

/-!
# Endpoints

A path belongs to at most one endpoint of a server whose base path was accepted,
so it does not matter in which order the endpoints are tested.  Every group and
key can be reached by clients, whatever the base path is, and so can the
statistics.
-/

namespace ReadThrough.Server

open Http (Target)
open Peer (IsBasePath)

inductive Endpoint where
  | peer
  | client
  | statistics
  deriving DecidableEq, Repr

namespace Endpoint

/-- Whether a path belongs to an endpoint at a node with the given base path. -/
def Covers (basePath path : String) : Endpoint → Prop
  | .peer => basePath.toList <+: path.toList
  | .client => Peer.clientPath.toList <+: path.toList
  | .statistics => path = Peer.statsPath

def route? (basePath path : String) : Endpoint → Option Route
  | .peer => (Http.stripStart? basePath path).map (Route.ofTarget .peer)
  | .client => (Http.stripStart? Peer.clientPath path).map (Route.ofTarget .client)
  | .statistics => if path = Peer.statsPath then some .statistics else none

variable {basePath path : String}

theorem isSome_route? {endpoint : Endpoint} :
    (endpoint.route? basePath path).isSome = true ↔ endpoint.Covers basePath path := by
  cases endpoint with
  | peer => rw [route?, Option.isSome_map, Http.isSome_stripStart?, Covers]
  | client => rw [route?, Option.isSome_map, Http.isSome_stripStart?, Covers]
  | statistics =>
      rw [route?, Covers]
      split <;> simp [*]

/-- Of two beginnings of one path, one is the beginning of the other. -/
theorem not_peer_and_client (accepted : IsBasePath basePath)
    (peer : Covers basePath path .peer) : ¬ Covers basePath path .client := by
  intro client
  have present : Peer.clientPath ∈ Peer.reservedPaths := by simp [Peer.reservedPaths]
  rcases List.prefix_or_prefix_of_prefix peer client with shorter | longer
  · exact accepted.not_isPrefix_reserved present shorter
  · exact accepted.reserved_not_isPrefix present longer

theorem not_peer_and_statistics (accepted : IsBasePath basePath)
    (peer : Covers basePath path .peer) : ¬ Covers basePath path .statistics := by
  rintro rfl
  exact accepted.not_isPrefix_reserved (by simp [Peer.reservedPaths]) peer

theorem not_client_and_statistics (client : Covers basePath path .client) :
    ¬ Covers basePath path .statistics := by
  rintro rfl
  exact absurd (List.isPrefixOf_iff_prefix.mpr client) (by decide)

/-- No path belongs to two endpoints. -/
theorem covers_unique (accepted : IsBasePath basePath) {left right : Endpoint}
    (first : left.Covers basePath path) (second : right.Covers basePath path) : left = right := by
  cases left with
  | peer =>
      cases right with
      | peer => rfl
      | client => exact (not_peer_and_client accepted first second).elim
      | statistics => exact (not_peer_and_statistics accepted first second).elim
  | client =>
      cases right with
      | peer => exact (not_peer_and_client accepted second first).elim
      | client => rfl
      | statistics => exact (not_client_and_statistics first second).elim
  | statistics =>
      cases right with
      | peer => exact (not_peer_and_statistics accepted second first).elim
      | client => exact (not_client_and_statistics second first).elim
      | statistics => rfl

end Endpoint

/-! ## Orders of the tests -/

/-- What a path stands for if the endpoints are tested in the given order. -/
def routeBy (order : List Endpoint) (basePath path : String) : Route :=
  (order.findSome? (Endpoint.route? basePath path)).getD .unknown

theorem ofPath_eq_routeBy (basePath path : String) :
    Route.ofPath basePath path = routeBy [.peer, .client, .statistics] basePath path := by
  rw [Route.ofPath, routeBy]
  cases peer : Http.stripStart? basePath path with
  | some rest => simp [Endpoint.route?, peer]
  | none =>
      cases client : Http.stripStart? Peer.clientPath path with
      | some rest => simp [Endpoint.route?, peer, client]
      | none =>
          simp only [Endpoint.route?, peer, client, Option.map_none, List.findSome?_cons,
            List.findSome?_nil]
          split <;> rfl

/-- Any endpoint that takes a path is found, since no other one does. -/
theorem findSome?_route?_eq_some_iff {basePath path : String} (accepted : IsBasePath basePath)
    {order : List Endpoint} (complete : ∀ endpoint, endpoint ∈ order) {route : Route} :
    order.findSome? (Endpoint.route? basePath path) = some route ↔
      ∃ endpoint : Endpoint, endpoint.route? basePath path = some route := by
  constructor
  · intro found
    obtain ⟨endpoint, -, takes⟩ := List.exists_of_findSome?_eq_some found
    exact ⟨endpoint, takes⟩
  · rintro ⟨endpoint, takes⟩
    have covers := Endpoint.isSome_route?.mp (Option.isSome_iff_exists.mpr ⟨route, takes⟩)
    cases found : order.findSome? (Endpoint.route? basePath path) with
    | none =>
        rw [List.findSome?_eq_none_iff.mp found endpoint (complete endpoint)] at takes
        cases takes
    | some other =>
        obtain ⟨finder, -, finds⟩ := List.exists_of_findSome?_eq_some found
        have finderCovers :=
          Endpoint.isSome_route?.mp (Option.isSome_iff_exists.mpr ⟨other, finds⟩)
        rw [← takes, ← finds, Endpoint.covers_unique accepted covers finderCovers]

/-- All orders in which every endpoint is tested find the same. -/
theorem ofPath_eq_routeBy_of_complete {basePath : String} (accepted : IsBasePath basePath)
    {order : List Endpoint} (complete : ∀ endpoint, endpoint ∈ order) (path : String) :
    Route.ofPath basePath path = routeBy order basePath path := by
  have usual : ∀ endpoint : Endpoint, endpoint ∈ [.peer, .client, .statistics] := by
    rintro (_ | _ | _) <;> decide
  rw [ofPath_eq_routeBy, routeBy, routeBy]
  refine congrArg (Option.getD · Route.unknown) (Option.ext fun route => ?_)
  rw [findSome?_route?_eq_some_iff accepted usual, findSome?_route?_eq_some_iff accepted complete]

/-! ## What clients ask for -/

section

variable {basePath : String} (accepted : IsBasePath basePath)

include accepted

/-- A path below the client path names a key for a client. -/
theorem ofPath_client {target : Target} (named : target.group ≠ "") :
    Route.ofPath basePath (Peer.clientPath ++ target.path) = .client target := by
  have complete : ∀ endpoint : Endpoint, endpoint ∈ [.client, .peer, .statistics] := by
    rintro (_ | _ | _) <;> decide
  rw [ofPath_eq_routeBy_of_complete accepted complete, routeBy]
  simp only [List.findSome?_cons, Endpoint.route?, Http.stripStart?_append, Option.map_some,
    Option.getD_some, Route.ofTarget, Target.ofPath?_path named]

theorem ofPath_statistics : Route.ofPath basePath Peer.statsPath = .statistics := by
  have complete : ∀ endpoint : Endpoint, endpoint ∈ [.statistics, .peer, .client] := by
    rintro (_ | _ | _) <;> decide
  rw [ofPath_eq_routeBy_of_complete accepted complete, routeBy]
  simp only [List.findSome?_cons, Endpoint.route?, if_true, Option.getD_some]

variable {pool : Option Peer.Pool} (installed : basePathOf pool = basePath)

include installed

theorem dispatch_client (groups : List Group) {target : Target} (named : target.group ≠ "") :
    dispatch pool (some groups) servedMethod (Peer.clientPath ++ target.path) =
      .lookUp false target := by
  rw [dispatch_served, installed, ofPath_client accepted named, Route.action]

end

/-- The path of a key is the path of a request that asks for it, unless it is too long. -/
theorem path_of_client_target {request : Request} {target : Target}
    (asks : request.target = Peer.clientPath ++ target.path)
    (short : (Peer.clientPath ++ target.path).utf8ByteSize ≤ Http.Uri.byteLimit) :
    request.path = Peer.clientPath ++ target.path := by
  have starts : (Peer.clientPath ++ target.path).toList.head? = some '/' := by
    simp [Peer.clientPath]
  have allowed : ∀ char ∈ (Peer.clientPath ++ target.path).toList,
      Http.Uri.isPathChar char = true := by
    intro char present
    rw [String.toList_append, List.mem_append] at present
    rcases present with start | path
    · have plain : Peer.clientPath.toList.all Http.Uri.isPathChar = true := by decide
      exact List.all_eq_true.mp plain char start
    · exact Http.Uri.isPathChar_of_mem_path path
  rw [Request.path, asks, Http.Uri.parse?_path starts allowed short, Option.map_some,
    Option.getD_some]

/--
If a configuration is accepted and its settings are installed, then no path
belongs to two endpoints, and the action on a request does not depend on the
order in which the endpoints are tested.  Whatever else a server is doing, the
path of any group and key below the client path is answered with the outcome of
a lookup of exactly this key in exactly this group, or with the status 404 if
there is no such group; and the path of the statistics is answered with what
they are then.
-/
theorem endpoints_never_shadow {document : Yaml.Value} {settings : Peer.Settings}
    {members : List String} (accepted : Peer.Settings.read document = .ok (settings, members))
    (former : Peer.Pool) :
    let pool := (former.apply settings members).1
    (∀ (path : String) (left right : Endpoint), left.Covers settings.basePath path →
      right.Covers settings.basePath path → left = right) ∧
    (∀ order : List Endpoint, (∀ endpoint, endpoint ∈ order) →
      ∀ (groups : List Group) (path : String),
        dispatch (some pool) (some groups) servedMethod path =
          (routeBy order settings.basePath path).action (some pool) groups) ∧
    (∀ target : Target, target.group ≠ "" → ∀ groups : List Group,
      dispatch (some pool) (some groups) servedMethod (Peer.clientPath ++ target.path) =
        .lookUp false target) ∧
    ∀ (pickers : List Peer.Picker) (before after : List Happening) (request : Request),
      request.pool = some pool → request.registered = true → request.method = servedMethod →
      let reached := ((Exchange.start pickers).run before).next
      let final := (Exchange.start pickers).run (before ++ .request request :: after)
      (∀ target : Target, target.group ≠ "" →
        let path := Peer.clientPath ++ target.path
        (request.target = path → path.utf8ByteSize ≤ Http.Uri.byteLimit → request.path = path) ∧
        (request.path = path →
          LookedUp reached request false target after final ∧
          (reached.cluster.find? request.node target.group = none →
            answersTo reached.received final.answers =
              [.response (messageResponse 404 ("no such group: " ++ target.group))]))) ∧
      (request.path = Peer.statsPath → ∃ statistics,
        answersTo reached.received final.answers = [.statistics statistics] ∧
          statistics.Describes (some pool) reached.cluster request.node) := by
  intro pool
  have isBasePath := Peer.Settings.isBasePath_basePath accepted
  have installed : basePathOf (some pool) = settings.basePath := by
    simp [basePathOf, pool, Peer.Pool.normalizeSettings]
  refine ⟨fun path left right first second => Endpoint.covers_unique isBasePath first second,
    fun order complete groups path => ?_, fun target named groups => ?_,
    fun pickers before after request own registered method => ?_⟩
  · rw [dispatch_served, installed, ofPath_eq_routeBy_of_complete isBasePath complete]
  · exact dispatch_client isBasePath installed groups named
  · intro reached final
    have base : basePathOf request.pool = settings.basePath := own ▸ installed
    refine ⟨fun target named => ⟨path_of_client_target, fun path => ?_⟩, fun path => ?_⟩
    · have served : request.Served settings.basePath (Peer.clientPath ++ target.path) :=
        ⟨registered, method, base, path⟩
      have acts : request.action reached.cluster = .lookUp false target := by
        rw [served.action, ofPath_client isBasePath named, Route.action]
      have looked : LookedUp reached request false target after final := lookedUp rfl acts after
      exact ⟨looked, looked.answers_unknown⟩
    · have served : request.Served settings.basePath Peer.statsPath :=
        ⟨registered, method, base, path⟩
      have acts : request.action reached.cluster =
          .report (.of (some pool) (reached.cluster.groupsOf request.node)) := by
        rw [served.action, ofPath_statistics isBasePath, Route.action, own]
      obtain ⟨-, asked, coherent⟩ := Exchange.reached_run pickers before
      exact ⟨_, answered_report rfl acts after,
        Statistics.of_describes coherent (Exchange.listed_run pickers before) (some pool) request.node⟩

/-- A base path that begins like a reserved path. -/
def sharedStart : Yaml.Value :=
  .hash [(.str "peers", .hash [(.str "base_path", .str "/_st/")])]

theorem endpoints_never_shadow_shared_start :
    let settings : Peer.Settings := { Peer.Settings.standard with basePath := "/_st/" }
    let pool := (Peer.Pool.apply (.standard .standard) settings []).1
    let before : List Happening := [.occur (.move (.register 0 "a/b" 9))]
    let after : List Happening := [.occur (.move (.event (.loaded 0 (.ok [7]))))]
    let request (target : String) : Request := ⟨0, some pool, true, servedMethod, target⟩
    let final (target : String) :=
      (Exchange.start [.pool pool]).run (before ++ .request (request target) :: after)
    Peer.Settings.read sharedStart = .ok (settings, []) ∧
      answersTo 0 (final "/api/a%2Fb/k").answers = [.response ⟨200, Http.binaryContent, [7]⟩] ∧
      answersTo 0 (final "/api/b/k").answers =
        [.response (messageResponse 404 "no such group: b")] ∧
      ∃ statistics, answersTo 0 (final "/_stats").answers = [.statistics statistics] ∧
        ∃ numbers ∈ statistics.groups, numbers.name = "a/b" ∧ numbers.budget = 9 := by
  intro settings pool before after request final
  have accepted : Peer.Settings.read sharedStart = .ok (settings, []) := by decide +kernel
  obtain ⟨-, -, -, exchanges⟩ := endpoints_never_shadow accepted (.standard .standard)
  have answered (target : String) :=
    exchanges [.pool pool] before after (request target) rfl rfl rfl
  refine ⟨accepted, ?_, ?_, ?_⟩
  · have written : Peer.clientPath ++ Target.path ⟨"a/b", "k"⟩ = "/api/a%2Fb/k" := by
      decide +kernel
    obtain ⟨path, looks⟩ := (answered "/api/a%2Fb/k").1 ⟨"a/b", "k"⟩ (by decide)
    rw [written] at path looks
    obtain ⟨looked, -⟩ := looks (path rfl (by decide +kernel))
    have outcomes : Cluster.outcomesOf 0 (final "/api/a%2Fb/k").effects = [.ok [7]] := by
      decide +kernel
    exact looked.answers.trans (congrArg (List.map Answer.ofOutcome) outcomes)
  · have written : Peer.clientPath ++ Target.path ⟨"b", "k"⟩ = "/api/b/k" := by decide +kernel
    obtain ⟨path, looks⟩ := (answered "/api/b/k").1 ⟨"b", "k"⟩ (by decide)
    rw [written] at path looks
    exact (looks (path rfl (by decide +kernel))).2 (by decide)
  · have parsed : (Http.Uri.parse? "/_stats").map Http.Uri.path = some "/_stats" := by
      decide +kernel
    have path : (request "/_stats").path = Peer.statsPath := by
      rw [Request.path, parsed, Option.getD_some]
      rfl
    obtain ⟨statistics, same, describes⟩ := (answered "/_stats").2 path
    have registered : (((Exchange.start [.pool pool]).run before).next.cluster.group? 0 "a/b").map
        (·.cache.budget) = some 9 := by decide
    obtain ⟨group, found, budget⟩ := Option.map_eq_some_iff.mp registered
    obtain ⟨numbers, present, name, told⟩ := describes.complete "a/b" group found
    exact ⟨statistics, same, numbers, present, name, told.budget.trans budget⟩

end ReadThrough.Server
