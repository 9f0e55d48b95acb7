import ReadThrough.Proofs.Http.Uri
import ReadThrough.Proofs.Peer.Settings
import ReadThrough.Proofs.Server.PeerRequest

/-!
# Base paths in URLs

The client puts the base path into its URLs as it is, and the server looks for
it in the path of the URL.  Both agree exactly if no question mark and no number
sign is in the base path: otherwise the path of the URL ends within the base
path, and every server takes it for an unknown one.  The URL can be read exactly
if the characters of the base path may stand in a path.
-/

namespace ReadThrough.Server

open Http (Target Uri)
open Peer (IsBasePath)

/-- Whether a base path holds no character that ends the path of a URL. -/
def PlainInUrl (basePath : String) : Prop :=
  ∀ char ∈ basePath.toList, Uri.endsPath char = false

theorem plainInUrl_iff {basePath : String} :
    PlainInUrl basePath ↔ '?' ∉ basePath.toList ∧ '#' ∉ basePath.toList := by
  constructor
  · intro plain
    exact ⟨fun present => absurd (plain _ present) (by decide),
      fun present => absurd (plain _ present) (by decide)⟩
  · rintro ⟨noQuery, noFragment⟩ char present
    rw [Uri.endsPath, Bool.or_eq_false_iff, beq_eq_false_iff_ne, beq_eq_false_iff_ne]
    exact ⟨fun same => noQuery (same ▸ present), fun same => noFragment (same ▸ present)⟩

/-- The part of a base path that is left in the path of a URL. -/
def shortened (basePath : String) : String :=
  String.ofList (basePath.toList.takeWhile fun char => !Uri.endsPath char)

variable {basePath : String}

/-- The path of a key is kept in the URL exactly if the base path is. -/
theorem takeWhile_path_eq_self_iff (target : Target) :
    (basePath ++ target.path).toList.takeWhile (fun char => !Uri.endsPath char) =
      (basePath ++ target.path).toList ↔ PlainInUrl basePath := by
  rw [List.takeWhile_eq_self_iff]
  constructor
  · intro kept char present
    simpa using kept char (by simp [present])
  · intro plain char present
    rw [String.toList_append, List.mem_append] at present
    rcases present with base | path
    · simp [plain char base]
    · simp [Uri.endsPath_of_isPathChar (Uri.isPathChar_of_mem_path path)]

theorem shortened_isPrefix (basePath : String) :
    (shortened basePath).toList <+: basePath.toList := by
  rw [shortened, String.toList_ofList]
  exact List.takeWhile_prefix _

theorem not_isPrefix_shortened (marked : ¬ PlainInUrl basePath) :
    ¬ basePath.toList <+: (shortened basePath).toList := by
  intro longer
  have same := (shortened_isPrefix basePath).eq_of_length_le longer.length_le
  rw [shortened, String.toList_ofList] at same
  exact marked fun char present => by
    simpa using List.takeWhile_eq_self_iff.mp same char present

/-- Otherwise the path of the URL ends within the base path. -/
theorem takeWhile_path_of_not_plain (marked : ¬ PlainInUrl basePath) (target : Target) :
    (basePath ++ target.path).toList.takeWhile (fun char => !Uri.endsPath char) =
      (shortened basePath).toList := by
  have cut : (basePath.toList.takeWhile fun char => !Uri.endsPath char).length ≠
      basePath.toList.length := by
    intro whole
    have same : (shortened basePath).toList = basePath.toList := by
      rw [shortened, String.toList_ofList, (List.takeWhile_prefix _).eq_of_length whole]
    exact not_isPrefix_shortened marked (same.symm ▸ List.prefix_refl _)
  rw [String.toList_append, List.takeWhile_append, if_neg cut, shortened, String.toList_ofList]

/-- The path that is left of a URL belongs to no endpoint. -/
theorem ofPath_shortened (accepted : IsBasePath basePath) (marked : ¬ PlainInUrl basePath) :
    Route.ofPath basePath (shortened basePath) = .unknown := by
  have client : ¬ Peer.clientPath.toList <+: (shortened basePath).toList := fun starts =>
    accepted.reserved_not_isPrefix (by simp [Peer.reservedPaths])
      (starts.trans (shortened_isPrefix basePath))
  have statistics : shortened basePath ≠ Peer.statsPath := fun same =>
    accepted.reserved_not_isPrefix (by simp [Peer.reservedPaths])
      (same ▸ shortened_isPrefix basePath)
  rw [Route.ofPath, Http.stripStart?_eq_none_iff.mpr (not_isPrefix_shortened marked)]
  simp only [Http.stripStart?_eq_none_iff.mpr client, if_neg statistics]

/--
The URL of a key is the address of the other node, the base path and the path
of the key.  The path of this URL is the one by which a server with the same
base path finds the key, exactly if there is no question mark and no number sign
in the base path; otherwise such a server does not know the path of the URL.
The URL can be read as it was written exactly if the address can be read, the
characters of the base path may stand in a path, and the URL is not too long.
-/
theorem peer_url_path_iff {document : Yaml.Value} {settings : Peer.Settings}
    {members : List String} (accepted : Peer.Settings.read document = .ok (settings, members))
    {member scheme authority : String} (origin : Uri.IsOrigin member scheme authority)
    {target : Target} (named : target.group ≠ "") :
    let client := Peer.Pool.clientOf settings member
    let path := settings.basePath ++ target.path
    client.url target = member ++ path ∧
    (Uri.pathIn? (client.url target) = some path ↔
      '?' ∉ settings.basePath.toList ∧ '#' ∉ settings.basePath.toList) ∧
    (∀ (pool : Option Peer.Pool) (groups : List Group), basePathOf pool = settings.basePath →
      dispatch pool (some groups) servedMethod path = .lookUp true target) ∧
    (¬ ('?' ∉ settings.basePath.toList ∧ '#' ∉ settings.basePath.toList) →
      ∃ left, Uri.pathIn? (client.url target) = some left ∧
        ∀ (pool : Option Peer.Pool) (groups : List Group),
          basePathOf pool = settings.basePath →
          dispatch pool (some groups) servedMethod left =
            .respond (messageResponse 404 "not found")) ∧
    (∀ uri : Uri, client.uri? target = some uri →
      Uri.pathIn? (client.url target) = some uri.path) ∧
    (client.uri? target = some ⟨scheme, authority, path, none⟩ ↔
      scheme.toList.length ≤ Uri.schemeLimit ∧ authority ≠ "" ∧
        Uri.isAuthority authority.toList = true ∧
        (∀ char ∈ settings.basePath.toList, Uri.isPathChar char = true) ∧
        (client.url target).utf8ByteSize ≤ Uri.byteLimit) := by
  intro client path
  have isBasePath := Peer.Settings.isBasePath_basePath accepted
  have starts : path.toList.head? = some '/' := by
    obtain ⟨rest, written⟩ := isBasePath.starts
    simp [path, written]
  have url : client.url target = member ++ path := String.append_assoc
  have found := origin.pathIn?_append starts
  rw [← plainInUrl_iff]
  refine ⟨url, ?_, fun pool groups shared => ?_, fun marked => ?_, fun uri parsed => ?_, ?_⟩
  · rw [url, found, Option.some.injEq, ← takeWhile_path_eq_self_iff target, ← String.toList_inj,
      String.toList_ofList]
  · have dispatched := dispatch_peer pool groups named
    rwa [shared] at dispatched
  · refine ⟨shortened settings.basePath, ?_, fun pool groups shared => ?_⟩
    · rw [url, found, takeWhile_path_of_not_plain marked, String.ofList_toList]
    · rw [dispatch_served, shared, ofPath_shortened isBasePath marked, Route.action]
  · rw [url]
    exact origin.path_of_parse? starts (url ▸ parsed)
  · have allowed : (∀ char ∈ path.toList, Uri.isPathChar char = true) ↔
        ∀ char ∈ settings.basePath.toList, Uri.isPathChar char = true := by
      constructor
      · intro all char present
        exact all char (by simp [path, present])
      · intro base char present
        rcases List.mem_append.mp (String.toList_append ▸ present) with start | rest
        · exact base char start
        · exact Uri.isPathChar_of_mem_path rest
    rw [← allowed, Peer.Client.uri?, url]
    exact origin.parse?_append_eq_iff starts

/-- A base path with a question mark. -/
def markedPath : Yaml.Value :=
  .hash [(.str "peers", .hash [(.str "base_path", .str "/p?q/")])]

theorem markedPath_accepted :
    Peer.Settings.read markedPath =
      .ok ({ Peer.Settings.standard with basePath := "/p?q/" }, []) := by
  decide +kernel

theorem peer_url_path_iff_marked :
    let settings : Peer.Settings := { Peer.Settings.standard with basePath := "/p?q/" }
    let url := "http://h:1/p?q/g/k"
    Peer.Settings.read markedPath = .ok (settings, []) ∧
      (Peer.Pool.clientOf settings "http://h:1").url ⟨"g", "k"⟩ = url ∧
      Uri.pathIn? url ≠ some "/p?q/g/k" ∧
      ∃ left, Uri.pathIn? url = some left ∧
        dispatch (some (.standard settings)) (some []) servedMethod left =
          .respond (messageResponse 404 "not found") := by
  intro settings url
  have origin : Uri.IsOrigin "http://h:1" "http" "h:1" := by decide
  have marked : ¬ ('?' ∉ settings.basePath.toList ∧ '#' ∉ settings.basePath.toList) := by decide
  have path : settings.basePath ++ Target.path ⟨"g", "k"⟩ = "/p?q/g/k" := by decide +kernel
  have named : Target.group ⟨"g", "k"⟩ ≠ "" := by decide
  obtain ⟨written, kept, -, lost, -⟩ := peer_url_path_iff markedPath_accepted origin named
  have same : (Peer.Pool.clientOf settings "http://h:1").url ⟨"g", "k"⟩ = url := by
    rw [written, path]
    decide
  rw [same, path] at kept
  obtain ⟨left, found, unknown⟩ := lost marked
  rw [same] at found
  exact ⟨markedPath_accepted, same, fun whole => marked (kept.mp whole), left, found,
    unknown (some (.standard settings)) [] rfl⟩

/-- An accepted base path may be cut off in the path of a URL. -/
theorem not_every_base_path_in_url :
    ¬ ∀ (document : Yaml.Value) (settings : Peer.Settings) (members : List String)
      (member scheme authority : String) (target : Target),
      Peer.Settings.read document = .ok (settings, members) →
      Uri.IsOrigin member scheme authority → target.group ≠ "" →
        Uri.pathIn? ((Peer.Pool.clientOf settings member).url target) =
          some (settings.basePath ++ target.path) := by
  intro kept
  have origin : Uri.IsOrigin "http://h:1" "http" "h:1" := by decide
  have same := kept markedPath _ [] "http://h:1" "http" "h:1" ⟨"g", "k"⟩ markedPath_accepted origin
    (by decide)
  exact absurd same (by decide +kernel)

end ReadThrough.Server
