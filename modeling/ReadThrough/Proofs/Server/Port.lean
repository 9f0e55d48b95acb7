import Mathlib.Tactic.Common
import ReadThrough.Proofs.Peer.Settings
import ReadThrough.Server.Basic
import ReadThrough.Server.Socket
import Std.Data.String.ToInt

/-!
# The port of a node

The server takes a configured integer that is no port for an absent one.  The
address by which a node without a configured one knows itself, and the summary
of the configuration, take the integer as it is.  So the three of them name the
same port unless the configuration holds an integer that is no port.
-/

namespace ReadThrough.Server

open Config (query summary)
open Yaml (Value)

/-! ## The port in an address -/

namespace Host

theorem parts_cons_self (separator : Char) (rest : List Char) :
    parts separator (separator :: rest) = [] :: parts separator rest := by
  simp only [parts, Config.splitAt, if_true]

/-- Any other character belongs to the first part. -/
theorem parts_cons_of_ne {separator char : Char} (different : char ≠ separator)
    (rest : List Char) :
    ∃ head tail, parts separator rest = head :: tail ∧
      parts separator (char :: rest) = (char :: head) :: tail := by
  refine ⟨(Config.splitAt separator rest).1, (Config.splitAt separator rest).2, rfl, ?_⟩
  simp only [parts, Config.splitAt, if_neg different]

theorem parts_of_not_mem {separator : Char} {chars : List Char} (plain : separator ∉ chars) :
    parts separator chars = [chars] := by
  induction chars with
  | nil => rfl
  | cons char rest ih =>
      obtain ⟨different, plainRest⟩ := List.ne_and_not_mem_of_not_mem_cons plain
      obtain ⟨head, tail, same, longer⟩ := parts_cons_of_ne (Ne.symm different) rest
      rw [ih plainRest] at same
      cases same
      exact longer

/-- The last part of a text is what follows its last separator. -/
theorem parts_append {separator : Char} {tail : List Char} (plain : separator ∉ tail)
    (head : List Char) :
    parts separator (head ++ separator :: tail) = parts separator head ++ [tail] := by
  induction head with
  | nil =>
      rw [List.nil_append, parts_cons_self, parts_of_not_mem plain]
      rfl
  | cons char rest ih =>
      by_cases same : char = separator
      · rw [same, List.cons_append, parts_cons_self, parts_cons_self, ih, List.cons_append]
      · obtain ⟨first, others, short, long⟩ := parts_cons_of_ne same rest
        obtain ⟨first', others', short', long'⟩ :=
          parts_cons_of_ne same (rest ++ separator :: tail)
        rw [ih, short] at short'
        cases short'
        rw [List.cons_append, long', long]
        rfl

/-- The parts of a text, with the separators between them, are the text. -/
theorem intercalate_parts (separator : Char) (chars : List Char) :
    [separator].intercalate (parts separator chars) = chars := by
  induction chars with
  | nil => rfl
  | cons char rest ih =>
      by_cases same : char = separator
      · obtain ⟨head, tail, split⟩ : ∃ head tail, parts separator rest = head :: tail :=
          ⟨_, _, rfl⟩
        rw [same, parts_cons_self, split, List.intercalate_cons_cons, ← split, ih]
        rfl
      · obtain ⟨head, tail, short, long⟩ := parts_cons_of_ne same rest
        rw [short] at ih
        rw [long, ← ih]
        cases tail <;> simp [List.intercalate_cons_cons]

end Host

theorem hostAndPort_append (host : String) {port : String} (plain : ':' ∉ port.toList) :
    hostAndPort (host ++ ":" ++ port) = (host, port) := by
  have parts : Host.parts ':' (host ++ ":" ++ port).toList =
      Host.parts ':' host.toList ++ [port.toList] := by
    rw [String.toList_append, String.toList_append, List.append_assoc]
    exact Host.parts_append plain host.toList
  rw [hostAndPort, parts, List.dropLast_concat, List.getLastD_concat, Host.intercalate_parts,
    String.ofList_toList, String.ofList_toList]

/-- A number in decimal holds nothing but digits and a sign. -/
theorem colon_not_mem_toString (number : Int) : ':' ∉ (toString number).toList := by
  have plain (digits : Nat) : ':' ∉ digits.repr.toList := by
    rw [Nat.repr_eq_ofList_toDigits, String.toList_ofList]
    intro present
    have digital := Nat.isDigit_of_mem_toDigits (by decide) (by decide) present
    simp at digital
  rw [Int.toString_eq_repr, Int.repr_eq_if]
  split
  · exact plain _
  · simpa using plain _

theorem hostAndPort_toString (host : String) (port : Int) :
    hostAndPort (host ++ ":" ++ toString port) = (host, toString port) :=
  hostAndPort_append host (colon_not_mem_toString port)

theorem toString_inj {left right : Int} : toString left = toString right ↔ left = right := by
  rw [Int.toString_eq_repr, Int.toString_eq_repr, Int.repr_inj]

/-! ## The port in a configuration -/

variable {document : Value}

def IsPort (number : Int) : Prop := 0 < number ∧ number ≤ portLimit

/-- Whether a configuration holds no integer for the port that is none. -/
def PortUsable (document : Value) : Prop :=
  ∀ number, query document "server.port" = .int number → IsPort number

/-- The port of the configuration, whether or not it is one. -/
def writtenPort (document : Value) : Int :=
  (query document "server.port").asInt?.getD Config.defaultPort

/-- What the summary of a configuration says beside the address. -/
def summaryCounts (document : Value) : String :=
  toString (Config.itemCount (query document "peers.members")) ++ " peer(s), " ++
    toString (Config.entryCount (query document "groups")) ++ " group(s)."

def summaryAt (address : String) (document : Value) : String :=
  "Node config: server at " ++ address ++ ", " ++ summaryCounts document

/-- A server always opens a port. -/
theorem isPort_portOf (document : Value) : IsPort (portOf document) := by
  have standard : IsPort Config.defaultPort := ⟨by decide, by decide⟩
  rw [portOf]
  split
  · split
    next inRange => exact inRange
    next => exact standard
  · exact standard

theorem portOf_of_not_isPort {number : Int} (written : query document "server.port" = .int number)
    (unusable : ¬ IsPort number) : portOf document = Config.defaultPort := by
  rw [portOf, written]
  exact if_neg unusable

/-- The server opens the written port exactly if nothing but a port is written. -/
theorem writtenPort_eq_portOf_iff :
    writtenPort document = portOf document ↔ PortUsable document := by
  cases written : query document "server.port" with
  | int number =>
      have same : writtenPort document = number := by rw [writtenPort, written]; rfl
      rw [same]
      constructor
      · intro served other again
        rw [written] at again
        cases again
        exact served ▸ isPort_portOf document
      · intro usable
        rw [portOf, written]
        exact (if_pos (usable number written)).symm
  | _ =>
      refine iff_of_true ?_ fun number again => ?_
      · simp [writtenPort, portOf, written, Value.asInt?]
      · rw [written] at again
        cases again

theorem hostAndPort_addressOf (document : Value) :
    hostAndPort (addressOf document) = (hostOf document, toString (portOf document)) :=
  hostAndPort_toString (hostOf document) (portOf document)

/-- A node without a configured address takes the written port for its own. -/
theorem readSelf_of_absent {self : String}
    (absent : query document "peers.self" = .bad ∨ query document "peers.self" = .null)
    (accepted : Peer.Settings.readSelf document = .ok self) :
    self = "http://localhost" ++ ":" ++ toString (writtenPort document) := by
  rw [Peer.Settings.readSelf] at accepted
  rcases absent with absent | absent <;>
    · rw [absent] at accepted
      cases accepted
      rfl

/-- The summary names the written port. -/
theorem summary_eq_summaryAt (document : Value) :
    summary document =
      summaryAt (hostOf document ++ ":" ++ toString (writtenPort document)) document := by
  have regroup (start host colon port comma first second third fourth : String) :
      start ++ host ++ colon ++ port ++ comma ++ first ++ second ++ third ++ fourth =
        start ++ (host ++ colon ++ port) ++ comma ++ (first ++ second ++ third ++ fourth) := by
    simp only [String.append_assoc]
  exact regroup _ _ _ _ _ _ _ _ _

theorem summaryAt_inj {left right : String} :
    summaryAt left document = summaryAt right document ↔ left = right := by
  unfold summaryAt
  -- The literal texts would be evaluated in the search for an instance of the law.
  generalize "Node config: server at " = start, ", " = comma
  rw [String.append_left_inj, String.append_left_inj, String.append_right_inj]

/--
A server opens a port whatever the configuration holds.  A node without a
configured address knows itself by this port, and the summary of the
configuration names it, exactly if the configuration does not hold an integer
that is no port.  If it does, then the server takes the default port in its
place, while the node and the summary keep it.
-/
theorem own_port_served_iff {settings : Peer.Settings} {members : List String}
    (absent : query document "peers.self" = .bad ∨ query document "peers.self" = .null)
    (accepted : Peer.Settings.read document = .ok (settings, members)) :
    IsPort (portOf document) ∧
    hostAndPort (addressOf document) = (hostOf document, toString (portOf document)) ∧
    ((hostAndPort settings.self).2 = (hostAndPort (addressOf document)).2 ↔
      PortUsable document) ∧
    (summary document = summaryAt (addressOf document) document ↔ PortUsable document) ∧
    ∀ number, query document "server.port" = .int number → ¬ IsPort number →
      addressOf document = hostOf document ++ ":" ++ toString Config.defaultPort ∧
      settings.self = Peer.localAddress number ∧
      summary document = summaryAt (hostOf document ++ ":" ++ toString number) document := by
  have self := readSelf_of_absent absent (Peer.Settings.parts_of_read accepted).1
  have served := hostAndPort_addressOf document
  refine ⟨isPort_portOf document, served, ?_, ?_, ?_⟩
  · rw [self, hostAndPort_toString, served, toString_inj]
    exact writtenPort_eq_portOf_iff
  · rw [summary_eq_summaryAt, summaryAt_inj, addressOf, String.append_right_inj, toString_inj]
    exact writtenPort_eq_portOf_iff
  · intro number written unusable
    have same : writtenPort document = number := by rw [writtenPort, written]; rfl
    rw [same] at self
    refine ⟨?_, self, ?_⟩
    · rw [addressOf, portOf_of_not_isPort written unusable]
      rfl
    · rw [summary_eq_summaryAt, same]

/-- A configuration with an integer beyond all ports, and colons in the host. -/
def beyondPorts : Value :=
  .hash [(.str "server", .hash [(.str "host", .str "::1"), (.str "port", .int 70000)])]

theorem own_port_served_iff_beyond :
    let settings : Peer.Settings :=
      { Peer.Settings.standard with self := "http://localhost:70000" }
    Peer.Settings.read beyondPorts = .ok (settings, []) ∧
      hostAndPort (addressOf beyondPorts) = ("::1", "8001") ∧
      (hostAndPort settings.self).2 ≠ (hostAndPort (addressOf beyondPorts)).2 ∧
      summary beyondPorts = summaryAt "::1:70000" beyondPorts := by
  intro settings
  have absent : query beyondPorts "peers.self" = .bad := by decide +kernel
  have accepted : Peer.Settings.read beyondPorts = .ok (settings, []) := by decide +kernel
  have port : query beyondPorts "server.port" = .int 70000 := by decide +kernel
  have host : hostOf beyondPorts = "::1" := by decide +kernel
  have selected : portOf beyondPorts = 8001 := by decide +kernel
  have unusable : ¬ IsPort 70000 := fun ⟨_, inRange⟩ => absurd inRange (by decide)
  obtain ⟨-, served, identity, -, written⟩ := own_port_served_iff (.inl absent) accepted
  obtain ⟨-, -, reported⟩ := written 70000 port unusable
  rw [host, selected] at served
  rw [host] at reported
  exact ⟨accepted, served, fun same => unusable (identity.mp same _ port), reported⟩

/-- A node may know itself by a port that it does not serve, and report this port. -/
theorem not_own_port_always_served :
    ¬ ∀ (document : Value) (settings : Peer.Settings) (members : List String),
      query document "peers.self" = .bad → Peer.Settings.read document = .ok (settings, members) →
        (hostAndPort settings.self).2 = (hostAndPort (addressOf document)).2 ∧
        summary document = summaryAt (addressOf document) document := by
  intro served
  have same := (served beyondPorts { Peer.Settings.standard with self := "http://localhost:70000" }
    [] (by decide +kernel) (by decide +kernel)).1
  exact absurd same (by decide +kernel)

end ReadThrough.Server
