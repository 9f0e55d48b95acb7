import ReadThrough.Proofs.Cluster.Advance

/-!
# What happens in a cluster and to it

The calls of a cluster go on while its members, its nodes and its groups
change.  A run is any sequence of such moves.  What the data sources say in it
and which calls are dropped in it can be told from the run.
-/

namespace ReadThrough.Cluster

inductive Move where
  | event (event : Event)
  /-- The fetch of a call breaks off, on its way or while it is answered. -/
  | breakOff (call : Nat) (causes : Causes)
  | applySettings (node : Nat) (settings : Peer.Settings) (members : List String)
  | setMembers (node : Nat) (members : List String)
  | goDown (address : String)
  | goUp (address : String)
  /-- A new group is put under its name at a node. -/
  | register (node : Nat) (name : String) (budget : Nat)
  | attach (member : Nat)

/-- The fetch of a call has failed, if there is one. -/
def breakOff (cluster : Cluster) (call : Nat) (causes : Causes) : Cluster × List Effect :=
  match Ordered.get? call cluster.transits with
  | some _ => cluster.answer call (.error causes)
  | none => (cluster, [])

def reported (changed : Cluster × List Log) : Cluster × List Effect :=
  (changed.1, changed.2.map .log)

def make (cluster : Cluster) : Move → Cluster × List Effect
  | .event event => cluster.step event
  | .breakOff call causes => cluster.breakOff call causes
  | .applySettings node settings members =>
    reported (cluster.applySettings node settings members)
  | .setMembers node members => reported (cluster.setMembers node members)
  | .goDown address => (cluster.goDown address, [])
  | .goUp address => (cluster.goUp address, [])
  | .register node name budget => reported (cluster.register node (.empty name budget))
  | .attach member =>
    match cluster.attach member with
    | .ok next => (next, [])
    | .error _ => (cluster, [])

def play (cluster : Cluster) : List Move → Cluster × List Effect
  | [] => (cluster, [])
  | move :: moves =>
    let (next, effects) := cluster.make move
    let (final, later) := next.play moves
    (final, effects ++ later)

/-- What a data source, or a node outside of the cluster, says about a key of a group. -/
structure Testimony where
  group : String
  key : String
  result : Except Causes Bytes

/-- What is said in a move.  That a fetch has failed says nothing about its key. -/
def testimony? (cluster : Cluster) : Move → Option Testimony
  | .event (.loaded call result) =>
    (cluster.loading? call).map fun (group, key) => ⟨group, key, result⟩
  | .event (.respond call (.ok value)) =>
    match Ordered.get? call cluster.transits with
    | some (.travelling _ group key) => some ⟨group, key, .ok value⟩
    | _ => none
  | _ => none

def Truthful (data : String → Except Causes Bytes) (name : String) (cluster : Cluster)
    (move : Move) : Prop :=
  ∀ testimony ∈ cluster.testimony? move, testimony.group = name →
    testimony.result = data testimony.key

instance (data : String → Except Causes Bytes) (name : String) (cluster : Cluster) (move : Move) :
    Decidable (cluster.Truthful data name move) :=
  inferInstanceAs (Decidable (∀ testimony ∈ cluster.testimony? move, _))

/-- Whatever is said about a group in a sequence of moves is what its data are. -/
def TruthfulThroughout (data : String → Except Causes Bytes) (name : String) (cluster : Cluster) :
    List Move → Prop
  | [] => True
  | move :: moves => cluster.Truthful data name move ∧
    (cluster.make move).1.TruthfulThroughout data name moves

instance decidableTruthfulThroughout (data : String → Except Causes Bytes) (name : String) :
    (cluster : Cluster) → (moves : List Move) →
      Decidable (cluster.TruthfulThroughout data name moves)
  | _, [] => .isTrue True.intro
  | cluster, move :: moves =>
    have := decidableTruthfulThroughout data name (cluster.make move).1 moves
    inferInstanceAs (Decidable (cluster.Truthful data name move ∧ _))

/-- The move drops a call that is under way. -/
def Drops (cluster : Cluster) (move : Move) (call : Nat) : Prop :=
  move = .event (.drop call) ∧ Ordered.get? call cluster.calls ≠ none

def Dropped (cluster : Cluster) (moves : List Move) (call : Nat) : Prop :=
  match moves with
  | [] => False
  | move :: moves => cluster.Drops move call ∨ (cluster.make move).1.Dropped moves call

section

variable {data : String → Except Causes Bytes} {name : String} {asked : Nat → String × String}
  {cluster : Cluster} {right : String → String → Outcome → Prop}

theorem play_append (cluster : Cluster) (before after : List Move) :
    cluster.play (before ++ after) =
      (((cluster.play before).1.play after).1,
        (cluster.play before).2 ++ ((cluster.play before).1.play after).2) := by
  induction before generalizing cluster with
  | nil => rfl
  | cons move before ih =>
      simp only [List.cons_append, play, ih, List.append_assoc]

theorem TruthfulThroughout.split {before after : List Move}
    (truthful : cluster.TruthfulThroughout data name (before ++ after)) :
    cluster.TruthfulThroughout data name before ∧
      (cluster.play before).1.TruthfulThroughout data name after := by
  induction before generalizing cluster with
  | nil => exact ⟨True.intro, truthful⟩
  | cons move before ih =>
      obtain ⟨first, others⟩ := truthful
      obtain ⟨early, late⟩ := ih others
      exact ⟨⟨first, early⟩, late⟩

theorem dropped_append {before after : List Move} {call : Nat} :
    cluster.Dropped (before ++ after) call ↔
      cluster.Dropped before call ∨ (cluster.play before).1.Dropped after call := by
  induction before generalizing cluster with
  | nil => simp [Dropped, play]
  | cons move before ih =>
      rw [List.cons_append, Dropped, Dropped, ih, or_assoc]
      rfl

/-! ## Coherence -/

theorem kept_applySettings (cluster : Cluster) (node : Nat) (settings : Peer.Settings)
    (members : List String) :
    (cluster.applySettings node settings members).1.issued = cluster.issued ∧
      (cluster.applySettings node settings members).1.calls = cluster.calls := by
  rw [applySettings]
  split
  · rename_i pool found
    generalize pool.apply settings members = applied
    exact ⟨rfl, rfl⟩
  · exact ⟨rfl, rfl⟩

theorem kept_setMembers (cluster : Cluster) (node : Nat) (members : List String) :
    (cluster.setMembers node members).1.issued = cluster.issued ∧
      (cluster.setMembers node members).1.calls = cluster.calls := by
  rw [setMembers]
  split
  · exact kept_applySettings cluster node _ members
  · exact ⟨rfl, rfl⟩

theorem kept_register (cluster : Cluster) (node : Nat) (group : Group) :
    (cluster.register node group).1.issued = cluster.issued ∧
      (cluster.register node group).1.calls = cluster.calls := by
  rw [register]
  split
  · exact ⟨rfl, rfl⟩
  · exact ⟨rfl, rfl⟩

theorem kept_attach {member : Nat} {next : Cluster} (attached : cluster.attach member = .ok next) :
    next.issued = cluster.issued ∧ next.calls = cluster.calls := by
  rw [attach] at attached
  split at attached
  · rename_i home found
    cases again : home.group.attach with
    | error problem =>
        rw [again] at attached
        cases attached
    | ok group =>
        rw [again] at attached
        cases attached
        exact ⟨rfl, rfl⟩
  · cases attached
    exact ⟨rfl, rfl⟩

theorem advance_reported {changed : Cluster × List Log}
    (coherent : Coherent right asked changed.1)
    (kept : changed.1.issued = cluster.issued ∧ changed.1.calls = cluster.calls) :
    Advance right asked asked cluster (reported changed) :=
  .stay coherent kept.1 kept.2 (by simp [reported])

theorem advance_make (coherent : Coherent right asked cluster) {move : Move}
    (admissible : ∀ event, move = .event event → event.Admissible right cluster)
    (refused : ∀ name, right name "" (.error .invalidKey)) :
    ∃ later, Advance right asked later cluster (cluster.make move) := by
  cases move with
  | event event => exact advance_step coherent event (admissible event rfl) refused
  | breakOff call causes =>
      rw [make, breakOff]
      split
      · rename_i transit fetch
        obtain ⟨known, -⟩ := coherent.fetched call transit fetch
        exact ⟨asked, advance_answer coherent known (by simp)⟩
      · exact ⟨asked, .stay coherent rfl rfl (by simp)⟩
  | applySettings node settings members =>
      exact ⟨asked, advance_reported (coherent.applySettings node settings members)
        (kept_applySettings cluster node settings members)⟩
  | setMembers node members =>
      exact ⟨asked, advance_reported (coherent.setMembers node members)
        (kept_setMembers cluster node members)⟩
  | goDown address =>
      have unreached : Coherent right asked (cluster.goDown address) :=
        coherent.of_groups (fun _ _ => rfl) rfl rfl rfl rfl
      exact ⟨asked, .stay unreached rfl rfl (by simp [make])⟩
  | goUp address =>
      have reached : Coherent right asked (cluster.goUp address) :=
        coherent.of_groups (fun _ _ => rfl) rfl rfl rfl rfl
      exact ⟨asked, .stay reached rfl rfl (by simp [make])⟩
  | register node name budget =>
      exact ⟨asked, advance_reported (coherent.register node name budget)
        (kept_register cluster node (.empty name budget))⟩
  | attach member =>
      rw [make]
      split
      · rename_i next attached
        obtain ⟨issued, calls⟩ := kept_attach attached
        exact ⟨asked, .stay (coherent.attach attached) issued calls (by simp)⟩
      · exact ⟨asked, .stay coherent rfl rfl (by simp)⟩

end

end ReadThrough.Cluster
