import ReadThrough.Proofs.Cluster.Reaction

/-!
# Fetches that reach any node

An address may be spelt in several ways, so the nodes that have the same members
need not agree on who they are: a fetch may reach any node, even the one that it
comes from.  What holds for all such runs does not depend on the addresses.
-/

namespace ReadThrough.Cluster

/-- What happens in a cluster or to it, if an address may stand for any node. -/
inductive Occurrence where
  | move (move : Move)
  /-- The fetch of a call reaches a node. -/
  | reach (call node : Nat)

/-- The node takes up the fetch of a call that is on its way. -/
def reach (cluster : Cluster) (call node : Nat) : Cluster × List Effect :=
  match Ordered.get? call cluster.transits with
  | some (.travelling _ group key) => cluster.deliver call node group key
  | _ => (cluster, [])

def undergo (cluster : Cluster) : Occurrence → Cluster × List Effect
  | .move move => cluster.make move
  | .reach call node => cluster.reach call node

def undergoAll (cluster : Cluster) : List Occurrence → Cluster × List Effect
  | [] => (cluster, [])
  | occurrence :: occurrences =>
    let (next, effects) := cluster.undergo occurrence
    let (final, later) := next.undergoAll occurrences
    (final, effects ++ later)

theorem undergoAll_append (cluster : Cluster) (before after : List Occurrence) :
    cluster.undergoAll (before ++ after) =
      (((cluster.undergoAll before).1.undergoAll after).1,
        (cluster.undergoAll before).2 ++ ((cluster.undergoAll before).1.undergoAll after).2) := by
  induction before generalizing cluster with
  | nil => rfl
  | cons occurrence before ih => simp only [List.cons_append, undergoAll, ih, List.append_assoc]

theorem undergoAll_concat (cluster : Cluster) (history : List Occurrence)
    (occurrence : Occurrence) :
    cluster.undergoAll (history ++ [occurrence]) =
      (((cluster.undergoAll history).1.undergo occurrence).1,
        (cluster.undergoAll history).2 ++
          ((cluster.undergoAll history).1.undergo occurrence).2) := by
  rw [undergoAll_append]
  simp [undergoAll]

/-- Whatever the answers are, a cluster whose groups are sound stays so. -/
theorem advance_undergo {asked : Nat → String × String} {cluster : Cluster}
    (coherent : Coherent (fun _ _ _ => True) asked cluster) (occurrence : Occurrence) :
    ∃ later, Advance (fun _ _ _ => True) asked later cluster (cluster.undergo occurrence) := by
  cases occurrence with
  | move move =>
      refine advance_make coherent (fun event _ => ?_) fun _ => True.intro
      cases event with
      | respond call result => cases result <;> simp [Event.Admissible]
      | _ => simp [Event.Admissible]
  | reach call node =>
      rw [undergo, reach]
      split
      · rename_i address name key fetch
        exact advance_deliver coherent fetch node fun _ => True.intro
      · exact ⟨asked, .stay coherent rfl rfl (by simp)⟩

end ReadThrough.Cluster
