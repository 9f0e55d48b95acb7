import ReadThrough.Proofs.Peer.Ring

/-!
# Histories of rings

However members are placed and removed, the held positions ascend, and each is
one of the positions of its holder.
-/

namespace ReadThrough.Peer

open Ordered (Ascending)

inductive Operation where
  | add (members : List String)
  | remove (member : String)
  deriving DecidableEq

namespace Ring

def perform (ring : Ring) : Operation → Ring
  | .add members => ring.add members
  | .remove member => ring.remove member

def run (ring : Ring) (operations : List Operation) : Ring :=
  operations.foldl perform ring

/-- What holds of a ring at any time. -/
structure Valid (ring : Ring) : Prop where
  ascending : Ascending ring.nodes
  placed : ∀ {position holder}, ring.holder? position = some holder →
    ring.places position holder

@[simp]
theorem replicas_add (ring : Ring) (members : List String) :
    (ring.add members).replicas = ring.replicas := by
  induction members generalizing ring with
  | nil => rfl
  | cons member members ih => exact ih (ring.addMember member)

@[simp]
theorem hash_perform (ring : Ring) (operation : Operation) :
    (ring.perform operation).hash = ring.hash := by
  cases operation with
  | add members => exact hash_add ring members
  | remove member => rfl

@[simp]
theorem replicas_perform (ring : Ring) (operation : Operation) :
    (ring.perform operation).replicas = ring.replicas := by
  cases operation with
  | add members => exact replicas_add ring members
  | remove member => rfl

theorem hash_run (ring : Ring) (operations : List Operation) :
    (ring.run operations).hash = ring.hash := by
  induction operations generalizing ring with
  | nil => rfl
  | cons first operations ih => exact (ih (ring.perform first)).trans (hash_perform ring first)

theorem replicas_run (ring : Ring) (operations : List Operation) :
    (ring.run operations).replicas = ring.replicas := by
  induction operations generalizing ring with
  | nil => rfl
  | cons first operations ih =>
      exact (ih (ring.perform first)).trans (replicas_perform ring first)

theorem places_congr {ring other : Ring} (hash : other.hash = ring.hash)
    (replicas : other.replicas = ring.replicas) : other.places = ring.places := by
  funext position member
  rw [places, places, hash, replicas]

/-- Whoever is removed no longer holds any of its positions. -/
theorem holder?_remove_eq_some_iff {ring : Ring} (ascending : Ascending ring.nodes)
    {member holder : String} {position : UInt32} :
    (ring.remove member).holder? position = some holder ↔
      ring.holder? position = some holder ∧
        ¬(holder = member ∧ ring.places position member) := by
  have kept : (ring.remove member).holder? position = _ := ascending.get?_filter _ position
  rw [kept, Option.filter_eq_some_iff]
  simp [holder?, places, Decidable.imp_iff_not_or]

/-! ## Placing and removing -/

theorem valid_empty (hash : Hash) (replicas : Nat) : (empty hash replicas).Valid :=
  ⟨.nil, fun held => nomatch held⟩

namespace Valid

variable {ring : Ring} (valid : ring.Valid)

include valid

theorem add (members : List String) : (ring.add members).Valid where
  ascending := ascending_add valid.ascending members
  placed {position holder} held := by
    rw [places_congr (hash_add ring members) (replicas_add ring members)]
    rw [holder?_add] at held
    rcases Option.or_eq_some_iff.mp held with new | ⟨-, old⟩
    · exact List.find?_some new
    · exact valid.placed old

theorem remove (member : String) : (ring.remove member).Valid where
  ascending := valid.ascending.filter _
  placed held :=
    valid.placed ((holder?_remove_eq_some_iff valid.ascending).mp held).1

theorem perform (operation : Operation) : (ring.perform operation).Valid := by
  cases operation with
  | add members => exact valid.add members
  | remove member => exact valid.remove member

theorem run (operations : List Operation) : (ring.run operations).Valid := by
  induction operations generalizing ring with
  | nil => exact valid
  | cons first operations ih => exact ih (valid.perform first)

/-- The holder of the nearest held position is the owner. -/
theorem owner_of_nearest {key holder : String} {position : UInt32}
    (held : ring.holder? position = some holder) (nearest : ring.Nearest key position) :
    ring.owner? key = some holder := by
  cases owned : ring.owner? key with
  | none =>
      rw [holder?, (owner?_eq_none_iff ring key).mp owned] at held
      cases held
  | some owner =>
      obtain ⟨other, heldOther, nearestOther⟩ := owner_nearest valid.ascending owned
      obtain rfl : other = position :=
        distance_inj (Nat.le_antisymm (nearestOther _ _ held) (nearest _ _ heldOther))
      rw [← heldOther, held]

end Valid

end Ring

end ReadThrough.Peer
