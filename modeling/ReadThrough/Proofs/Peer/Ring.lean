import ReadThrough.Peer.Ring
import ReadThrough.Proofs.Ordered

/-!
# Owners on a hash ring

The member placed last at a position holds it, and a key belongs to the holder
of the nearest held position, going up from the hash of the key and around the
end of the ring.
-/

namespace ReadThrough.Peer.Ring

open Ordered (Ascending)

/-! ## Distances -/

/-- How far it is from one position to another, going up and around the end of the ring. -/
def distance (start position : UInt32) : Nat := (position - start).toNat

theorem distance_of_le {start position : UInt32} (above : start ≤ position) :
    distance start position = position.toNat - start.toNat := by
  rw [UInt32.le_iff_toNat_le] at above
  have limit := UInt32.toNat_lt position
  rw [distance, UInt32.toNat_sub]
  omega

theorem distance_of_lt {start position : UInt32} (below : position < start) :
    distance start position = UInt32.size - start.toNat + position.toNat := by
  rw [UInt32.lt_iff_toNat_lt] at below
  have limit := UInt32.toNat_lt start
  rw [distance, UInt32.toNat_sub, UInt32.size]
  omega

/-- Of two positions on one side of the start, the lower one is nearer. -/
theorem distance_mono {start first second : UInt32} (le : first ≤ second)
    (side : start ≤ first ∨ second < start) : distance start first ≤ distance start second := by
  rcases side with above | below
  · rw [distance_of_le above, distance_of_le (Std.le_trans above le)]
    rw [UInt32.le_iff_toNat_le] at le
    omega
  · rw [distance_of_lt below, distance_of_lt (Std.lt_of_le_of_lt le below)]
    rw [UInt32.le_iff_toNat_le] at le
    omega

/-- The positions from the start on are nearer than those behind the end of the ring. -/
theorem distance_le_around {start first second : UInt32} (above : start ≤ first)
    (below : second < start) : distance start first ≤ distance start second := by
  have limit := UInt32.toNat_lt_size first
  rw [distance_of_le above, distance_of_lt below]
  omega

/-- Two positions at the same distance are the same. -/
theorem distance_inj {start first second : UInt32}
    (same : distance start first = distance start second) : first = second := by
  rw [distance, distance, UInt32.toNat_inj] at same
  simpa using congrArg (· + start) same

/-! ## Positions and their holders -/

def holder? (ring : Ring) (position : UInt32) : Option String :=
  Ordered.get? position ring.nodes

theorem holder?_empty (hash : Hash) (replicas : Nat) (position : UInt32) :
    (empty hash replicas).holder? position = none := rfl

@[simp]
theorem hash_add (ring : Ring) (members : List String) : (ring.add members).hash = ring.hash := by
  induction members generalizing ring with
  | nil => rfl
  | cons member members ih => exact ih (ring.addMember member)

def places (ring : Ring) (position : UInt32) (member : String) : Bool :=
  (positions ring.hash ring.replicas member).contains position

theorem holder?_addMember (ring : Ring) (member : String) (position : UInt32) :
    (ring.addMember member).holder? position =
      if ring.places position member then some member else ring.holder? position := by
  have placed (nodes : List (UInt32 × String)) (all : List UInt32) :
      Ordered.get? position
        (all.foldl (fun nodes position => Ordered.put position member nodes) nodes) =
        if all.contains position then some member else Ordered.get? position nodes := by
    induction all generalizing nodes with
    | nil => simp
    | cons first rest ih =>
        rw [List.foldl_cons, ih, Ordered.get?_put]
        by_cases same : position = first
        · simp [same]
        · simp [same]
  exact placed ring.nodes _

/-- Of several members that are placed at a position, the last one holds it. -/
theorem holder?_add (ring : Ring) (members : List String) (position : UInt32) :
    (ring.add members).holder? position =
      (members.reverse.find? (ring.places position)).or (ring.holder? position) := by
  induction members generalizing ring with
  | nil => rfl
  | cons member members ih =>
      have rest := ih (ring.addMember member)
      rw [holder?_addMember] at rest
      have own : ([member].find? (ring.places position)).or (ring.holder? position) =
          if ring.places position member then some member else ring.holder? position := by
        by_cases placed : ring.places position member
        · simp [placed]
        · simp [placed]
      rw [List.reverse_cons, List.find?_append, Option.or_assoc, own]
      exact rest

theorem ascending_addMember {ring : Ring} (ascending : Ascending ring.nodes) (member : String) :
    Ascending (ring.addMember member).nodes := by
  have placed (nodes : List (UInt32 × String)) (all : List UInt32) (kept : Ascending nodes) :
      Ascending
        (all.foldl (fun nodes position => Ordered.put position member nodes) nodes) := by
    induction all generalizing nodes with
    | nil => exact kept
    | cons first rest ih => exact ih _ (kept.put first member)
  exact placed ring.nodes _ ascending

theorem ascending_add {ring : Ring} (ascending : Ascending ring.nodes) (members : List String) :
    Ascending (ring.add members).nodes := by
  induction members generalizing ring with
  | nil => exact ascending
  | cons member members ih => exact ih (ascending_addMember ascending member)

/-! ## The nearest held position -/

theorem owner?_eq_none_iff (ring : Ring) (key : String) :
    ring.owner? key = none ↔ ring.nodes = [] := by
  rw [owner?, Option.map_eq_none_iff, Option.or_eq_none_iff, List.head?_eq_none_iff]
  refine and_iff_right_of_imp fun nothing => ?_
  rw [nothing, List.find?_nil]

/-- A position is the nearest held one for a key. -/
def Nearest (ring : Ring) (key : String) (position : UInt32) : Prop :=
  ∀ other holder, ring.holder? other = some holder →
    distance (place ring.hash key) position ≤ distance (place ring.hash key) other

/-- The owner of a key holds the position that is the nearest one for the key. -/
theorem owner_nearest {ring : Ring} (ascending : Ascending ring.nodes) {key owner : String}
    (owned : ring.owner? key = some owner) :
    ∃ position, ring.holder? position = some owner ∧ ring.Nearest key position := by
  obtain ⟨⟨position, holder⟩, chosen, rfl⟩ := Option.map_eq_some_iff.mp owned
  have present : (position, holder) ∈ ring.nodes := by
    rcases Option.or_eq_some_iff.mp chosen with found | ⟨-, first⟩
    · exact List.mem_of_find?_eq_some found
    · exact List.mem_of_head? first
  refine ⟨position, ascending.mem_iff.mp present, ?_⟩
  intro other otherHolder held
  have otherPresent := ascending.mem_iff.mpr held
  -- Either the search found a position at or behind the hash, or it went around the end.
  rcases Option.or_eq_some_iff.mp chosen with found | ⟨missed, first⟩
  · obtain ⟨reached, before, after, split, passed⟩ := List.find?_eq_some_iff_append.mp found
    rw [decide_eq_true_eq] at reached
    by_cases below : other < place ring.hash key
    · exact distance_le_around reached below
    · refine distance_mono ?_ (Or.inl reached)
      rw [split] at ascending otherPresent
      rcases List.mem_append.mp otherPresent with skipped | remaining
      · exact absurd (by simpa using passed _ skipped) below
      · rcases List.mem_cons.mp remaining with same | later
        · rw [(Prod.mk.inj same).1]
          exact Std.le_refl _
        · have behind := (List.pairwise_append.mp ascending).2.1
          exact Std.le_of_lt ((List.pairwise_cons.mp behind).1 _ later)
  · obtain ⟨rest, split⟩ := List.head?_eq_some_iff.mp first
    have below : other < place ring.hash key := by
      simpa using List.find?_eq_none.mp missed _ otherPresent
    rw [split] at ascending otherPresent
    refine distance_mono ?_ (Or.inr below)
    rcases List.mem_cons.mp otherPresent with same | later
    · rw [(Prod.mk.inj same).1]
      exact Std.le_refl _
    · exact Std.le_of_lt ((List.pairwise_cons.mp ascending).1 _ later)

/-! ## Rings of given members -/

section Members

variable {hash : Hash} {replicas : Nat} {members : List String} {position : UInt32}
  {holder key owner : String}

theorem ascending_ofMembers (hash : Hash) (replicas : Nat) (members : List String) :
    Ascending (ofMembers hash replicas members).nodes :=
  ascending_add .nil members

theorem hash_ofMembers (hash : Hash) (replicas : Nat) (members : List String) :
    (ofMembers hash replicas members).hash = hash :=
  hash_add (empty hash replicas) members

theorem holder?_ofMembers (hash : Hash) (replicas : Nat) (members : List String)
    (position : UInt32) :
    (ofMembers hash replicas members).holder? position =
      members.reverse.find? ((empty hash replicas).places position) := by
  rw [ofMembers, holder?_add, holder?_empty, Option.or_none]

/-- Only a member that is placed at a position can hold it. -/
theorem placed_of_holder (held : (ofMembers hash replicas members).holder? position = some holder) :
    holder ∈ members ∧ (empty hash replicas).places position holder := by
  rw [holder?_ofMembers] at held
  exact ⟨List.mem_reverse.mp (List.mem_of_find?_eq_some held), List.find?_some held⟩

theorem holder_of_placed {member : String} (present : member ∈ members)
    (placed : (empty hash replicas).places position member) :
    ∃ holder, (ofMembers hash replicas members).holder? position = some holder := by
  rw [holder?_ofMembers, ← Option.isSome_iff_exists, List.find?_isSome]
  exact ⟨member, List.mem_reverse.mpr present, placed⟩

/-- The members that share a position with its holder come before it. -/
theorem le_holder (ascending : members.Pairwise (· < ·))
    (held : (ofMembers hash replicas members).holder? position = some holder) {member : String}
    (present : member ∈ members) (placed : (empty hash replicas).places position member) :
    member ≤ holder := by
  rw [holder?_ofMembers] at held
  obtain ⟨-, later, earlier, split, passed⟩ := List.find?_eq_some_iff_append.mp held
  have descending : members.reverse.Pairwise (· > ·) := List.pairwise_reverse.mpr ascending
  have among := List.mem_reverse.mpr present
  rw [split] at descending among
  rcases List.mem_append.mp among with skipped | remaining
  · exact absurd placed (by simpa using passed _ skipped)
  · rcases List.mem_cons.mp remaining with rfl | before
    · exact Std.le_refl _
    · have below := (List.pairwise_append.mp descending).2.1
      exact Std.le_of_lt ((List.pairwise_cons.mp below).1 _ before)

theorem owner_mem (owned : (ofMembers hash replicas members).owner? key = some owner) :
    owner ∈ members := by
  obtain ⟨position, held, -⟩ := owner_nearest (ascending_ofMembers hash replicas members) owned
  exact (placed_of_holder held).1

/-- A key has no owner if and only if nobody is placed anywhere. -/
theorem owner?_ofMembers_eq_none_iff :
    (ofMembers hash replicas members).owner? key = none ↔ members = [] ∨ replicas = 0 := by
  constructor
  · intro unowned
    refine Decidable.or_iff_not_imp_left.mpr fun nonempty => ?_
    refine Nat.eq_zero_of_not_pos fun positive => ?_
    obtain ⟨member, present⟩ := List.exists_mem_of_ne_nil members nonempty
    have placed : (empty hash replicas).places (place hash (toString 0 ++ member)) member := by
      rw [places, List.contains_iff_mem]
      exact List.mem_map.mpr ⟨0, List.mem_range.mpr positive, rfl⟩
    obtain ⟨holder, held⟩ := holder_of_placed present placed
    rw [holder?, (owner?_eq_none_iff _ key).mp unowned] at held
    cases held
  · rintro (rfl | rfl)
    · rfl
    · refine Option.eq_none_iff_forall_ne_some.mpr fun owner owned => ?_
      obtain ⟨position, held, -⟩ := owner_nearest (ascending_ofMembers hash 0 members) owned
      simpa [places, positions, empty] using (placed_of_holder held).2

/--
A key whose owner stays a member keeps it, unless it goes to a member that was
not there before.
-/
theorem owner_unique {old new : List String} {successor : String}
    (ascendingOld : old.Pairwise (· < ·)) (ascendingNew : new.Pairwise (· < ·))
    (owned : (ofMembers hash replicas old).owner? key = some owner)
    (ownedAfter : (ofMembers hash replicas new).owner? key = some successor)
    (stays : owner ∈ new) (known : successor ∈ old) : owner = successor := by
  obtain ⟨first, held, nearest⟩ := owner_nearest (ascending_ofMembers hash replicas old) owned
  obtain ⟨second, heldAfter, nearestAfter⟩ :=
    owner_nearest (ascending_ofMembers hash replicas new) ownedAfter
  rw [Nearest, hash_ofMembers] at nearest nearestAfter
  have placed := (placed_of_holder held).2
  have placedAfter := (placed_of_holder heldAfter).2
  -- Each of the two positions is held on both rings, so they are equally near.
  obtain ⟨_, heldThere⟩ := holder_of_placed stays placed
  obtain ⟨_, heldHere⟩ := holder_of_placed known placedAfter
  obtain rfl : first = second :=
    distance_inj (Nat.le_antisymm (nearest second _ heldHere) (nearestAfter first _ heldThere))
  exact Std.le_antisymm (le_holder ascendingNew heldAfter stays placed)
    (le_holder ascendingOld held known placedAfter)

end Members

end ReadThrough.Peer.Ring
