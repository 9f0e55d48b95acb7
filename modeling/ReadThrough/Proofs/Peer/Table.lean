import ReadThrough.Peer.Table
import ReadThrough.Proofs.Peer.Operation

/-!
# Lookups in tables

Members that are placed and removed leave a table whose positions ascend and are
those that have a holder.  The search by halving then finds the first held
position from the hash of a key on, or the first one of all, without ever
missing the table, and the table names the same owners as the ring.
-/

namespace ReadThrough.Peer.Table

open Ordered (Divides)

def perform (table : Table) : Operation → Table
  | .add members => table.add members
  | .remove member => table.remove member

def run (table : Table) (operations : List Operation) : Table :=
  operations.foldl perform table

def holder? (table : Table) (position : UInt32) : Option String :=
  Ordered.get? position table.holders

/-! ## Holders -/

section Holders

variable {holders : List (UInt32 × String)} (member : String) (position : UInt32)

theorem get?_free (holders : List (UInt32 × String)) (other : UInt32) :
    Ordered.get? other (free holders position) =
      if other = position then none else Ordered.get? other holders :=
  Ordered.get?_filter_ne position other holders

theorem distinct_free (distinct : (holders.map Prod.fst).Nodup) :
    ((free holders position).map Prod.fst).Nodup :=
  distinct.sublist (List.filter_sublist.map Prod.fst)

theorem distinct_hold (distinct : (holders.map Prod.fst).Nodup) :
    ((hold member holders position).map Prod.fst).Nodup := by
  rw [hold, List.map_cons, List.nodup_cons]
  refine ⟨fun present => ?_, distinct_free position distinct⟩
  obtain ⟨holder, found⟩ := Ordered.mem_keys_iff.mp present
  rw [get?_free, if_pos rfl] at found
  cases found

theorem distinct_release (distinct : (holders.map Prod.fst).Nodup) :
    ((release member holders position).map Prod.fst).Nodup := by
  rw [release]
  split
  · exact distinct_free position distinct
  · exact distinct

theorem get?_hold (holders : List (UInt32 × String)) (other : UInt32) :
    Ordered.get? other (hold member holders position) =
      if other = position then some member else Ordered.get? other holders := by
  rw [hold, Ordered.get?_cons, get?_free]
  by_cases same : other = position
  · simp [same]
  · simp [same, Ne.symm same]

theorem get?_release_eq_some_iff {other : UInt32} {holder : String} :
    Ordered.get? other (release member holders position) = some holder ↔
      Ordered.get? other holders = some holder ∧ ¬(holder = member ∧ other = position) := by
  rw [release]
  split
  · rename_i held
    rw [get?_free]
    by_cases same : other = position
    · subst same
      simp [held, eq_comm]
    · simp [same]
  · rename_i notHeld
    refine (and_iff_left_of_imp ?_).symm
    rintro held ⟨rfl, rfl⟩
    exact notHeld held

end Holders

/-- The same members hold the same positions. -/
structure Alike (holders nodes : List (UInt32 × String)) : Prop where
  distinct : (holders.map Prod.fst).Nodup
  same : ∀ position, Ordered.get? position holders = Ordered.get? position nodes

theorem Alike.place {holders nodes : List (UInt32 × String)} (alike : Alike holders nodes)
    (member : String) (positions : List UInt32) :
    Alike (positions.foldl (hold member) holders)
      (positions.foldl (fun nodes position => Ordered.put position member nodes) nodes) := by
  induction positions generalizing holders nodes with
  | nil => exact alike
  | cons first rest ih =>
      refine ih ⟨distinct_hold member first alike.distinct, fun other => ?_⟩
      rw [get?_hold, Ordered.get?_put, alike.same]

theorem Alike.add {holders : List (UInt32 × String)} {ring : Ring}
    (alike : Alike holders ring.nodes) (members : List String) :
    Alike (members.foldl (fun holders member =>
      (Ring.positions ring.hash ring.replicas member).foldl (hold member) holders) holders)
      (ring.add members).nodes := by
  induction members generalizing holders ring with
  | nil => exact alike
  | cons member members ih =>
      have placed : Alike _ (ring.addMember member).nodes := alike.place member _
      exact ih placed

theorem get?_releaseAll_eq_some_iff {holders : List (UInt32 × String)} {member holder : String}
    {positions : List UInt32} {other : UInt32} :
    Ordered.get? other (positions.foldl (release member) holders) = some holder ↔
      Ordered.get? other holders = some holder ∧ ¬(holder = member ∧ other ∈ positions) := by
  induction positions generalizing holders with
  | nil => simp
  | cons first rest ih =>
      rw [List.foldl_cons, ih, get?_release_eq_some_iff, List.mem_cons, and_assoc]
      grind

theorem distinct_releaseAll {holders : List (UInt32 × String)}
    (distinct : (holders.map Prod.fst).Nodup) (member : String) (positions : List UInt32) :
    ((positions.foldl (release member) holders).map Prod.fst).Nodup := by
  induction positions generalizing holders with
  | nil => exact distinct
  | cons first rest ih => exact ih (distinct_release member first distinct)

/-! ## Publications -/

section Publications

variable (table : Table) {holders : List (UInt32 × String)}

theorem mem_positions_publish {position : UInt32} :
    position ∈ (table.publish holders).positions.toList ↔ position ∈ holders.map Prod.fst :=
  List.mem_mergeSort

/-- No position occurs twice, so the sorted positions ascend strictly. -/
theorem ascending_publish (distinct : (holders.map Prod.fst).Nodup) :
    (table.publish holders).positions.toList.Pairwise (· < ·) := by
  have sorted : (table.publish holders).positions.toList.Pairwise fun first second =>
      decide (first ≤ second) = true := by
    refine List.pairwise_mergeSort ?_ ?_ _
    · intro first second third below above
      exact decide_eq_true (Std.le_trans (of_decide_eq_true below) (of_decide_eq_true above))
    · intro first second
      simpa using Std.le_total
  have different : (table.publish holders).positions.toList.Nodup :=
    (List.mergeSort_perm _ _).nodup_iff.mpr distinct
  refine (sorted.and different).imp ?_
  rintro first second ⟨below, differs⟩
  exact Std.lt_of_le_of_ne (of_decide_eq_true below) differs

end Publications

/-! ## The ring of a table -/

/-- A table is for searching a ring. -/
structure Represents (table : Table) (ring : Ring) : Prop where
  hash : table.hash = ring.hash
  replicas : table.replicas = ring.replicas
  positions : table.positions.toList = ring.nodes.map Prod.fst
  alike : Alike table.holders ring.nodes

namespace Represents

theorem empty (hash : Hash) (replicas : Nat) :
    Represents (empty hash replicas) (.empty hash replicas) :=
  ⟨rfl, rfl, rfl, .nil, fun _ => rfl⟩

theorem publish {table : Table} {holders : List (UInt32 × String)} {ring : Ring}
    (hash : table.hash = ring.hash) (replicas : table.replicas = ring.replicas)
    (ascending : Ordered.Ascending ring.nodes) (alike : Alike holders ring.nodes) :
    Represents (table.publish holders) ring := by
  refine ⟨hash, replicas, ?_, alike⟩
  refine Ordered.eq_of_mem_iff (ascending_publish table alike.distinct)
    (List.pairwise_map.mpr ascending) fun position => ?_
  rw [mem_positions_publish, Ordered.mem_keys_iff, Ordered.mem_keys_iff]
  simp only [alike.same]

variable {table : Table} {ring : Ring} (represents : Represents table ring)

include represents

theorem add (valid : ring.Valid) (members : List String) :
    Represents (table.add members) (ring.add members) := by
  refine publish ?_ ?_ (valid.add members).ascending ?_
  · rw [Ring.hash_add, represents.hash]
  · rw [Ring.replicas_add, represents.replicas]
  · rw [represents.hash, represents.replicas]
    exact represents.alike.add members

theorem remove (valid : ring.Valid) (member : String) :
    Represents (table.remove member) (ring.remove member) := by
  refine publish represents.hash represents.replicas (valid.remove member).ascending
    ⟨distinct_releaseAll represents.alike.distinct member _, fun position => ?_⟩
  refine Option.ext fun holder => ?_
  rw [get?_releaseAll_eq_some_iff, represents.alike.same, represents.hash, represents.replicas]
  refine Iff.trans ?_ (Ring.holder?_remove_eq_some_iff valid.ascending).symm
  rw [Ring.places, List.contains_iff_mem]
  rfl

theorem perform (valid : ring.Valid) (operation : Operation) :
    Represents (table.perform operation) (ring.perform operation) := by
  cases operation with
  | add members => exact represents.add valid members
  | remove member => exact represents.remove valid member

theorem run (valid : ring.Valid) (operations : List Operation) :
    Represents (table.run operations) (ring.run operations) := by
  induction operations generalizing table ring with
  | nil => exact represents
  | cons first operations ih =>
      exact ih (represents.perform valid first) (valid.perform first)

theorem ascending (valid : ring.Valid) : table.positions.toList.Pairwise (· < ·) := by
  rw [represents.positions]
  exact List.pairwise_map.mpr valid.ascending

theorem holder?_eq (position : UInt32) : table.holder? position = ring.holder? position :=
  represents.alike.same position

theorem mem_positions_iff {position : UInt32} :
    position ∈ table.positions ↔ ∃ holder, table.holder? position = some holder := by
  rw [← Array.mem_toList_iff, represents.positions, Ordered.mem_keys_iff]
  simp only [represents.holder?_eq, Ring.holder?]

theorem mem_members_iff {member : String} :
    member ∈ table.members ↔ ∃ position, table.holder? position = some member := by
  rw [members, Ordered.mem_ofList, Ordered.mem_values_iff represents.alike.distinct]
  rfl

theorem members_eq (valid : ring.Valid) : table.members = ring.members := by
  refine Ordered.eq_of_mem_iff (Ordered.pairwise_ofList _) (Ordered.pairwise_ofList _) ?_
  intro member
  rw [represents.mem_members_iff, Ring.members, Ordered.mem_ofList,
    Ordered.mem_values_iff valid.ascending.keys_nodup]
  simp only [represents.holder?_eq, Ring.holder?]

end Represents

/-! ## The search -/

/--
A position is the first held one from the start on, or the first one of all if
every one is below the start.
-/
def Next (table : Table) (start position : UInt32) : Prop :=
  position ∈ table.positions ∧
    ((start ≤ position ∧ ∀ other ∈ table.positions, start ≤ other → position ≤ other) ∨
      (∀ other ∈ table.positions, other < start) ∧ ∀ other ∈ table.positions, position ≤ other)

theorem indexFrom_divides {table : Table} (ascending : table.positions.toList.Pairwise (· < ·))
    (start : UInt32) : Divides start table.positions (table.indexFrom start) := by
  have divides := Ordered.search_divides ascending start
  rw [indexFrom]
  cases found : Ordered.search start table.positions with
  | ok index =>
      rw [found] at divides
      exact divides.2
  | error index =>
      rw [found] at divides
      exact divides

/-- The remainder leads from behind the last position to the first one. -/
theorem next_of_search {table : Table} (ascending : table.positions.toList.Pairwise (· < ·))
    (nonempty : table.positions ≠ #[]) (start : UInt32) :
    ∃ position, table.positions[table.indexFrom start % table.positions.size]? = some position ∧
      table.Next start position := by
  have divides := indexFrom_divides ascending start
  have positive : 0 < table.positions.size := Array.size_pos_iff.mpr nonempty
  rcases Nat.eq_or_lt_of_le divides.within with behind | inside
  · have first := Ordered.divides_of_getElem ascending positive
    refine ⟨table.positions[0], ?_, Array.getElem_mem positive, Or.inr ⟨?_, ?_⟩⟩
    · rw [behind, Nat.mod_self, Array.getElem?_eq_getElem positive]
    · intro other present
      obtain ⟨index, within, rfl⟩ := Array.mem_iff_getElem.mp present
      exact divides.below index within (behind ▸ within)
    · intro other present
      obtain ⟨index, within, rfl⟩ := Array.mem_iff_getElem.mp present
      exact first.above index within (Nat.zero_le index)
  · have found := Ordered.divides_of_getElem ascending inside
    refine ⟨table.positions[table.indexFrom start], ?_, Array.getElem_mem inside,
      Or.inl ⟨divides.above _ inside (Nat.le_refl _), ?_⟩⟩
    · rw [Nat.mod_eq_of_lt inside, Array.getElem?_eq_getElem inside]
    · intro other present reached
      obtain ⟨index, within, rfl⟩ := Array.mem_iff_getElem.mp present
      refine found.above index within (Nat.le_of_not_lt fun before => ?_)
      exact Std.not_lt.mpr reached (divides.below index within before)

/-- The position that is searched for is the nearest one. -/
theorem Next.distance_le {table : Table} {start position other : UInt32}
    (next : table.Next start position) (present : other ∈ table.positions) :
    Ring.distance start position ≤ Ring.distance start other := by
  obtain ⟨-, ⟨reached, least⟩ | ⟨missed, least⟩⟩ := next
  · by_cases below : other < start
    · exact Ring.distance_le_around reached below
    · exact Ring.distance_mono (least other present (Std.not_lt.mp below)) (Or.inl reached)
  · exact Ring.distance_mono (least other present) (Or.inr (missed other present))

theorem owner?_empty {table : Table} (nothing : table.positions = #[]) (key : String) :
    table.owner? key = .ok none := by
  rw [owner?, nothing]
  rfl

namespace Represents

variable {table : Table} {ring : Ring} (represents : Represents table ring)

include represents

/-- A lookup ends at the holder of the position that is searched for. -/
theorem owner_next (valid : ring.Valid) (nonempty : table.positions ≠ #[]) (key : String) :
    ∃ position owner, table.Next (Ring.place table.hash key) position ∧
      table.holder? position = some owner ∧ table.owner? key = .ok (some owner) := by
  obtain ⟨position, found, next⟩ :=
    next_of_search (represents.ascending valid) nonempty (Ring.place table.hash key)
  obtain ⟨owner, held⟩ := represents.mem_positions_iff.mp next.1
  refine ⟨position, owner, next, held, ?_⟩
  rw [owner?, if_neg (by simpa using nonempty)]
  simp only [found]
  exact congrArg _ held

/-- A table names the owners that its ring has. -/
theorem owner?_eq (valid : ring.Valid) (key : String) :
    table.owner? key = .ok (ring.owner? key) := by
  by_cases nothing : table.positions = #[]
  · have empty : ring.nodes = [] := by
      simpa [nothing] using represents.positions.symm
    rw [owner?_empty nothing, (Ring.owner?_eq_none_iff ring key).mpr empty]
  · obtain ⟨position, owner, next, held, answer⟩ := represents.owner_next valid nothing key
    rw [represents.holder?_eq] at held
    have nearest : ring.Nearest key position := by
      intro other holder heldOther
      rw [← represents.holder?_eq] at heldOther
      rw [← represents.hash]
      exact next.distance_le (represents.mem_positions_iff.mpr ⟨holder, heldOther⟩)
    rw [answer, valid.owner_of_nearest held nearest]

end Represents

/-! ## Lookups after any operations -/

/--
After any operations the positions of a table ascend, they are the ones that
have a holder, and each is one of the positions of its holder.  A lookup never
fails.  It names nobody if and only if there is no position at all, and otherwise
the holder of the first position from the hash of the key on, or of the first
one of all, who is one of the members.  The ring of the same operations has the
same holders, members and owners.
-/
theorem owner_next_position (hash : Hash) (replicas : Nat) (operations : List Operation) :
    let table := (empty hash replicas).run operations
    let ring := (Ring.empty hash replicas).run operations
    table.positions.toList.Pairwise (· < ·) ∧
    (table.holders.map Prod.fst).Nodup ∧
    (∀ position, position ∈ table.positions ↔ position ∈ table.holders.map Prod.fst) ∧
    (∀ position holder, table.holder? position = some holder →
      position ∈ Ring.positions hash replicas holder) ∧
    (∀ key,
      (table.owner? key = .ok none ↔ table.positions = #[]) ∧
      (table.positions ≠ #[] →
        ∃ position owner, table.Next (Ring.place hash key) position ∧
          table.holder? position = some owner ∧ table.owner? key = .ok (some owner) ∧
          owner ∈ table.members)) ∧
    table.positions.toList = ring.nodes.map Prod.fst ∧
    (∀ position, table.holder? position = ring.holder? position) ∧
    table.members = ring.members ∧
    ∀ key, table.owner? key = .ok (ring.owner? key) := by
  intro table ring
  have valid : ring.Valid := (Ring.valid_empty hash replicas).run operations
  have represents : Represents table ring :=
    (Represents.empty hash replicas).run (Ring.valid_empty hash replicas) operations
  have sameHash : table.hash = hash :=
    represents.hash.trans (Ring.hash_run (Ring.empty hash replicas) operations)
  have sameReplicas : ring.replicas = replicas :=
    Ring.replicas_run (Ring.empty hash replicas) operations
  refine ⟨represents.ascending valid, represents.alike.distinct, ?_, ?_, ?_,
    represents.positions, represents.holder?_eq, represents.members_eq valid,
    represents.owner?_eq valid⟩
  · intro position
    rw [represents.mem_positions_iff, Ordered.mem_keys_iff]
    rfl
  · intro position holder held
    rw [represents.holder?_eq] at held
    have placed := valid.placed held
    rw [Ring.places, List.contains_iff_mem, ← represents.hash, sameHash, sameReplicas] at placed
    exact placed
  · intro key
    have found (nonempty : table.positions ≠ #[]) :
        ∃ position owner, table.Next (Ring.place hash key) position ∧
          table.holder? position = some owner ∧ table.owner? key = .ok (some owner) ∧
          owner ∈ table.members := by
      obtain ⟨position, owner, next, held, answer⟩ := represents.owner_next valid nonempty key
      rw [sameHash] at next
      exact ⟨position, owner, next, held, answer,
        represents.mem_members_iff.mpr ⟨position, held⟩⟩
    refine ⟨⟨fun unowned => ?_, fun nothing => owner?_empty nothing key⟩, found⟩
    refine Decidable.byContradiction fun nonempty => ?_
    obtain ⟨position, owner, -, -, answer, -⟩ := found nonempty
    rw [unowned] at answer
    cases answer

/-- A key behind the last position belongs to the holder of the first one. -/
theorem owner_next_position_around :
    let hash : Hash := fun bytes => (bytes.getLastD 0).toUInt32
    let table := (empty hash 1).run [.add ["a", "b", "c"], .remove "b"]
    table.positions.toList = [97, 99] ∧ table.members = ["a", "c"] ∧
      table.owner? "b" = .ok (some "c") ∧ table.owner? "z" = .ok (some "a") := by
  intro hash table
  obtain ⟨-, -, -, -, -, positions, -, members, owners⟩ :=
    owner_next_position hash 1 [.add ["a", "b", "c"], .remove "b"]
  refine ⟨positions.trans (by decide), members.trans (by decide), ?_, ?_⟩
  · exact (owners "b").trans (congrArg Except.ok (by decide))
  · exact (owners "z").trans (congrArg Except.ok (by decide))

end ReadThrough.Peer.Table
