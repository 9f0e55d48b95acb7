import ReadThrough.Proofs.Peer.Table
import ReadThrough.Proofs.Since

/-!
# Who holds a position

A position is held by the member that was placed there last, until this member
is removed.  So placing members a second time changes nothing, removing a member
leaves the positions of all others alone, and placing and removing a member
costs the others only the positions that it shares with them.
-/

namespace ReadThrough.Peer

inductive Move where
  | place (member : String)
  | remove (member : String)
  deriving DecidableEq

/-- The moves of an operation; several members are placed one after the other. -/
def Operation.moves : Operation → List Move
  | .add members => members.map .place
  | .remove member => [.remove member]

def movesOf (operations : List Operation) : List Move :=
  operations.flatMap Operation.moves

/--
The last time that somebody was placed at the position it was the member, and
the member was not removed since.
-/
def PlacedLast (hash : Hash) (replicas : Nat) (position : UInt32) (member : String) :
    List Move → Prop :=
  Since (fun _ move => move = .place member ∧ position ∈ Ring.positions hash replicas member)
    fun _ move => move ≠ .remove member ∧
      ∀ other, move = .place other → position ∉ Ring.positions hash replicas other

namespace Ring

theorem places_iff {ring : Ring} {position : UInt32} {member : String} :
    ring.places position member ↔ position ∈ positions ring.hash ring.replicas member :=
  List.contains_iff_mem

/-! ## Moves -/

def move (ring : Ring) : Move → Ring
  | .place member => ring.addMember member
  | .remove member => ring.remove member

theorem run_eq_moves (ring : Ring) (operations : List Operation) :
    ring.run operations = (movesOf operations).foldl move ring := by
  induction operations generalizing ring with
  | nil => rfl
  | cons first operations ih =>
      have performed : ring.perform first = first.moves.foldl move ring := by
        cases first with
        | add members => exact (List.foldl_map (f := Move.place) (g := move)).symm
        | remove member => rfl
      rw [movesOf, List.flatMap_cons, List.foldl_append, ← performed]
      exact ih (ring.perform first)

theorem valid_move {ring : Ring} (valid : ring.Valid) (move : Move) : (ring.move move).Valid := by
  cases move with
  | place member => exact valid.add [member]
  | remove member => exact valid.remove member

theorem places_move (ring : Ring) (move : Move) : (ring.move move).places = ring.places := by
  cases move with
  | place member => exact places_congr rfl rfl
  | remove member => exact places_congr rfl rfl

namespace Valid

variable {ring : Ring} (valid : ring.Valid)

include valid

/-- Whoever is removed holds nothing any longer, and all others hold what they held. -/
theorem holder?_remove_iff {member holder : String} {position : UInt32} :
    (ring.remove member).holder? position = some holder ↔
      ring.holder? position = some holder ∧ holder ≠ member := by
  rw [holder?_remove_eq_some_iff valid.ascending]
  refine and_congr_right fun held => not_congr (and_iff_left_of_imp ?_)
  rintro rfl
  exact valid.placed held

/-- A member that is placed and removed again takes its positions with it. -/
theorem holder?_passing_iff {member holder : String} {position : UInt32} :
    ((ring.add [member]).remove member).holder? position = some holder ↔
      ring.holder? position = some holder ∧
        position ∉ positions ring.hash ring.replicas member := by
  rw [(valid.add [member]).holder?_remove_iff, ← places_iff]
  have added : (ring.add [member]).holder? position = _ := holder?_addMember ring member position
  rw [added]
  by_cases placed : ring.places position member
  · simp [placed, eq_comm]
  · rw [if_neg placed]
    refine and_congr_right fun held => ⟨fun _ => placed, ?_⟩
    rintro - rfl
    exact placed (valid.placed held)

end Valid

/-- Members that are placed a second time hold what they held. -/
theorem holder?_again (ring : Ring) (first again : List String) (position : UInt32) :
    ((ring.add (first ++ again)).add again).holder? position =
      (ring.add (first ++ again)).holder? position := by
  have places : (ring.add (first ++ again)).places = ring.places :=
    places_congr (hash_add ring _) (replicas_add ring _)
  rw [holder?_add, places, holder?_add, List.reverse_append, List.find?_append, Option.or_assoc,
    ← Option.or_assoc, Option.or_self]

/-! ## The member that was placed last -/

def ofMoves (hash : Hash) (replicas : Nat) (moves : List Move) : Ring :=
  moves.foldl move (empty hash replicas)

section Moves

variable (hash : Hash) (replicas : Nat) (moves : List Move)

theorem ofMoves_concat (last : Move) :
    ofMoves hash replicas (moves ++ [last]) = (ofMoves hash replicas moves).move last := by
  rw [ofMoves, List.foldl_append]
  rfl

theorem valid_ofMoves : (ofMoves hash replicas moves).Valid := by
  induction moves using List.reverseRecOn with
  | nil => exact valid_empty hash replicas
  | append_singleton moves last ih =>
      rw [ofMoves_concat]
      exact valid_move ih last

theorem places_ofMoves :
    (ofMoves hash replicas moves).places = (empty hash replicas).places := by
  induction moves using List.reverseRecOn with
  | nil => rfl
  | append_singleton moves last ih => rw [ofMoves_concat, places_move, ih]

/-- The member that was placed last at a position holds it, until it is removed. -/
theorem holder?_ofMoves_iff {position : UInt32} {member : String} :
    (ofMoves hash replicas moves).holder? position = some member ↔
      PlacedLast hash replicas position member moves := by
  induction moves using List.reverseRecOn with
  | nil => simp [PlacedLast, ofMoves, holder?_empty]
  | append_singleton moves last ih =>
      rw [PlacedLast, Since.concat_iff, ← PlacedLast, ← ih, ofMoves_concat]
      cases last with
      | place other =>
          rw [move, holder?_addMember, places_ofMoves]
          by_cases placed : position ∈ positions hash replicas other
          · rw [if_pos (places_iff.mpr placed)]
            constructor
            · rintro ⟨⟩
              exact Or.inl ⟨rfl, placed⟩
            · rintro (⟨⟨⟩, -⟩ | ⟨-, -, unplaced⟩)
              · rfl
              · exact absurd placed (unplaced other rfl)
          · rw [if_neg (placed ∘ places_iff.mp)]
            constructor
            · intro held
              refine Or.inr ⟨held, nofun, ?_⟩
              rintro _ ⟨⟩
              exact placed
            · rintro (⟨⟨⟩, own⟩ | ⟨held, -⟩)
              · exact absurd own placed
              · exact held
      | remove other =>
          rw [move, (valid_ofMoves hash replicas moves).holder?_remove_iff]
          simp [eq_comm]

end Moves

theorem run_empty (hash : Hash) (replicas : Nat) (operations : List Operation) :
    (empty hash replicas).run operations = ofMoves hash replicas (movesOf operations) :=
  run_eq_moves (empty hash replicas) operations

end Ring

namespace Table

def Holds (table : Table) (position : UInt32) (member : String) : Prop :=
  position ∈ table.positions ∧ table.holder? position = some member

structure Same (first second : Table) : Prop where
  hash : first.hash = second.hash
  replicas : first.replicas = second.replicas
  positions : first.positions = second.positions
  holders : ∀ position, first.holder? position = second.holder? position

namespace Represents

variable {table : Table} {ring : Ring} (represents : Represents table ring)

include represents

theorem holds_iff {position : UInt32} {member : String} :
    table.Holds position member ↔ ring.holder? position = some member := by
  rw [Holds, represents.mem_positions_iff, represents.holder?_eq]
  exact and_iff_right_of_imp fun held => ⟨member, held⟩

/-- Tables for rings with the same holders are the same. -/
theorem same {other : Table} {otherRing : Ring} (representsOther : Represents other otherRing)
    (valid : ring.Valid) (validOther : otherRing.Valid) (hash : ring.hash = otherRing.hash)
    (replicas : ring.replicas = otherRing.replicas)
    (holders : ∀ position, ring.holder? position = otherRing.holder? position) :
    Same table other := by
  have nodes : ring.nodes = otherRing.nodes := valid.ascending.ext validOther.ascending holders
  refine ⟨?_, ?_, ?_, fun position => ?_⟩
  · rw [represents.hash, representsOther.hash, hash]
  · rw [represents.replicas, representsOther.replicas, replicas]
  · rw [← Array.toList_inj, represents.positions, representsOther.positions, nodes]
  · rw [represents.holder?_eq, representsOther.holder?_eq, holders]

end Represents

/--
After any operations a position is held by a member if and only if the member
was placed there last and not removed since.  Placing the members at the end of
a list a second time changes nothing.  Whoever is removed frees what it holds
and nothing else.  A member that is placed and removed again frees its positions
and nothing else, and leaves everything as it was if all of them were free.
-/
theorem held_by_last_placed (hash : Hash) (replicas : Nat) (operations : List Operation) :
    let table := (empty hash replicas).run operations
    (∀ position member, table.Holds position member ↔
      PlacedLast hash replicas position member (movesOf operations)) ∧
    (∀ first again, Same ((table.add (first ++ again)).add again) (table.add (first ++ again))) ∧
    (∀ member position holder, (table.remove member).Holds position holder ↔
      table.Holds position holder ∧ holder ≠ member) ∧
    ∀ member,
      (∀ position holder, ((table.add [member]).remove member).Holds position holder ↔
        table.Holds position holder ∧ position ∉ Ring.positions hash replicas member) ∧
      ((∀ position ∈ Ring.positions hash replicas member, position ∉ table.positions) →
        Same ((table.add [member]).remove member) table) := by
  intro table
  let ring := (Ring.empty hash replicas).run operations
  have valid : ring.Valid := (Ring.valid_empty hash replicas).run operations
  have represents : Represents table ring :=
    (Represents.empty hash replicas).run (Ring.valid_empty hash replicas) operations
  have sameHash : ring.hash = hash := Ring.hash_run (Ring.empty hash replicas) operations
  have sameReplicas : ring.replicas = replicas :=
    Ring.replicas_run (Ring.empty hash replicas) operations
  have added (members : List String) : Represents (table.add members) (ring.add members) :=
    represents.add valid members
  have removed (member : String) : Represents (table.remove member) (ring.remove member) :=
    represents.remove valid member
  refine ⟨?_, ?_, ?_, fun member => ?_⟩
  · intro position member
    rw [represents.holds_iff, ← Ring.holder?_ofMoves_iff, ← Ring.run_empty]
  · intro first again
    have validFirst := valid.add (first ++ again)
    exact ((added _).add validFirst again).same (added _) (validFirst.add again) validFirst
      (Ring.hash_add _ _) (Ring.replicas_add _ _) (Ring.holder?_again ring first again)
  · intro member position holder
    rw [(removed member).holds_iff, represents.holds_iff, valid.holder?_remove_iff]
  · have validAdded := valid.add [member]
    have passing := (added [member]).remove validAdded member
    refine ⟨?_, fun free => ?_⟩
    · intro position holder
      rw [passing.holds_iff, represents.holds_iff, valid.holder?_passing_iff, sameHash,
        sameReplicas]
    · refine passing.same represents (validAdded.remove member) valid (Ring.hash_add _ _)
        (Ring.replicas_add _ _) fun position => Option.ext fun holder => ?_
      rw [valid.holder?_passing_iff, sameHash, sameReplicas]
      refine and_iff_left_of_imp fun held placed => free position placed ?_
      exact (represents.holds_iff.mpr held).1

/-- The member that took a position over keeps it, and a member at a free position may pass. -/
theorem held_by_last_placed_taken_over :
    let hash : Hash := fun bytes => UInt32.ofNat bytes.length
    let operations : List Operation := [.add ["a", "cc", "b"], .remove "a"]
    let table := (empty hash 2).run operations
    PlacedLast hash 2 2 "b" (movesOf operations) ∧ ¬ ((table.remove "b").Holds 2 "b") ∧
      ¬ (((table.add ["dd"]).remove "dd").Holds 3 "cc") ∧
      (∀ position ∈ Ring.positions hash 2 "ddd", position ∉ table.positions) ∧
      Same ((table.add ["ddd"]).remove "ddd") table := by
  intro hash operations table
  have represents : Represents table ((Ring.empty hash 2).run operations) :=
    (Represents.empty hash 2).run (Ring.valid_empty hash 2) operations
  have positions : table.positions.toList = [2, 3] := represents.positions.trans (by decide)
  have free : ∀ position ∈ Ring.positions hash 2 "ddd", position ∉ table.positions := by
    intro position placed present
    have apart : (Ring.positions hash 2 "ddd").all (· ∉ [2, 3]) = true := by decide
    rw [← Array.mem_toList_iff, positions] at present
    exact of_decide_eq_true (List.all_eq_true.mp apart position placed) present
  obtain ⟨placed, -, removed, passing⟩ := held_by_last_placed hash 2 operations
  refine ⟨(placed 2 "b").mp ⟨?_, by decide⟩, ?_, ?_, free, (passing "ddd").2 free⟩
  · rw [← Array.mem_toList_iff, positions]
    decide
  · exact fun holds => ((removed "b" 2 "b").mp holds).2 rfl
  · exact fun holds => (((passing "dd").1 3 "cc").mp holds).2 (by decide)

end Table

end ReadThrough.Peer
