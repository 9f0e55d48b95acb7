import ReadThrough.Proofs.Peer.Placement

/-!
# Keys that change hands

When members are placed on a ring that is in use, a key stays where it is or
goes to one of these members.  When a member is removed, its keys go to others
and no other key moves.  It does not matter which members share positions.
-/

namespace ReadThrough.Peer

namespace Ring

/-- Every position that one ring has is held on the other ring, too. -/
def Among (ring other : Ring) : Prop :=
  ∀ position holder, ring.holder? position = some holder →
    ∃ successor, other.holder? position = some successor

/-- The nearest of all positions is the nearest one of fewer. -/
theorem Nearest.among {ring other : Ring} {key : String} {position : UInt32}
    (nearest : ring.Nearest key position) (among : other.Among ring)
    (hash : other.hash = ring.hash) : other.Nearest key position := by
  intro rival holder held
  obtain ⟨successor, heldThere⟩ := among rival holder held
  rw [hash]
  exact nearest rival successor heldThere

theorem among_add (ring : Ring) (members : List String) : ring.Among (ring.add members) := by
  intro position holder held
  rw [holder?_add, held]
  cases (members.reverse.find? (ring.places position)) with
  | some member => exact ⟨member, rfl⟩
  | none => exact ⟨holder, rfl⟩

/-- A ring whose positions are among those of a ring without owners has no owners either. -/
theorem Valid.owner?_eq_none {ring other : Ring} (valid : other.Valid) (among : other.Among ring)
    {key : String} (unowned : ring.owner? key = none) : other.owner? key = none := by
  refine Option.eq_none_iff_forall_ne_some.mpr fun owner owned => ?_
  obtain ⟨position, held, -⟩ := owner_nearest valid.ascending owned
  obtain ⟨successor, heldThere⟩ := among position owner held
  rw [holder?, (owner?_eq_none_iff ring key).mp unowned] at heldThere
  cases heldThere

namespace Valid

variable {ring : Ring} (valid : ring.Valid)

include valid

/-- A key stays with its owner, or goes to a member that is placed. -/
theorem owner?_add (members : List String) (key : String) :
    (ring.add members).owner? key = ring.owner? key ∨
      ∃ member ∈ members, (ring.add members).owner? key = some member := by
  have among := among_add ring members
  cases owned : (ring.add members).owner? key with
  | none => exact Or.inl (valid.owner?_eq_none among owned).symm
  | some owner =>
      obtain ⟨position, held, nearest⟩ := owner_nearest (valid.add members).ascending owned
      rw [holder?_add] at held
      rcases Option.or_eq_some_iff.mp held with new | ⟨-, old⟩
      · have placed := List.mem_reverse.mp (List.mem_of_find?_eq_some new)
        exact Or.inr ⟨owner, placed, rfl⟩
      · have stays := valid.owner_of_nearest old (nearest.among among (hash_add ring members).symm)
        exact Or.inl stays.symm

theorem among_remove (member : String) : (ring.remove member).Among ring :=
  fun _ holder held => ⟨holder, (valid.holder?_remove_iff.mp held).1⟩

/-- Whoever is removed owns no key. -/
theorem owner?_remove_ne (member key : String) : (ring.remove member).owner? key ≠ some member := by
  intro owned
  obtain ⟨position, held, -⟩ := owner_nearest (valid.remove member).ascending owned
  exact (valid.holder?_remove_iff.mp held).2 rfl

/-- The keys of the other members stay with them. -/
theorem owner?_remove {member key : String} (other : ring.owner? key ≠ some member) :
    (ring.remove member).owner? key = ring.owner? key := by
  have among := valid.among_remove member
  cases owned : ring.owner? key with
  | none => exact (valid.remove member).owner?_eq_none among owned
  | some owner =>
      obtain ⟨position, held, nearest⟩ := owner_nearest valid.ascending owned
      have different : owner ≠ member := by
        rintro rfl
        exact other owned
      have kept := valid.holder?_remove_iff.mpr ⟨held, different⟩
      exact (valid.remove member).owner_of_nearest kept (nearest.among among rfl)

end Valid

end Ring

namespace Table

/--
After any operations, placing members moves no key except to one of them, and
removing a member moves no keys except its own.  A member that was removed owns
no key and is no longer one of the members.
-/
theorem only_affected_keys_move (hash : Hash) (replicas : Nat) (operations : List Operation) :
    let table := (empty hash replicas).run operations
    (∀ members key, ∃ before after,
      table.owner? key = .ok before ∧ (table.add members).owner? key = .ok after ∧
        (after = before ∨ ∃ member ∈ members, after = some member)) ∧
    ∀ member,
      (∀ key, ∃ before after,
        table.owner? key = .ok before ∧ (table.remove member).owner? key = .ok after ∧
          (before ≠ some member → after = before) ∧ after ≠ some member) ∧
      member ∉ (table.remove member).members := by
  intro table
  let ring := (Ring.empty hash replicas).run operations
  have valid : ring.Valid := (Ring.valid_empty hash replicas).run operations
  have represents : Represents table ring :=
    (Represents.empty hash replicas).run (Ring.valid_empty hash replicas) operations
  have before (key : String) : table.owner? key = .ok (ring.owner? key) :=
    represents.owner?_eq valid key
  refine ⟨fun members key => ?_, fun member => ⟨fun key => ?_, fun present => ?_⟩⟩
  · have after := (represents.add valid members).owner?_eq (valid.add members) key
    exact ⟨_, _, before key, after, valid.owner?_add members key⟩
  · have after := (represents.remove valid member).owner?_eq (valid.remove member) key
    exact ⟨_, _, before key, after, valid.owner?_remove, valid.owner?_remove_ne member key⟩
  · have removed := represents.remove valid member
    obtain ⟨position, held⟩ := removed.mem_members_iff.mp present
    rw [removed.holder?_eq] at held
    exact (valid.holder?_remove_iff.mp held).2 rfl

/-- A key that was taken over stays where it is when the member that had it before leaves. -/
theorem only_affected_keys_move_taken_over :
    let hash : Hash := fun bytes => UInt32.ofNat bytes.length
    let table := (empty hash 2).run [.add ["a", "cc"], .remove "c", .add ["b"]]
    table.owner? "kk" = .ok (some "b") ∧ (table.remove "a").owner? "kk" = .ok (some "b") ∧
      "a" ∉ (table.remove "a").members ∧
      ∃ after, (table.add ["dd", "e"]).owner? "kkk" = .ok after ∧
        (after = some "cc" ∨ ∃ member ∈ ["dd", "e"], after = some member) := by
  intro hash table
  let operations : List Operation := [.add ["a", "cc"], .remove "c", .add ["b"]]
  have valid := (Ring.valid_empty hash 2).run operations
  have represents : Represents table ((Ring.empty hash 2).run operations) :=
    (Represents.empty hash 2).run (Ring.valid_empty hash 2) operations
  have taken : table.owner? "kk" = .ok (some "b") :=
    (represents.owner?_eq valid "kk").trans (congrArg Except.ok (by decide))
  have held : table.owner? "kkk" = .ok (some "cc") :=
    (represents.owner?_eq valid "kkk").trans (congrArg Except.ok (by decide))
  obtain ⟨added, removed⟩ := only_affected_keys_move hash 2 operations
  obtain ⟨moves, gone⟩ := removed "a"
  obtain ⟨before, after, owned, ownedAfter, stays, -⟩ := moves "kk"
  obtain rfl : some "b" = before := Except.ok.inj (taken.symm.trans owned)
  obtain ⟨former, latter, ownedHere, ownedThere, change⟩ := added ["dd", "e"] "kkk"
  obtain rfl : some "cc" = former := Except.ok.inj (held.symm.trans ownedHere)
  refine ⟨taken, ?_, gone, latter, ownedThere, change⟩
  rw [ownedAfter, stays (by decide)]

end Table

end ReadThrough.Peer
