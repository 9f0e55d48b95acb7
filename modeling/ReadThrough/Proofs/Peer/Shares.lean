import Mathlib.Data.Finset.NAry
import ReadThrough.Proofs.Peer.Placement

/-!
# Shares of the members

A position is the hash of a number and a member, written without anything in
between.  Such names are told apart as long as no member starts with a digit.  If
the hash tells them apart as well, no two members share a position, so that all
of them hold equally many, in whatever order and however often they are placed.
-/

namespace ReadThrough.Peer

namespace Ring

/-! ## Names of positions -/

/-- The name of a position: a number in decimal with a member behind it. -/
def numbered (index : Nat) (member : String) : String := toString index ++ member

/-- The first character of the text is an ASCII digit. -/
def startsWithDigit (text : String) : Bool := text.toList.head?.any Char.isDigit

/-- The number in front of a member ends where the digits end. -/
theorem takeWhile_numbered {member : String} (undigited : startsWithDigit member = false)
    (index : Nat) :
    (numbered index member).toList.takeWhile Char.isDigit = Nat.toDigits 10 index := by
  have digital : ∀ char ∈ Nat.toDigits 10 index, char.isDigit = true :=
    fun _ => Nat.isDigit_of_mem_toDigits (by decide) (by decide)
  have ends : member.toList.takeWhile Char.isDigit = [] := by
    cases chars : member.toList with
    | nil => rfl
    | cons first rest =>
        rw [startsWithDigit, chars] at undigited
        exact List.takeWhile_cons_of_neg (by simpa using undigited)
  rw [numbered, String.toList_append, Nat.toString_eq_repr, Nat.toList_repr,
    List.takeWhile_append_of_pos digital, ends, List.append_nil]

/-- The number and the member can be read off the name. -/
theorem numbered_inj {index other : Nat} {member rival : String}
    (undigited : startsWithDigit member = false) (undigitedRival : startsWithDigit rival = false)
    (same : numbered index member = numbered other rival) : index = other ∧ member = rival := by
  have digits : Nat.toDigits 10 index = Nat.toDigits 10 other := by
    rw [← takeWhile_numbered undigited, same, takeWhile_numbered undigitedRival]
  have numbers : index = other :=
    calc
      index = Nat.ofDigitChars 10 (Nat.toDigits 10 index) 0 := Nat.ofDigitChars_ten_toDigits.symm
      _ = Nat.ofDigitChars 10 (Nat.toDigits 10 other) 0 := by rw [digits]
      _ = other := Nat.ofDigitChars_ten_toDigits
  subst numbers
  have chars := congrArg String.toList same
  rw [numbered, numbered, String.toList_append, String.toList_append] at chars
  exact ⟨rfl, String.toList_inj.mp (List.append_cancel_left chars)⟩

/-- A digit at the start of a member may as well belong to the number. -/
example : numbered 11 "x" = numbered 1 "1x" := by decide

theorem mem_positions {hash : Hash} {replicas : Nat} {member : String} {position : UInt32} :
    position ∈ positions hash replicas member ↔
      ∃ index < replicas, place hash (numbered index member) = position := by
  simp [positions, numbered]

/-- The names of all positions of some members. -/
def names (replicas : Nat) (members : List String) : Finset String :=
  Finset.image₂ numbered (Finset.range replicas) members.toFinset

section Names

variable {hash : Hash} {replicas : Nat} {members : List String} {position : UInt32}

theorem mem_names {name : String} :
    name ∈ names replicas members ↔
      ∃ index < replicas, ∃ member ∈ members, numbered index member = name := by
  simp [names]

theorem card_names (undigited : ∀ member ∈ members, startsWithDigit member = false) :
    (names replicas members).card = replicas * members.toFinset.card := by
  have apart : Set.InjOn (fun name : Nat × String => numbered name.1 name.2)
      (Finset.range replicas ×ˢ members.toFinset) := by
    rintro ⟨index, member⟩ ⟨-, present⟩ ⟨other, rival⟩ ⟨-, presentRival⟩ same
    obtain ⟨rfl, rfl⟩ := numbered_inj (undigited member (List.mem_toFinset.mp present))
      (undigited rival (List.mem_toFinset.mp presentRival)) same
    rfl
  rw [names, Finset.card_image₂_iff.mpr apart, Finset.card_range]

/-! ## The number of held positions -/

/-- The held positions are the hashes of the names. -/
theorem mem_keys_ofMembers :
    position ∈ (ofMembers hash replicas members).nodes.map Prod.fst ↔
      ∃ name ∈ names replicas members, place hash name = position := by
  rw [Ordered.mem_keys_iff]
  constructor
  · rintro ⟨holder, held⟩
    obtain ⟨present, placed⟩ := placed_of_holder held
    obtain ⟨index, within, named⟩ := mem_positions.mp (places_iff.mp placed)
    exact ⟨_, mem_names.mpr ⟨index, within, holder, present, rfl⟩, named⟩
  · rintro ⟨_, named, placed⟩
    obtain ⟨index, within, member, present, rfl⟩ := mem_names.mp named
    exact holder_of_placed present (places_iff.mpr (mem_positions.mpr ⟨index, within, placed⟩))

/-- There are as many held positions as the names have hashes. -/
theorem size_ofMembers (hash : Hash) (replicas : Nat) (members : List String) :
    (ofMembers hash replicas members).size =
      ((names replicas members).image (place hash)).card := by
  have keys : ((ofMembers hash replicas members).nodes.map Prod.fst).toFinset =
      (names replicas members).image (place hash) := by
    ext position
    rw [List.mem_toFinset, mem_keys_ofMembers, Finset.mem_image]
  rw [← keys, List.toFinset_card_of_nodup (ascending_ofMembers hash replicas members).keys_nodup,
    List.length_map, size]

/-- No position is missing if and only if the hash tells the names apart. -/
theorem size_ofMembers_eq_iff (undigited : ∀ member ∈ members, startsWithDigit member = false) :
    (ofMembers hash replicas members).size = replicas * members.toFinset.card ↔
      Set.InjOn (place hash) (names replicas members) := by
  rw [size_ofMembers, ← card_names undigited, Finset.card_image_iff]

/-! ## Positions that are not shared -/

section Apart

variable (undigited : ∀ member ∈ members, startsWithDigit member = false)
  (apart : Set.InjOn (place hash) (names replicas members))

include undigited apart

theorem place_inj {index other : Nat} {member rival : String} (within : index < replicas)
    (withinOther : other < replicas) (present : member ∈ members) (presentRival : rival ∈ members)
    (same : place hash (numbered index member) = place hash (numbered other rival)) :
    index = other ∧ member = rival := by
  have named := mem_names.mpr ⟨index, within, member, present, rfl⟩
  have namedOther := mem_names.mpr ⟨other, withinOther, rival, presentRival, rfl⟩
  exact numbered_inj (undigited member present) (undigited rival presentRival)
    (apart named namedOther same)

/-- A member is placed once at each of its positions. -/
theorem nodup_positions {member : String} (present : member ∈ members) :
    (positions hash replicas member).Nodup := by
  refine List.nodup_range.map_on fun index within other withinOther same => ?_
  exact (place_inj undigited apart (List.mem_range.mp within) (List.mem_range.mp withinOther)
    present present same).1

/-- No two members are placed at one position. -/
theorem eq_of_mem_positions {member rival : String} (present : member ∈ members)
    (presentRival : rival ∈ members) (placed : position ∈ positions hash replicas member)
    (placedRival : position ∈ positions hash replicas rival) : member = rival := by
  obtain ⟨index, within, here⟩ := mem_positions.mp placed
  obtain ⟨other, withinOther, there⟩ := mem_positions.mp placedRival
  exact (place_inj undigited apart within withinOther present presentRival
    (here.trans there.symm)).2

/-- Every member holds the positions at which it is placed. -/
theorem holder?_ofMembers_iff {member : String} :
    (ofMembers hash replicas members).holder? position = some member ↔
      member ∈ members ∧ position ∈ positions hash replicas member := by
  constructor
  · intro held
    obtain ⟨present, placed⟩ := placed_of_holder held
    exact ⟨present, places_iff.mp placed⟩
  · rintro ⟨present, placed⟩
    obtain ⟨holder, held⟩ := holder_of_placed present (places_iff.mpr placed)
    obtain ⟨presentHolder, placedHolder⟩ := placed_of_holder held
    rw [held, eq_of_mem_positions undigited apart present presentHolder placed
      (places_iff.mp placedHolder)]

section Others

variable {others : List String} (same : ∀ member, member ∈ others ↔ member ∈ members)

include same

/-- The order and the repetitions of a list of members do not matter. -/
theorem holder?_ofMembers_congr (position : UInt32) :
    (ofMembers hash replicas others).holder? position =
      (ofMembers hash replicas members).holder? position := by
  have undigitedOthers (member : String) (present : member ∈ others) :
      startsWithDigit member = false := undigited member ((same member).mp present)
  have apartOthers : Set.InjOn (place hash) (names replicas others) := by
    have sameNames : names replicas others = names replicas members := by
      ext name
      simp only [mem_names, same]
    rw [sameNames]
    exact apart
  ext member
  rw [holder?_ofMembers_iff undigitedOthers apartOthers, holder?_ofMembers_iff undigited apart,
    same]

theorem owner?_ofMembers_congr (key : String) :
    (ofMembers hash replicas others).owner? key = (ofMembers hash replicas members).owner? key := by
  have nodes : (ofMembers hash replicas others).nodes = (ofMembers hash replicas members).nodes :=
    (ascending_ofMembers hash replicas others).ext (ascending_ofMembers hash replicas members)
      (holder?_ofMembers_congr undigited apart same)
  rw [owner?, owner?, hash_ofMembers, hash_ofMembers, nodes]

end Others

end Apart

end Names

theorem valid_ofMembers (hash : Hash) (replicas : Nat) (members : List String) :
    (ofMembers hash replicas members).Valid :=
  (valid_empty hash replicas).add members

/-- Placing lists of members one after the other is placing the members of all of them. -/
theorem run_add (hash : Hash) (replicas : Nat) (lists : List (List String)) :
    (empty hash replicas).run (lists.map .add) = ofMembers hash replicas lists.flatten := by
  rw [run, List.foldl_map, ofMembers, add, List.foldl_flatten]
  rfl

end Ring

namespace Table

namespace Represents

variable {table : Table} {ring : Ring} (represents : Represents table ring)

include represents

theorem size_eq : table.size = ring.size := by
  rw [size, Ring.size, ← Array.length_toList, represents.positions, List.length_map]

/-- A member has as many entries as it holds positions. -/
theorem countP_holders {member : String} {held : List UInt32} (nodup : held.Nodup)
    (holds : ∀ position, ring.holder? position = some member ↔ position ∈ held) :
    table.holders.countP (fun entry => entry.2 = member) = held.length := by
  have distinct := represents.alike.distinct
  let own := table.holders.filter fun entry => entry.2 = member
  have permuted : (own.map Prod.fst).Perm held := by
    refine (List.perm_ext_iff_of_nodup ?_ nodup).mpr fun position => ?_
    · exact distinct.sublist (List.filter_sublist.map Prod.fst)
    · rw [← holds, ← represents.holder?_eq, holder?, ← Ordered.mem_iff_get? distinct]
      simp [own]
  rw [List.countP_eq_length_filter, ← permuted.length_eq, List.length_map]

end Represents

/-- Members that are placed list by list lead to the ring of all of them. -/
theorem represents_lists (hash : Hash) (replicas : Nat) (lists : List (List String)) :
    Represents ((empty hash replicas).run (lists.map .add))
      (Ring.ofMembers hash replicas lists.flatten) := by
  rw [← Ring.run_add]
  exact (Represents.empty hash replicas).run (Ring.valid_empty hash replicas) _

/--
If no member starts with a digit and the hash tells the names of the positions
apart, every member holds the positions at which it is placed, which are as many
as it has replicas, and nobody else holds any.  Placing these members one list
after the other, in any order and with any repetitions, leads to the same table
and the same owners.
-/
theorem equal_shares (hash : Hash) (replicas : Nat) (members : List String)
    (undigited : ∀ member ∈ members, Ring.startsWithDigit member = false)
    (apart : Set.InjOn (Ring.place hash) (Ring.names replicas members)) :
    let table := (empty hash replicas).add members
    table.size = replicas * members.toFinset.card ∧
    (∀ position member, table.Holds position member ↔
      member ∈ members ∧ position ∈ Ring.positions hash replicas member) ∧
    (∀ member, table.holders.countP (fun entry => entry.2 = member) =
      if member ∈ members then replicas else 0) ∧
    ∀ lists : List (List String), (∀ member, member ∈ lists.flatten ↔ member ∈ members) →
      let other := (empty hash replicas).run (lists.map .add)
      Same other table ∧
        ∀ key, ∃ owner, table.owner? key = .ok owner ∧ other.owner? key = .ok owner := by
  intro table
  let ring := Ring.ofMembers hash replicas members
  have valid : ring.Valid := Ring.valid_ofMembers hash replicas members
  have represents : Represents table ring :=
    (Represents.empty hash replicas).add (Ring.valid_empty hash replicas) members
  have held (position : UInt32) (member : String) : ring.holder? position = some member ↔
      member ∈ members ∧ position ∈ Ring.positions hash replicas member :=
    Ring.holder?_ofMembers_iff undigited apart
  refine ⟨?_, ?_, fun member => ?_, fun lists same => ?_⟩
  · rw [represents.size_eq]
    exact (Ring.size_ofMembers_eq_iff undigited).mpr apart
  · intro position member
    rw [represents.holds_iff, held]
  · by_cases present : member ∈ members
    · have nodup := Ring.nodup_positions undigited apart present
      rw [if_pos present, represents.countP_holders nodup (by simp [held, present]),
        Ring.positions, List.length_map, List.length_range]
    · rw [if_neg present]
      exact represents.countP_holders List.nodup_nil (by simp [held, present])
  · intro other
    have validOther := Ring.valid_ofMembers hash replicas lists.flatten
    have representsOther : Represents other _ := represents_lists hash replicas lists
    refine ⟨representsOther.same represents validOther valid ?_ ?_ ?_, fun key => ?_⟩
    · exact (Ring.hash_ofMembers ..).trans (Ring.hash_ofMembers ..).symm
    · exact (Ring.replicas_add ..).trans (Ring.replicas_add ..).symm
    · exact Ring.holder?_ofMembers_congr undigited apart same
    · refine ⟨ring.owner? key, represents.owner?_eq valid key, ?_⟩
      rw [representsOther.owner?_eq validOther,
        Ring.owner?_ofMembers_congr undigited apart same key]

/-- Three members, one of them listed twice, placed by check sums at eleven positions each. -/
theorem equal_shares_check_sums :
    let members := ["http://a", "http://b", "http://a", "http://c"]
    let table := (empty Crc32.checksum 11).add members
    let other := (empty Crc32.checksum 11).run
      [.add ["http://c"], .add ["http://b", "http://c"], .add ["http://a"]]
    (∀ member ∈ members, Ring.startsWithDigit member = false) ∧
      Set.InjOn (Ring.place Crc32.checksum) (Ring.names 11 members) ∧
      table.size = 33 ∧
      table.holders.countP (fun entry => entry.2 = "http://a") = 11 ∧
      ∃ owner, table.owner? "Tom" = .ok owner ∧ other.owner? "Tom" = .ok owner := by
  intro members table other
  have undigited : ∀ member ∈ members, Ring.startsWithDigit member = false := by decide
  have apart : Set.InjOn (Ring.place Crc32.checksum) (Ring.names 11 members) :=
    Finset.card_image_iff.mp (by decide +kernel)
  have same (member : String) :
      member ∈ [["http://c"], ["http://b", "http://c"], ["http://a"]].flatten ↔
        member ∈ members := by grind
  obtain ⟨size, -, shares, orders⟩ := equal_shares Crc32.checksum 11 members undigited apart
  obtain ⟨-, owners⟩ := orders _ same
  exact ⟨undigited, apart, size, shares "http://a", owners "Tom"⟩

end Table

end ReadThrough.Peer
