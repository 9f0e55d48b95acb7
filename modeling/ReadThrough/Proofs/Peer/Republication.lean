import Mathlib.Algebra.Order.BigOperators.Group.List
import Mathlib.Algebra.Order.Group.Nat
import Mathlib.Logic.Function.Iterate
import ReadThrough.Proofs.Peer.Address
import ReadThrough.Proofs.Peer.Pool

/-!
# Publishing what a pool holds

A pool that is given its own settings and members stays the same, unless one of
the addresses ends in a blank: the common form of such an address is shorter,
so the pool changes once more.  Each further publication strips the addresses
further, until nothing changes.
-/

namespace ReadThrough.Peer

/-! ## Common forms of common forms -/

theorem exists_length_le (addresses : List String) :
    ∃ bound, ∀ address ∈ addresses, address.length ≤ bound :=
  ⟨(addresses.map String.length).sum, fun _ present =>
    List.le_sum_of_mem (List.mem_map_of_mem present)⟩

/-- If each of some addresses is the common form of one of them, it is its own common form. -/
theorem normal_of_covered {addresses : List String}
    (covered : ∀ address ∈ addresses, ∃ given ∈ addresses, normalizeAddress given = address) :
    ∀ address ∈ addresses, normalizeAddress address = address := by
  obtain ⟨bound, bounded⟩ := exists_length_le addresses
  intro address present
  -- An address whose common form is shorter would be longer than the one that it covers, and
  -- there is no longest address of this kind.
  induction room : bound - address.length using Nat.strong_induction_on generalizing address with
  | _ room ih =>
      obtain ⟨given, listed, rfl⟩ := covered address present
      have normal : normalizeAddress given = given := by
        by_contra changed
        have longer := length_normalizeAddress_lt changed
        have fits := bounded given listed
        exact changed (ih (bound - given.length) (by omega) given listed rfl)
      rw [normal, normal]

/-- As many publications as an address has characters bring it to rest. -/
theorem normalizeAddress_iterate {address : String} {rounds : Nat}
    (enough : address.length ≤ rounds) :
    normalizeAddress (normalizeAddress^[rounds] address) = normalizeAddress^[rounds] address := by
  induction rounds generalizing address with
  | zero =>
      by_contra changed
      have shorter := length_normalizeAddress_lt changed
      rw [Function.iterate_zero, id] at shorter
      omega
  | succ rounds ih =>
      by_cases normal : normalizeAddress address = address
      · rw [Function.iterate_fixed normal, normal]
      · rw [Function.iterate_succ_apply]
        have shorter := length_normalizeAddress_lt normal
        exact ih (by omega)

namespace Pool

theorem pairwise_normalizeMembers (members : List String) :
    (normalizeMembers members).Pairwise (· < ·) :=
  Ordered.pairwise_ofList _

theorem normalizeMembers_eq_self_iff {members : List String}
    (ascending : members.Pairwise (· < ·)) :
    normalizeMembers members = members ↔
      ∀ member ∈ members, normalizeAddress member = member := by
  constructor
  · intro same
    refine normal_of_covered fun member present => ?_
    rw [← same] at present
    exact mem_normalizeMembers.mp present
  · intro normal
    refine Ordered.eq_of_mem_iff (pairwise_normalizeMembers _) ascending fun member => ?_
    rw [mem_normalizeMembers]
    constructor
    · rintro ⟨given, present, rfl⟩
      rwa [normal given present]
    · intro present
      exact ⟨member, present, normal member present⟩

/-- Members that were given in their common form already are seen as the given ones. -/
theorem normalizeMembers_map_iff (given : List String) :
    normalizeMembers (given.map normalizeAddress) = normalizeMembers given ↔
      ∀ address ∈ given, ¬ EndsInBlank (normalizeAddress address) := by
  have again : normalizeMembers (given.map normalizeAddress) =
      normalizeMembers (normalizeMembers given) := by
    refine Ordered.eq_of_mem_iff (pairwise_normalizeMembers _) (pairwise_normalizeMembers _) ?_
    intro member
    simp only [mem_normalizeMembers, List.mem_map]
  rw [again, normalizeMembers_eq_self_iff (pairwise_normalizeMembers _)]
  simp only [mem_normalizeMembers, forall_exists_index, and_imp, forall_apply_eq_imp_iff₂,
    normalizeAddress_normalizeAddress_iff]

/-! ## The own state -/

/-- A pool that is given its own settings and members. -/
def republish (pool : Pool) : Pool := (pool.apply pool.settings pool.members).1

theorem self_republish (pool : Pool) :
    pool.republish.settings.self = normalizeAddress pool.settings.self := by
  rw [republish, settings_apply, normalizeSettings]

theorem mem_members_republish {pool : Pool} {member : String} :
    member ∈ pool.republish.members ↔
      ∃ given ∈ pool.members, normalizeAddress given = member := by
  rw [republish, members_apply, mem_normalizeMembers]

namespace Consistent

variable {pool : Pool} (consistent : pool.Consistent)

include consistent

/-- The publication is skipped exactly if all addresses are their own common forms. -/
theorem apply_own_eq_iff :
    pool.apply pool.settings pool.members = (pool, []) ↔
      normalizeAddress pool.settings.self = pool.settings.self ∧
        ∀ member ∈ pool.members, normalizeAddress member = member := by
  rw [← normalizeMembers_eq_self_iff consistent.ascending]
  constructor
  · intro unchanged
    have self := self_republish pool
    have members := members_apply pool pool.settings pool.members
    rw [republish] at self
    rw [unchanged] at self members
    exact ⟨self.symm, members.symm⟩
  · rintro ⟨self, members⟩
    have settings : normalizeSettings pool.settings = pool.settings := by
      rw [normalizeSettings, self]
    rw [Pool.apply]
    exact if_pos ⟨settings.symm, members.symm⟩

theorem republish_iterate (rounds : Nat) : (republish^[rounds] pool).Consistent := by
  induction rounds with
  | zero => exact consistent
  | succ rounds ih =>
      rw [Function.iterate_succ_apply']
      exact ih.apply _ _

end Consistent

theorem self_republish_iterate (pool : Pool) (rounds : Nat) :
    (republish^[rounds] pool).settings.self =
      normalizeAddress^[rounds] pool.settings.self := by
  induction rounds with
  | zero => rfl
  | succ rounds ih =>
      rw [Function.iterate_succ_apply', Function.iterate_succ_apply', self_republish, ih]

theorem members_republish_iterate {pool : Pool} {rounds : Nat} {member : String}
    (present : member ∈ (republish^[rounds] pool).members) :
    ∃ given ∈ pool.members, normalizeAddress^[rounds] given = member := by
  induction rounds generalizing member with
  | zero => exact ⟨member, present, rfl⟩
  | succ rounds ih =>
      rw [Function.iterate_succ_apply', mem_members_republish] at present
      obtain ⟨former, earlier, rfl⟩ := present
      obtain ⟨given, first, rfl⟩ := ih earlier
      exact ⟨given, first, Function.iterate_succ_apply' _ _ _⟩

/-- A pool that is given its own state time and again comes to rest. -/
theorem Consistent.republish_rests {pool : Pool} (consistent : pool.Consistent) :
    ∃ rounds, ∀ further, republish^[rounds + further] pool = republish^[rounds] pool := by
  obtain ⟨rounds, enough⟩ := exists_length_le (pool.settings.self :: pool.members)
  have unchanged : republish (republish^[rounds] pool) = republish^[rounds] pool := by
    refine congrArg Prod.fst ((consistent.republish_iterate rounds).apply_own_eq_iff.mpr ⟨?_, ?_⟩)
    · rw [self_republish_iterate]
      exact normalizeAddress_iterate (enough _ List.mem_cons_self)
    · intro member present
      obtain ⟨given, first, rfl⟩ := members_republish_iterate present
      exact normalizeAddress_iterate (enough _ (List.mem_cons_of_mem _ first))
  refine ⟨rounds, fun further => ?_⟩
  rw [Nat.add_comm, Function.iterate_add_apply, Function.iterate_fixed unchanged]

/-- After a publication, all addresses of a pool are common forms. -/
theorem common_of_change (pool : Pool) (change : Change) {address : String}
    (held : address = (pool.change change).settings.self ∨
      address ∈ (pool.change change).members) :
    ∃ given, normalizeAddress given = address := by
  rcases held with rfl | present
  · cases change with
    | set members =>
        exact ⟨pool.settings.self, by rw [Pool.change, set, settings_apply, normalizeSettings]⟩
    | apply settings members =>
        exact ⟨settings.self, by rw [Pool.change, settings_apply, normalizeSettings]⟩
  · rw [members_change, mem_normalizeMembers] at present
    obtain ⟨given, -, same⟩ := present
    exact ⟨given, same⟩

/--
A pool to which something was published stays the same, without a report, if it
is given its own settings and members, unless its address or that of a member
ends in a blank.  The common form of an address ends in a blank, and is not its
own common form, exactly if a blank stands in front of the slashes at the end of
the address; and unless this is so of one of the members, they may be given in
their common form as well.  However this is, the pool comes to rest.
-/
theorem republished_unless_blank (hash : Hash) (settings : Settings) {changes : List Change}
    (published : changes ≠ []) :
    let pool := (empty hash settings).follow changes
    (pool.apply pool.settings pool.members = (pool, []) ↔
      ¬ EndsInBlank pool.settings.self ∧ ∀ member ∈ pool.members, ¬ EndsInBlank member) ∧
    (∀ given, normalizeAddress (normalizeAddress given) = normalizeAddress given ↔
      ¬ BlankBeforeSlashes given) ∧
    (∀ given, EndsInBlank (normalizeAddress given) ↔ BlankBeforeSlashes given) ∧
    (∀ given, normalizeMembers (given.map normalizeAddress) = normalizeMembers given ↔
      ∀ address ∈ given, ¬ BlankBeforeSlashes address) ∧
    ∃ rounds, ∀ further, republish^[rounds + further] pool = republish^[rounds] pool := by
  intro pool
  have consistent : pool.Consistent := (consistent_empty hash settings).follow changes
  have common {address : String}
      (held : address = pool.settings.self ∨ address ∈ pool.members) :
      normalizeAddress address = address ↔ ¬ EndsInBlank address := by
    obtain ⟨earlier, last, rfl⟩ := (List.eq_nil_or_concat changes).resolve_left published
    have followed : pool = ((empty hash settings).follow earlier).change last := by
      rw [← follow_concat, ← List.concat_eq_append]
    rw [followed] at held
    obtain ⟨given, rfl⟩ := common_of_change _ last held
    exact normalizeAddress_normalizeAddress_iff given
  refine ⟨?_, ?_, endsInBlank_normalizeAddress_iff, ?_, consistent.republish_rests⟩
  · rw [consistent.apply_own_eq_iff]
    exact and_congr (common (Or.inl rfl)) (forall₂_congr fun member present =>
      common (Or.inr present))
  · intro given
    rw [normalizeAddress_normalizeAddress_iff, endsInBlank_normalizeAddress_iff]
  · intro given
    simp only [normalizeMembers_map_iff, endsInBlank_normalizeAddress_iff]

/-- Blanks around the addresses and slashes at their ends do no harm. -/
theorem republished_unless_blank_sound :
    let hash : Hash := fun _ => 7
    let changes : List Change := [.set ["http://b//", " http://a "], .apply
      { Settings.standard with self := " http://a/", replicas := 2 } ["http://b", "http://a/ "]]
    let pool := (empty hash .standard).follow changes
    changes ≠ [] ∧ pool.settings.self = "http://a" ∧
      pool.members = ["http://a", "http://b"] ∧
      pool.apply pool.settings pool.members = (pool, []) := by
  intro hash changes
  have published : changes ≠ [] := by decide
  have self : ((empty hash .standard).follow changes).settings.self = "http://a" := by decide
  have members : ((empty hash .standard).follow changes).members = ["http://a", "http://b"] := by
    decide
  refine ⟨published, self, members, ?_⟩
  refine (republished_unless_blank hash .standard published).1.mpr ?_
  rw [self, members]
  decide

/-- A node does not know that it is a member, until its pool is given its own state. -/
theorem not_always_republished_unchanged :
    let changes : List Change := [.set ["http://a /"]]
    let pool := (standard { Settings.standard with self := "http://a" }).follow changes
    changes ≠ [] ∧ pool.settings.self = "http://a" ∧ pool.members = ["http://a "] ∧
      pool.apply pool.settings pool.members ≠ (pool, []) ∧
      pool.republish.members = ["http://a"] ∧
      (∀ key, (pool.pick key).1 = some (clientOf pool.settings "http://a ")) ∧
      (∀ key, (pool.republish.pick key).1 = none) ∧
      ¬ ∀ given, normalizeAddress (normalizeAddress given) = normalizeAddress given := by
  intro changes pool
  have self : pool.settings.self = "http://a" := by decide +kernel
  have members : pool.members = ["http://a "] := by decide +kernel
  have placed : pool.settings.replicas ≠ 0 := by decide +kernel
  have consistent : pool.Consistent := (consistent_empty Crc32.checksum _).follow changes
  clear_value pool
  have republished : pool.republish.Consistent := consistent.apply _ _
  have renamed : pool.republish.settings.self = "http://a" := by
    rw [self_republish, self]
    decide
  have stripped : pool.republish.members = ["http://a"] := by
    rw [republish, members_apply, members]
    decide
  have replaced : pool.republish.settings.replicas ≠ 0 := by
    rwa [republish, settings_apply]
  refine ⟨by decide, self, members, ?_, stripped, ?_, ?_, ?_⟩
  · intro unchanged
    rw [republish, unchanged, members] at stripped
    exact absurd stripped (by decide)
  · intro key
    rw [consistent.pick_of_singleton members placed, self]
    exact if_neg (by decide)
  · intro key
    rw [republished.pick_of_singleton stripped replaced]
    exact if_pos renamed.symm
  · intro idempotent
    exact absurd (idempotent "http://a /") (by decide)

end Pool

end ReadThrough.Peer
