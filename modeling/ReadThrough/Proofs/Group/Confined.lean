import ReadThrough.Proofs.Group.History
import ReadThrough.Proofs.Group.Questions

/-!
# Groups that keep only what belongs to them

Some keys belong to the node of a group, and for the others another node is
picked, which has each value that the data source has.  A key counts as one of
the node, too, once a fetch of it has failed for another reason.  Then the data
source is asked for a key of another node only if it has no value, and nothing
of another node is kept.
-/

namespace ReadThrough.Group

/-- The data source has no value for the key. -/
def Fails (data : String → Except Causes Bytes) (key : String) : Prop :=
  ∃ causes, data key = .error causes

/-- The group keeps only keys that belong to its node, and loads others only in vain. -/
structure Confined (owned : String → Prop) (data : String → Except Causes Bytes) (group : Group) :
    Prop where
  cached : ∀ entry ∈ group.cache.entries, owned entry.key
  named : ∀ call caller, group.caller? call = some caller → caller.key ≠ ""
  loading : ∀ call key, group.asked? call = some (.load call key) → owned key ∨ Fails data key

/-- An event for a node to which these keys belong. -/
structure Event.Placed (owned : String → Prop) (data : String → Except Causes Bytes)
    (choose : Choice) (group : Group) (event : Event) : Prop where
  /-- Another node is picked for each key of another node. -/
  alone : ∀ key, (group.pick choose key).1 = none → owned key
  /-- Other nodes ask for keys of the node only. -/
  forPeer : ∀ key, event.request? = some ⟨key, true⟩ → owned key
  /-- A node that was asked has failed because there is no value, or the key counts as owned. -/
  failed : ∀ call key ticket address elapsed causes,
    event = .fetched call elapsed (.error causes) →
    group.caller? call = some ⟨key, .fetching ticket address⟩ → owned key ∨ Fails data key
  /-- The data source tells the truth. -/
  provided : ∀ key value, key ≠ "" → event.Provides group key value → data key = .ok value

section

variable {owned : String → Prop} {data : String → Except Causes Bytes} {choose : Choice}
  {group next : Group} {event : Event} {effects : List Effect}

theorem confined_empty (owned : String → Prop) (data : String → Except Causes Bytes)
    (name : String) (budget : Nat) (attached : Bool) :
    ((empty name budget).setAttached attached).Confined owned data :=
  ⟨nofun, nofun, nofun⟩

/-- More keys may count as owned. -/
theorem Confined.mono (confined : group.Confined owned data) {more : String → Prop}
    (weaker : ∀ key, owned key → more key) : group.Confined more data where
  cached := fun entry present => weaker _ (confined.cached entry present)
  named := confined.named
  loading := fun call key asked => (confined.loading call key asked).imp_left (weaker key)

/-- The data source is asked for a key of the node, or for one without a value. -/
theorem Transition.load_placed (transition : Transition choose group event next effects)
    (placed : event.Placed owned data choose group) {call : Nat} {key : String}
    (asked : .load call key ∈ effects) : owned key ∨ Fails data key := by
  obtain ⟨rfl, lookup, base, first, seeks, -⟩ := transition.load_asked asked
  cases seeks with
  | lookup misses free alone => exact Or.inl (placed.alone key alone)
  | peer misses => exact Or.inl (placed.forPeer key misses.made)
  | failed elapsed causes found => exact placed.failed _ key _ _ elapsed causes rfl found

/-- What the data source provides belongs to the node. -/
theorem Confined.owned_of_provides (confined : group.Confined owned data)
    (placed : event.Placed owned data choose group) {key : String} {value : Bytes}
    (provides : event.Provides group key value) : owned key := by
  obtain ⟨lookup, ticket, found⟩ := loading_of_asked provides.2
  have told := placed.provided key value (confined.named _ _ found) provides
  rcases confined.loading event.call key provides.2 with own | ⟨causes, fails⟩
  · exact own
  · cases told.symm.trans fails

/-- A group stays confined. -/
theorem Confined.step (confined : group.Confined owned data)
    (transition : Transition choose group event next effects)
    (placed : event.Placed owned data choose group) : next.Confined owned data where
  cached := by
    intro entry present
    rcases transition.entries present with ⟨old, -⟩ | provides
    · exact confined.cached entry old
    · exact confined.owned_of_provides placed provides
  named := by
    intro call caller found
    by_cases own : call = event.call
    · subst own
      rcases transition.origin found with ⟨old, before, same, -⟩ | ⟨request, -, named, same, -⟩
      · rw [← same]
        exact confined.named _ old before
      · rw [← same]
        exact named
    · rw [transition.frame own] at found
      exact confined.named call caller found
  loading := by
    intro call key asked
    rcases transition.asked?_iff.mp asked with ⟨now, -⟩ | ⟨before, -⟩
    · exact transition.load_placed placed now
    · exact confined.loading call key before

theorem attached_settleLookup (group : Group) (key : String) (outcome : Outcome)
    (lookup : Option Nat) :
    (group.settleLookup key outcome lookup).1.attached = group.attached := by
  cases lookup <;> rfl

/-- Whether a group asks other nodes does not change. -/
theorem Transition.attached (transition : Transition choose group event next effects) :
    next.attached = group.attached := by
  cases transition with
  | ignore | refuse | hit | join | share | leave | fetch => rfl
  | wait seeks | load seeks => cases seeks <;> rfl
  | conclude ends =>
      rw [attached_settleLookup]
      cases ends with
      | fetched | waited | dropFetch | dropWait | dropRun => rfl
      | loaded result => cases result <;> rfl

end

end ReadThrough.Group
