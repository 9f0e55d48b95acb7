import ReadThrough.Cluster.Step
import ReadThrough.Proofs.Group.Answers

/-!
# What goes on between the nodes of a cluster

A call stands for a key of a group as long as it lives, on whatever node it
runs and for whichever fetch.  The groups are sound, each fetch asks for what
its call was asked for, and it brings back only what is right for that.  Which
outcomes are right for a key of a group is left open.
-/

namespace ReadThrough.Cluster

/-- A fetch asks for what its call was asked for, and brings back what is right. -/
def Transit.Fits (right : String → String → Outcome → Prop) (asked : String × String)
    (underWay : Prop) : Transit → Prop
  | .travelling _ name key => underWay ∧ asked = (name, key)
  | .serving _ => underWay
  | .answered (.ok value) => right asked.1 asked.2 (.ok value)
  | .answered (.error _) => True

/-- The invariant of a cluster whose calls were asked for these keys of these groups. -/
structure Coherent (right : String → String → Outcome → Prop) (asked : Nat → String × String)
    (cluster : Cluster) : Prop where
  registered : ∀ node name member, cluster.find? node name = some member →
    ∃ home, cluster.members[member]? = some home ∧ home.group.name = name
  sound : ∀ (member : Nat) (home : Member), cluster.members[member]? = some home →
    ∃ lookupKey sourceKey, home.group.Sound (right home.group.name) lookupKey sourceKey
  held : ∀ (member : Nat) (home : Member) (call : Nat) (caller : Group.Caller),
    cluster.members[member]? = some home → home.group.caller? call = some caller →
    asked call = (home.group.name, caller.key) ∧
      ∃ fetcher, Ordered.get? call cluster.calls = some ⟨member, fetcher⟩
  called : ∀ call info, Ordered.get? call cluster.calls = some info →
    call < cluster.issued ∧
      ∃ home, cluster.members[info.member]? = some home ∧ home.group.name = (asked call).1
  forwarded : ∀ call member fetcher, Ordered.get? call cluster.calls = some ⟨member, some fetcher⟩ →
    fetcher < cluster.issued ∧ asked fetcher = asked call
  fetched : ∀ call transit, Ordered.get? call cluster.transits = some transit →
    call < cluster.issued ∧
      transit.Fits right (asked call) (Ordered.get? call cluster.calls ≠ none)

def withGroup (cluster : Cluster) (member : Nat) (home : Member) (group : Group) : Cluster :=
  { cluster with members := cluster.members.set member { home with group } }

theorem members_withGroup {cluster : Cluster} {member : Nat} {home : Member}
    (found : cluster.members[member]? = some home) (group : Group) (other : Nat) :
    (cluster.withGroup member home group).members[other]? =
      if other = member then some { home with group } else cluster.members[other]? := by
  rw [withGroup, List.getElem?_set]
  split
  · subst other
    obtain ⟨inside, -⟩ := List.getElem?_eq_some_iff.mp found
    simp [inside]
  · rename_i different
    rw [if_neg (Ne.symm different)]

theorem get?_setTransit (cluster : Cluster) (call other : Nat) (transit : Transit) :
    Ordered.get? other (cluster.setTransit call transit).transits =
      if other = call then some transit else Ordered.get? other cluster.transits :=
  Ordered.get?_put call other transit cluster.transits

theorem get?_calls_forget (cluster : Cluster) (call other : Nat) :
    Ordered.get? other (cluster.forget call).calls =
      if other = call then none else Ordered.get? other cluster.calls :=
  Ordered.get?_filter_ne call other cluster.calls

theorem get?_transits_forget (cluster : Cluster) (call other : Nat) :
    Ordered.get? other (cluster.forget call).transits =
      if other = call then none else Ordered.get? other cluster.transits :=
  Ordered.get?_filter_ne call other cluster.transits

namespace Coherent

variable {right : String → String → Outcome → Prop} {asked : Nat → String × String}
  {cluster : Cluster}

/-! ## Parts of the cluster -/

theorem mono {other : String → String → Outcome → Prop} (coherent : Coherent right asked cluster)
    (weaker : ∀ name key outcome, right name key outcome → other name key outcome) :
    Coherent other asked cluster where
  registered := coherent.registered
  sound := by
    intro member home found
    obtain ⟨lookupKey, sourceKey, sound⟩ := coherent.sound member home found
    exact ⟨lookupKey, sourceKey, sound.mono (weaker _)⟩
  held := coherent.held
  called := coherent.called
  forwarded := coherent.forwarded
  fetched := by
    intro call transit found
    obtain ⟨known, fits⟩ := coherent.fetched call transit found
    refine ⟨known, ?_⟩
    cases transit with
    | travelling => exact fits
    | serving => exact fits
    | answered result =>
        cases result with
        | ok value => exact weaker _ _ _ fits
        | error => exact fits

/-- A group may go on with its own calls. -/
theorem withGroup (coherent : Coherent right asked cluster) {member : Nat} {home : Member}
    (found : cluster.members[member]? = some home) {group : Group}
    (name : group.name = home.group.name)
    (sound : ∃ lookupKey sourceKey, group.Sound (right home.group.name) lookupKey sourceKey)
    (held : ∀ call caller, group.caller? call = some caller →
      asked call = (home.group.name, caller.key) ∧
        ∃ fetcher, Ordered.get? call cluster.calls = some ⟨member, fetcher⟩) :
    Coherent right asked (cluster.withGroup member home group) where
  registered := by
    intro node other number present
    obtain ⟨old, stored, named⟩ := coherent.registered node other number present
    rw [members_withGroup found]
    split
    · subst number
      cases found.symm.trans stored
      exact ⟨_, rfl, name.trans named⟩
    · exact ⟨old, stored, named⟩
  sound := by
    intro number other present
    rw [members_withGroup found] at present
    split at present
    · cases present
      rw [name]
      exact sound
    · exact coherent.sound number other present
  held := by
    intro number other call caller present waits
    rw [members_withGroup found] at present
    split at present
    · cases present
      subst number
      rw [name]
      exact held call caller waits
    · exact coherent.held number other call caller present waits
  called := by
    intro call info present
    obtain ⟨known, old, stored, named⟩ := coherent.called call info present
    refine ⟨known, ?_⟩
    rw [members_withGroup found]
    split
    · rename_i same
      rw [same] at stored
      cases found.symm.trans stored
      exact ⟨_, rfl, name.trans named⟩
    · exact ⟨old, stored, named⟩
  forwarded := coherent.forwarded
  fetched := coherent.fetched

theorem setTransit (coherent : Coherent right asked cluster) {call : Nat} {transit : Transit}
    (known : call < cluster.issued)
    (fits : transit.Fits right (asked call) (Ordered.get? call cluster.calls ≠ none)) :
    Coherent right asked (cluster.setTransit call transit) where
  registered := coherent.registered
  sound := coherent.sound
  held := coherent.held
  called := coherent.called
  forwarded := coherent.forwarded
  fetched := by
    intro other present found
    rw [get?_setTransit] at found
    split at found
    · subst other
      cases found
      exact ⟨known, fits⟩
    · exact coherent.fetched other present found

theorem removeTransit (coherent : Coherent right asked cluster) (call : Nat) :
    Coherent right asked
      { cluster with transits := cluster.transits.filter fun entry => entry.1 ≠ call } where
  registered := coherent.registered
  sound := coherent.sound
  held := coherent.held
  called := coherent.called
  forwarded := coherent.forwarded
  fetched := by
    intro other transit found
    rw [Ordered.get?_filter_ne] at found
    split at found
    · cases found
    · exact coherent.fetched other transit found

/-- A call that no group knows any longer may be forgotten. -/
theorem forget (coherent : Coherent right asked cluster) {call : Nat}
    (gone : ∀ (member : Nat) (home : Member), cluster.members[member]? = some home →
      home.group.caller? call = none) :
    Coherent right asked (cluster.forget call) where
  registered := coherent.registered
  sound := coherent.sound
  held := by
    intro member home other caller found waits
    obtain ⟨same, present⟩ := coherent.held member home other caller found waits
    refine ⟨same, ?_⟩
    rw [get?_calls_forget, if_neg]
    · exact present
    · rintro rfl
      cases (gone member home found).symm.trans waits
  called := by
    intro other info found
    rw [get?_calls_forget] at found
    split at found
    · cases found
    · exact coherent.called other info found
  forwarded := by
    intro other member fetcher found
    rw [get?_calls_forget] at found
    split at found
    · cases found
    · exact coherent.forwarded other member fetcher found
  fetched := by
    intro other transit found
    rw [get?_transits_forget] at found
    rw [get?_calls_forget]
    split at found
    · cases found
    · rename_i different
      rw [if_neg different]
      exact coherent.fetched other transit found

theorem answer (coherent : Coherent right asked cluster) {call : Nat}
    (known : call < cluster.issued) {result : Except Causes Bytes}
    (holds : ∀ value, result = .ok value → right (asked call).1 (asked call).2 (.ok value)) :
    Coherent right asked (cluster.answer call result).1 := by
  refine coherent.setTransit known ?_
  cases result with
  | ok value => exact holds value rfl
  | error causes => exact True.intro

end Coherent

end ReadThrough.Cluster
