import ReadThrough.Proofs.Group.Ledger

/-!
# Events that no other call is in the way of

Where no call waits for another one, an event of a call ends the call, starts a
run of the data source or begins a fetch, after some reports.  Nobody joins and
nobody is woken.
-/

namespace ReadThrough.Group

/-- No call waits for another one. -/
def Unshared (group : Group) : Prop :=
  ∀ call caller, group.caller? call = some caller → caller.asked? call ≠ none

/-- No other call is in the way of the event, which is not ignored. -/
structure Clear (group : Group) (event : Event) : Prop where
  acts : (∃ request, event.Opens group request) ∨
    ∃ effect, group.asked? event.call = some effect ∧ event.closes effect = true
  kept : event ≠ .drop event.call
  ascending : Ordered.Ascending group.callers
  unshared : group.Unshared
  lookups : ∀ key, event.request? = some ⟨key, false⟩ → group.lookups.running = []
  runs : (∀ result, event ≠ .loaded event.call result) → group.sourceRuns.running = []

/-- What comes of an event that no other call is in the way of. -/
inductive Event.Outlook (event : Event) (next : Group) : List Effect → Prop where
  | ends (reports : List Log) (outcome : Outcome) (gone : next.caller? event.call = none) :
      event.Outlook next (reports.map .log ++ [.finish event.call outcome])
  | loads (reports : List Log) {key : String} {lookup : Option Nat} {ticket : Nat}
      (found : next.caller? event.call = some ⟨key, .loading lookup ticket⟩)
      (begins : ∀ result, event ≠ .loaded event.call result) :
      event.Outlook next (reports.map .log ++ [.load event.call key])
  | fetches (reports : List Log) {key address : String} {ticket : Nat}
      (found : next.caller? event.call = some ⟨key, .fetching ticket address⟩)
      (asks : event.request? = some ⟨key, false⟩) :
      event.Outlook next (reports.map .log ++ [.fetch event.call address key])

section

variable {choose : Choice} {group : Group} {event : Event}

theorem Unshared.lookupWaiters_eq_nil (unshared : group.Unshared)
    (ascending : Ordered.Ascending group.callers) (ticket : Nat) :
    group.lookupWaiters ticket = [] := by
  refine List.filterMap_eq_nil_iff.mpr fun entry present => ?_
  obtain ⟨call, key, stage⟩ := entry
  have asked := unshared call _ (ascending.mem_iff.mp present)
  cases stage with
  | joined => exact absurd rfl asked
  | fetching | waiting | loading => rfl

theorem Unshared.sourceWaiters_eq_nil (unshared : group.Unshared)
    (ascending : Ordered.Ascending group.callers) (ticket : Nat) :
    group.sourceWaiters ticket = [] := by
  refine List.filterMap_eq_nil_iff.mpr fun entry present => ?_
  obtain ⟨call, key, stage⟩ := entry
  have asked := unshared call _ (ascending.mem_iff.mp present)
  cases stage with
  | waiting => exact absurd rfl asked
  | joined | fetching | loading => rfl

/-- Nobody is woken at the end of a call. -/
theorem Unshared.settleLookup_silent (unshared : group.Unshared)
    (ascending : Ordered.Ascending group.callers) (call : Nat) (key : String) (outcome : Outcome)
    (lookup : Option Nat) : ((group.forget call).settleLookup key outcome lookup).2 = [] := by
  cases lookup with
  | none => rfl
  | some ticket =>
      have fewer : (group.forget call).Unshared := by
        intro other caller found
        rw [caller?_forget] at found
        split at found
        · cases found
        · exact unshared other caller found
      rw [settleLookup, fewer.lookupWaiters_eq_nil (ascending.filter _)]
      rfl

/-- A report before the last effect is one more report. -/
theorem exists_reports (group : Group) (reports : List Log) (message : String) (last : Effect) :
    ∃ more : List Log,
      reports.map .log ++ [group.report message, last] = more.map .log ++ [last] :=
  ⟨reports ++ [.debug ("[" ++ group.name ++ "] " ++ message)], by simp [report]⟩

theorem Seeks.reports {key : String} {lookup : Option Nat} {base : Group} {first : List Effect}
    (seeks : Seeks choose group event key lookup base first) :
    ∃ reports : List Log, first = reports.map .log := by
  cases seeks with
  | lookup => exact ⟨_, rfl⟩
  | peer => exact ⟨[], rfl⟩
  | failed => exact ⟨[_], rfl⟩

theorem Seeks.begins {key : String} {lookup : Option Nat} {base : Group} {first : List Effect}
    (seeks : Seeks choose group event key lookup base first) :
    ∀ result, event ≠ .loaded event.call result := by
  rintro result same
  cases seeks with
  | lookup misses | peer misses =>
      rw [same] at misses
      cases misses.made
  | failed => cases same

theorem clear_loaded {call : Nat} {key : String} {lookup : Option Nat} {ticket : Nat}
    (found : group.caller? call = some ⟨key, .loading lookup ticket⟩)
    (ascending : Ordered.Ascending group.callers) (unshared : group.Unshared)
    (result : Except Causes Bytes) : group.Clear (.loaded call result) where
  acts := Or.inr ⟨_, asked?_of_found found, decide_eq_true rfl⟩
  kept := nofun
  ascending := ascending
  unshared := unshared
  lookups := nofun
  runs begins := absurd rfl (begins result)

theorem clear_fetched {call : Nat} {key address : String} {ticket : Nat}
    (found : group.caller? call = some ⟨key, .fetching ticket address⟩)
    (ascending : Ordered.Ascending group.callers) (unshared : group.Unshared)
    (alone : group.sourceRuns.running = []) (elapsed : Span) (result : Except Causes Bytes) :
    group.Clear (.fetched call elapsed result) where
  acts := Or.inr ⟨_, asked?_of_found found, decide_eq_true rfl⟩
  kept := nofun
  ascending := ascending
  unshared := unshared
  lookups := nofun
  runs _ := alone

theorem clear_getForPeer {call : Nat} {key : String} (new : group.caller? call = none)
    (ascending : Ordered.Ascending group.callers) (unshared : group.Unshared)
    (alone : group.sourceRuns.running = []) : group.Clear (.getForPeer call key) where
  acts := Or.inl ⟨⟨key, true⟩, rfl, new⟩
  kept := nofun
  ascending := ascending
  unshared := unshared
  lookups := nofun
  runs _ := alone

theorem Transition.outlook {next : Group} {effects : List Effect}
    (transition : Transition choose group event next effects) (clear : group.Clear event) :
    event.Outlook next effects := by
  cases transition with
  | ignore stale late =>
      rcases clear.acts with ⟨request, opens⟩ | ⟨effect, asked, closes⟩
      · exact absurd opens (late request)
      · cases closes.symm.trans (stale effect asked)
  | refuse opens => exact .ends [] _ opens.new
  | hit opens named found note => exact .ends [_] _ opens.new
  | join misses running =>
      rw [clear.lookups _ misses.made] at running
      cases running
  | share found => exact absurd rfl (clear.unshared _ _ found)
  | leave => exact absurd rfl clear.kept
  | @fetch _ key address misses =>
      obtain ⟨more, same⟩ := exists_reports group (group.pick choose key).2
        ("fetching " ++ key ++ " from " ++ address) (.fetch event.call address key)
      rw [same]
      exact .fetches more (caller?_setStage_self _ _ _ _) misses.made
  | wait seeks running =>
      rw [clear.runs seeks.begins] at running
      cases running
  | @load _ key lookup base first seeks =>
      obtain ⟨reports, rfl⟩ := seeks.reports
      obtain ⟨more, same⟩ := exists_reports group reports ("invoking getter for " ++ key)
        (.load event.call key)
      rw [same]
      exact .loads more (caller?_setStage_self _ _ _ _) seeks.begins
  | @conclude _ key lookup outcome base told ends =>
      have same := ends.callers_base
      have unshared : base.Unshared := by
        intro call caller found
        rw [caller?, same] at found
        exact clear.unshared call caller found
      rw [unshared.settleLookup_silent (same ▸ clear.ascending), List.append_nil]
      have gone := caller?_withdrawn_self base event.call key outcome lookup
      cases ends with
      | fetched => exact .ends [] _ gone
      | loaded =>
          rw [clear.unshared.sourceWaiters_eq_nil clear.ascending]
          exact .ends [] _ gone
      | waited found => exact absurd rfl (clear.unshared _ _ found)
      | dropFetch | dropWait | dropRun => exact absurd rfl clear.kept

end

end ReadThrough.Group
