import ReadThrough.Proofs.Cache.Balance
import ReadThrough.Proofs.Group.Ledger

/-!
# The numbers of a group balance

The numbers that a group keeps are those of the events behind them, whatever the
order of these events is.  The cache is read by every new call with a key, and
written by every run of the data source that gives a value.  The numbers of the
fetches are those of the answers of other nodes.
-/

namespace ReadThrough.Group

/-! ## Events that touch the cache -/

/-- The event is a request for a key under a number that no call has. -/
def Event.starts (group : Group) (event : Event) : Bool :=
  event.request?.any fun request => request.key ≠ "" && (group.caller? event.call).isNone

/-- The data source is asked for a key that has a value. -/
def Effect.reloads (cache : Cache Bytes) : Effect → Bool
  | .load _ key => (cache.find? key).isSome
  | .fetch .. | .wake _ | .finish .. | .log _ => false

/-- The data source gives a value for a key that has one. -/
def Event.replaces (group : Group) (event : Event) : Bool :=
  event.ends (Effect.reloads group.cache) .value group

inductive CacheChange (group : Group) (event : Event) : Cache Bytes → Prop where
  | keeps (idle : event.starts group = false)
      (bare : ∀ key value, ¬ event.Provides group key value) :
      CacheChange group event group.cache
  | looksUp (key : String) (starts : event.starts group = true)
      (bare : ∀ key value, ¬ event.Provides group key value) :
      CacheChange group event (group.cache.perform (.get key)).1
  | stores (key : String) (value : Bytes) (idle : event.starts group = false)
      (provides : event.Provides group key value) :
      CacheChange group event (group.cache.perform (.put key value)).1

section Events

variable {group : Group} {event : Event} {key : String}

theorem starts_of_opens {request : Request} (opens : event.Opens group request)
    (named : request.key ≠ "") : event.starts group = true := by
  simp [Event.starts, opens.made, opens.new, named]

theorem starts_eq_false (unnamed : ∀ request, event.Opens group request → request.key = "") :
    event.starts group = false := by
  refine (Option.any_eq_false _ _).mpr fun request made => ?_
  cases new : group.caller? event.call with
  | none => simp [unnamed request ⟨made, new⟩]
  | some caller => exact Bool.and_false _

/-- An event that answers, or takes up an outcome, or drops a call starts nothing. -/
theorem idle_of_silent (silent : event.request? = none) : event.starts group = false := by
  rw [Event.starts, silent]
  rfl

theorem bare_of_unasked (unasked : group.asked? event.call = none) (key : String)
    (value : Bytes) : ¬ event.Provides group key value := by
  rintro ⟨-, asked⟩
  cases unasked.symm.trans asked

/-- Only the data source ends a question to it with a value. -/
theorem ends_value_of_bare (bare : ∀ key value, ¬ event.Provides group key value)
    {kind : Effect → Bool} (loads : ∀ effect, kind effect = true → effect.isLoad = true) :
    event.ends kind .value group = false := by
  refine Bool.eq_false_iff.mpr fun ends => ?_
  rw [Event.ends, Bool.and_eq_true, decide_eq_true_eq] at ends
  obtain ⟨closed, ending⟩ := ends
  obtain ⟨effect, found, counted⟩ := (Option.any_eq_true _ _).mp closed
  obtain ⟨asked, closes⟩ := Option.filter_eq_some_iff.mp found
  cases effect with
  | load call key =>
      obtain rfl : call = event.call := Option.some.inj (asker?_of_asked asked)
      cases event with
      | loaded call result =>
          cases result with
          | ok value => exact bare key value ⟨rfl, asked⟩
          | error => cases ending
      | drop => cases ending
      | get | getForPeer | fetched | resume => cases closes
  | fetch | wake | finish | log => cases loads _ counted

theorem ends_value_of_provides {value : Bytes} (provides : event.Provides group key value)
    (kind : Effect → Bool) : event.ends kind .value group = kind (.load event.call key) := by
  have closed : event.closed? group = some (.load event.call key) := by
    rw [Event.closed?, provides.2]
    exact Option.filter_some_pos provides.closes
  have ending : event.ending? = some .value := by rw [provides.1]; rfl
  rw [Event.ends, closed, ending]
  exact Bool.and_true _

end Events

theorem isLoad_of_reloads {cache : Cache Bytes} {effect : Effect}
    (reloads : effect.reloads cache = true) : effect.isLoad = true := by
  cases effect with
  | load => rfl
  | fetch | wake | finish | log => cases reloads

theorem isLoad_of_nobody {effect : Effect} (nobody : effect.asker? = none) :
    effect.isLoad = false := by
  cases effect with
  | load => cases nobody
  | fetch | wake | finish | log => rfl

theorem isFetch_of_nobody {effect : Effect} (nobody : effect.asker? = none) :
    effect.isFetch = false := by
  cases effect with
  | fetch => cases nobody
  | load | wake | finish | log => rfl

/-! ## The numbers of the cache -/

namespace CacheChange

variable {group : Group} {event : Event} {cache : Cache Bytes}
  (change : CacheChange group event cache)

include change

theorem reads : cache.reads = group.cache.reads + (event.starts group).toNat := by
  cases change with
  | keeps idle => rw [idle]; rfl
  | looksUp key starts => rw [starts]; exact Cache.reads_perform nofun
  | stores key value idle => rw [idle]; exact Cache.reads_perform nofun

theorem writes :
    cache.writes = group.cache.writes + (event.ends Effect.isLoad .value group).toNat := by
  cases change with
  | keeps _ bare =>
      rw [ends_value_of_bare bare fun _ load => load]
      rfl
  | looksUp key _ bare =>
      rw [ends_value_of_bare bare fun _ load => load]
      exact Cache.writes_perform nofun
  | stores key value _ provides =>
      rw [ends_value_of_provides provides]
      exact Cache.writes_perform nofun

theorem accounted (accounted : group.cache.Accounted) : cache.Accounted := by
  cases change with
  | keeps => exact accounted
  | looksUp key | stores key value => exact accounted.perform _

/-- A value that the data source gives becomes an entry, which may replace or evict others. -/
theorem balance (accounted : group.cache.Accounted) :
    cache.entries.length + cache.evictions + (event.replaces group).toNat =
      group.cache.entries.length + group.cache.evictions +
        (event.ends Effect.isLoad .value group).toNat := by
  cases change with
  | keeps _ bare =>
      rw [Event.replaces, ends_value_of_bare bare fun _ load => load,
        ends_value_of_bare bare fun _ => isLoad_of_reloads]
  | looksUp key _ bare =>
      have keeps : (.get key : Cache.Operation Bytes) ≠ .flush := by simp
      have entries := Cache.balance_perform accounted keeps
      have evictions : (group.cache.perform (.get key)).1.evictions = _ :=
        Cache.evictions_perform keeps
      rw [Event.replaces, ends_value_of_bare bare fun _ load => load,
        ends_value_of_bare bare fun _ => isLoad_of_reloads]
      simp only [Cache.Operation.replaces, Cache.Operation.withdraws, Cache.Operation.isPut,
        Bool.toNat_false] at entries ⊢
      omega
  | stores key value _ provides =>
      have keeps : (.put key value : Cache.Operation Bytes) ≠ .flush := by simp
      have entries := Cache.balance_perform accounted keeps
      have evictions : (group.cache.perform (.put key value)).1.evictions = _ :=
        Cache.evictions_perform keeps
      rw [Event.replaces, ends_value_of_provides provides, ends_value_of_provides provides]
      simp only [Cache.Operation.replaces, Cache.Operation.withdraws, Cache.Operation.isPut,
        Effect.reloads, Effect.isLoad, Bool.toNat_false, Bool.toNat_true] at entries ⊢
      omega

end CacheChange

/-! ## The numbers of the loads and the fetches -/

/-- The numbers of the fetches have grown by those that the event answers. -/
structure FetchNumbers (group : Group) (event : Event) (next : Group) : Prop where
  loads : next.peerLoads = group.peerLoads + (event.ends Effect.isFetch .value group).toNat
  errors : next.peerErrors = group.peerErrors + (event.ends Effect.isFetch .error group).toNat
  samples : next.peerFetches = group.peerFetches +
    ((event.ends Effect.isFetch .value group).toNat +
      (event.ends Effect.isFetch .error group).toNat)

section Bases

variable {choose : Choice} {group base : Group} {event : Event} {key : String}
  {lookup : Option Nat} {first told : List Effect} {outcome : Outcome}

theorem Seeks.localLoads_base (seeks : Seeks choose group event key lookup base first) :
    base.localLoads = group.localLoads := by
  cases seeks <;> rfl

theorem Ends.localLoads_base (ends : Ends group event key lookup outcome base told) :
    base.localLoads = group.localLoads := by
  cases ends with
  | loaded result => cases result <;> rfl
  | _ => rfl

theorem settleLookup_eq (group : Group) (key : String) (outcome : Outcome)
    (lookup : Option Nat) :
    (group.settleLookup key outcome lookup).1 =
      { group with lookups := (group.settleLookup key outcome lookup).1.lookups } := by
  cases lookup <;> rfl

/-- The event answers no fetch, and the numbers are as before. -/
theorem FetchNumbers.unchanged
    (unanswered : ∀ ending, ending ≠ .givenUp → event.ends Effect.isFetch ending group = false)
    (loads : base.peerLoads = group.peerLoads) (errors : base.peerErrors = group.peerErrors)
    (latency : base.latency = group.latency) : FetchNumbers group event base := by
  have value := unanswered .value nofun
  have error := unanswered .error nofun
  refine ⟨?_, ?_, ?_⟩
  · rw [loads, value]; rfl
  · rw [errors, error]; rfl
  · rw [peerFetches, latency, value, error]; rfl

theorem FetchNumbers.of_unasked (unasked : group.asked? event.call = none)
    (loads : base.peerLoads = group.peerLoads) (errors : base.peerErrors = group.peerErrors)
    (latency : base.latency = group.latency) : FetchNumbers group event base :=
  .unchanged (fun _ _ => ends_of_nothing (closed?_of_unasked unasked)) loads errors latency

theorem ends_of_fetching {call ticket : Nat} {address : String}
    (found : group.caller? call = some ⟨key, .fetching ticket address⟩) {elapsed : Span}
    {result : Except Causes Bytes} (ending : Ending) :
    Event.ends Effect.isFetch ending group (.fetched call elapsed result) =
      decide (Event.ending? (.fetched call elapsed result) = some ending) := by
  have closed : Event.closed? group (.fetched call elapsed result) =
      some (.fetch call address key) := closed?_of_found found rfl (decide_eq_true rfl)
  rw [Event.ends, closed]
  exact Bool.true_and _

theorem Seeks.fetchNumbers (seeks : Seeks choose group event key lookup base first) :
    FetchNumbers group event base := by
  cases seeks with
  | lookup misses | peer misses => exact .of_unasked (asked?_of_new misses.new) rfl rfl rfl
  | failed elapsed causes found =>
      refine ⟨?_, ?_, ?_⟩
      · rw [ends_of_fetching found]; rfl
      · rw [ends_of_fetching found]; rfl
      · rw [ends_of_fetching found, ends_of_fetching found]; rfl

theorem Ends.fetchNumbers (ends : Ends group event key lookup outcome base told) :
    FetchNumbers group event base := by
  cases ends with
  | fetched elapsed value found =>
      refine ⟨?_, ?_, ?_⟩
      · rw [ends_of_fetching found]; rfl
      · rw [ends_of_fetching found]; rfl
      · rw [ends_of_fetching found, ends_of_fetching found]; rfl
  | @loaded call key lookup ticket result found =>
      have closed : Event.closed? group (.loaded call result) = some (.load call key) :=
        closed?_of_found found rfl (decide_eq_true rfl)
      have unanswered (ending : Ending) :
          Event.ends Effect.isFetch ending group (.loaded call result) = false := by
        rw [Event.ends, closed]
        rfl
      cases result with
      | ok | error => exact .unchanged (fun ending _ => unanswered ending) rfl rfl rfl
  | waited found => exact .of_unasked (asked?_of_found found) rfl rfl rfl
  | dropFetch | dropWait | dropRun => exact .unchanged (fun _ => ends_of_drop) rfl rfl rfl

end Bases

namespace Transition

variable {choose : Choice} {group next : Group} {event : Event} {effects : List Effect}
  (transition : Transition choose group event next effects)

include transition

theorem cacheChange : CacheChange group event next.cache := by
  have opening {request : Request} (opens : event.Opens group request)
      (named : request.key ≠ "") : CacheChange group event (group.read request.key).cache :=
    .looksUp request.key (starts_of_opens opens named) (bare_of_unasked (asked?_of_new opens.new))
  have quiet (silent : event.request? = none)
      (bare : ∀ key value, ¬ event.Provides group key value) :
      CacheChange group event group.cache :=
    .keeps (idle_of_silent silent) bare
  cases transition with
  | ignore stale late =>
      refine .keeps (starts_eq_false fun request opens => (late request opens).elim) ?_
      intro key value provides
      cases (stale _ provides.2).symm.trans provides.closes
  | refuse opens unnamed =>
      refine .keeps (starts_eq_false fun request again => ?_)
        (bare_of_unasked (asked?_of_new opens.new))
      cases Option.some.inj (opens.made.symm.trans again.made)
      exact unnamed
  | hit opens named => exact opening opens named
  | join misses | fetch misses => exact opening misses.toOpens misses.named
  | share found | leave found => exact quiet rfl (bare_of_unasked (asked?_of_found found))
  | wait seeks | load seeks =>
      cases seeks with
      | lookup misses | peer misses => exact opening misses.toOpens misses.named
      | failed =>
          refine quiet rfl ?_
          rintro key value ⟨⟨⟩, -⟩
  | conclude ends =>
      rw [cache_settleLookup]
      cases ends with
      | fetched | waited | dropFetch | dropWait | dropRun =>
          refine quiet rfl ?_
          rintro key value ⟨⟨⟩, -⟩
      | loaded result found =>
          cases result with
          | error =>
              refine quiet rfl ?_
              rintro key value ⟨⟨⟩, -⟩
          | ok value =>
              exact .stores _ value (idle_of_silent rfl) ⟨rfl, asked?_of_found found⟩

/-- The data source is asked as often as its runs are counted. -/
theorem localLoads : next.localLoads = group.localLoads + effects.countP Effect.isLoad := by
  have silent {effects : List Effect} (nobody : ∀ effect ∈ effects, effect.asker? = none) :
      effects.countP Effect.isLoad = 0 := countP_of_silent (fun _ => isLoad_of_nobody) nobody
  cases transition with
  | ignore | refuse | hit | join | share | leave => rfl
  | fetch =>
      rw [List.countP_append, silent (by simp [Effect.asker?])]
      rfl
  | wait seeks => rw [silent seeks.asks_nobody, ← seeks.localLoads_base]; rfl
  | load seeks =>
      rw [List.countP_append, silent seeks.asks_nobody, ← seeks.localLoads_base]
      rfl
  | conclude ends =>
      rw [List.countP_append, silent ends.asks_nobody, silent, ← ends.localLoads_base,
        settleLookup_eq]
      · rfl
      · intro effect woken
        obtain ⟨call, rfl⟩ := wake_of_mem_settleLookup woken
        rfl

/-- The fetches are counted, and timed, as they are answered. -/
theorem fetchNumbers : FetchNumbers group event next := by
  cases transition with
  | ignore stale =>
      exact .unchanged (fun _ _ => ends_of_nothing (closed?_of_stale stale)) rfl rfl rfl
  | refuse opens | hit opens => exact .of_unasked (asked?_of_new opens.new) rfl rfl rfl
  | join misses | fetch misses => exact .of_unasked (asked?_of_new misses.new) rfl rfl rfl
  | share found | leave found => exact .of_unasked (asked?_of_found found) rfl rfl rfl
  | wait seeks | load seeks =>
      obtain ⟨loads, errors, samples⟩ := seeks.fetchNumbers
      exact ⟨loads, errors, samples⟩
  | conclude ends =>
      obtain ⟨loads, errors, samples⟩ := ends.fetchNumbers
      rw [settleLookup_eq]
      exact ⟨loads, errors, samples⟩

end Transition

/-! ## Runs -/

section Runs

variable (name : String) (budget : Nat) (moves : List Action)

theorem cache_accounted_run : ((empty name budget).run moves).1.cache.Accounted := by
  induction moves using run_induction (empty name budget) with
  | nil => exact Cache.accounted_empty budget
  | attach history attached same ih =>
      rw [same]
      exact ih
  | step history choose event stepped ih => exact stepped.cacheChange.accounted ih

theorem localLoads_run :
    ((empty name budget).run moves).1.localLoads =
      ((empty name budget).run moves).2.countP Effect.isLoad := by
  induction moves using run_induction (empty name budget) with
  | nil => rfl
  | attach history attached same ih =>
      rw [same, run_concat, effects_attach, List.append_nil]
      exact ih
  | step history choose event stepped ih =>
      rw [stepped.localLoads, ih, run_concat, List.countP_append]
      rfl

theorem entries_run :
    let start := empty name budget
    let cache := (start.run moves).1.cache
    cache.entries.length + cache.evictions + start.count Event.replaces moves =
      start.count (Event.ends Effect.isLoad .value) moves := by
  intro start
  induction moves using run_induction start with
  | nil => rfl
  | attach history attached same ih =>
      rw [same, count_concat, count_concat]
      exact ih
  | step history choose event stepped ih =>
      have balance := stepped.cacheChange.balance (cache_accounted_run name budget history)
      rw [count_concat, count_concat]
      simp only [Action.isOf]
      omega

theorem samples_run :
    let group := ((empty name budget).run moves).1
    group.latency.recorded = group.peerLoads + group.peerErrors := by
  induction moves using run_induction (empty name budget) with
  | nil => rfl
  | attach history attached same ih =>
      rw [same]
      exact ih
  | step history choose event stepped ih =>
      obtain ⟨loads, errors, samples⟩ := stepped.fetchNumbers
      simp only [peerFetches] at samples
      omega

/--
In every state of a group, the cache was read by each new call with a key and
written by each run of the data source that gave a value; the values are the
entries and those that were evicted or replaced.  The runs are those for which
the data source was asked.  Each fetch that was answered is a sample, counted
by its success; the others that were begun are in flight or were dropped.
-/
theorem metrics_balance :
    let start := empty name budget
    let group := (start.run moves).1
    let effects := (start.run moves).2
    group.cache.reads = start.count Event.starts moves ∧
    group.localLoads = effects.countP Effect.isLoad ∧
    group.cache.writes = start.count (Event.ends Effect.isLoad .value) moves ∧
    group.cache.writes ≤ group.localLoads ∧
    group.cache.writes =
      group.cache.entries.length + group.cache.evictions + start.count Event.replaces moves ∧
    group.peerLoads = start.count (Event.ends Effect.isFetch .value) moves ∧
    group.peerErrors = start.count (Event.ends Effect.isFetch .error) moves ∧
    group.peerLoads + group.peerErrors = group.latency.recorded ∧
    effects.countP Effect.isFetch =
      group.peerLoads + group.peerErrors + group.pending Effect.isFetch +
        start.count (Event.ends Effect.isFetch .givenUp) moves := by
  intro start group effects
  have reads : group.cache.reads = 0 + start.count Event.starts moves :=
    count_run start (fun _ _ => rfl) (fun _ _ _ _ _ stepped => stepped.cacheChange.reads) moves
  have writes : group.cache.writes = 0 + start.count (Event.ends Effect.isLoad .value) moves :=
    count_run start (fun _ _ => rfl) (fun _ _ _ _ _ stepped => stepped.cacheChange.writes) moves
  have loads : group.peerLoads = 0 + start.count (Event.ends Effect.isFetch .value) moves :=
    count_run start (fun _ _ => rfl) (fun _ _ _ _ _ stepped => stepped.fetchNumbers.loads) moves
  have errors : group.peerErrors = 0 + start.count (Event.ends Effect.isFetch .error) moves :=
    count_run start (fun _ _ => rfl) (fun _ _ _ _ _ stepped => stepped.fetchNumbers.errors) moves
  rw [Nat.zero_add] at reads writes loads errors
  have begun : group.localLoads = effects.countP Effect.isLoad := localLoads_run name budget moves
  have entries : group.cache.entries.length + group.cache.evictions +
      start.count Event.replaces moves = start.count (Event.ends Effect.isLoad .value) moves :=
    entries_run name budget moves
  have asked {kind : Effect → Bool} (asks : ∀ effect, effect.asker? = none → kind effect = false) :
      effects.countP kind = group.pending kind + start.count (Event.ends kind .value) moves +
        start.count (Event.ends kind .error) moves +
        start.count (Event.ends kind .givenUp) moves :=
    asked_run asks name budget moves
  refine ⟨reads, begun, writes, ?_, writes.trans entries.symm, loads, errors,
    (samples_run name budget moves).symm, ?_⟩
  · rw [writes, begun, asked fun _ => isLoad_of_nobody]
    omega
  · rw [loads, errors, asked fun _ => isFetch_of_nobody]
    omega

end Runs

/-- One fetch fails and one is dropped; the value that is then loaded answers the third call. -/
example :
    let choose : Choice := fun _ => (some "10.0.0.2:7878", [])
    let moves : List Action :=
      [.attach, .step choose (.get 1 "Tom"), .step choose (.get 2 "Jack"),
        .step choose (.fetched 1 ⟨0⟩ (.error [])), .step choose (.drop 2),
        .step choose (.loaded 1 (.ok [54, 51, 48])), .step choose (.get 3 "Tom")]
    let group := ((empty "scores" 0).run moves).1
    group.cache.reads = 3 ∧ group.localLoads = 1 ∧ group.cache.writes = 1 ∧
      group.peerLoads = 0 ∧ group.peerErrors = 1 ∧
      (empty "scores" 0).count (Event.ends Effect.isFetch .givenUp) moves = 1 := by
  decide

end ReadThrough.Group
