import Mathlib.Data.List.Induction
import ReadThrough.Peer.Following
import ReadThrough.Proofs.Config.Texts
import ReadThrough.Proofs.Peer.Membership

/-!
# Keeping up with the configuration

A listener that missed several changes hears of two at most, but each time it
takes over the document that is in force then.  So once there is nothing more to
hear, the pool is the one of the newest document, or as before if this document
has invalid settings, however many documents were in force in between.
-/

namespace ReadThrough.Peer

/-! ## Taking over a document -/

/-- The reader of the settings does not stop on the document of a text. -/
def Readable (document : Yaml.Value) : Prop :=
  ∀ error, Settings.read document = .error error → error.isFault = false

instance (document : Yaml.Value) : Decidable (Readable document) :=
  match read : Settings.read document with
  | .ok _ => .isTrue fun _ refused => nomatch read.symm.trans refused
  | .error _ => decidable_of_iff (_ = false)
      ⟨fun harmless _ refused => Except.error.inj (read.symm.trans refused) ▸ harmless,
        fun readable => readable _ read⟩

/-- The pool after a document came into force. -/
def Pool.after (pool : Pool) (document : Yaml.Value) : Pool :=
  match Settings.read document with
  | .ok (settings, members) => .published pool.hash settings members
  | .error _ => pool

namespace Pool

theorem hash_published (hash : Hash) (settings : Settings) (members : List String) :
    (published hash settings members).hash = hash := rfl

theorem hash_after (pool : Pool) (document : Yaml.Value) :
    (pool.after document).hash = pool.hash := by
  rw [after]
  split
  · exact hash_published _ _ _
  · rfl

/-- To take over a document twice is to take it over once. -/
theorem after_after (pool : Pool) (document : Yaml.Value) :
    (pool.after document).after document = pool.after document := by
  rw [after, hash_after, after]
  split
  · rfl
  · rfl

/-- Whoever can take over a document can read its settings. -/
theorem readable_of_adopt {pool adopted : Pool} {document : Yaml.Value} {reports : List Log}
    (adopts : pool.adopt document = some (adopted, reports)) : Readable document := by
  intro error read
  rw [adopt, read] at adopts
  refine Bool.eq_false_iff.mpr fun fault => ?_
  simp [fault] at adopts

theorem Consistent.published (hash : Hash) (settings : Settings) (members : List String) :
    (Pool.published hash settings members).Consistent := by
  have applied := (consistent_empty hash settings).apply settings members
  rwa [(consistent_empty hash settings).apply_eq settings members] at applied

theorem Consistent.after {pool : Pool} (consistent : pool.Consistent) (document : Yaml.Value) :
    (pool.after document).Consistent := by
  rw [Pool.after]
  split
  · exact .published _ _ _
  · exact consistent

theorem Consistent.adopt {pool : Pool} (consistent : pool.Consistent) {document : Yaml.Value}
    (readable : Readable document) :
    ∃ reports, pool.adopt document = some (pool.after document, reports) := by
  rw [Pool.adopt, Pool.after]
  cases read : Settings.read document with
  | ok accepted =>
      obtain ⟨settings, members⟩ := accepted
      refine ⟨(pool.apply settings members).2, ?_⟩
      dsimp only
      rw [← consistent.apply_eq settings members]
  | error error =>
      dsimp only
      rw [readable error read]
      exact ⟨_, rfl⟩

end Pool

/-! ## Listening -/

/-- A configuration and a pool that follows it, on a node that runs. -/
structure Followed where
  config : Config
  following : Following

namespace Followed

inductive Event where
  | load (text : String)
  | hear (now : Nat)
  | wait (now : Nat)
  deriving DecidableEq

/-- Whether an event leaves the configuration alone. -/
def Event.isQuiet : Event → Bool
  | .load _ => false
  | .hear _ | .wait _ => true

def Event.isHearing : Event → Bool
  | .hear _ => true
  | .load _ | .wait _ => false

def step (followed : Followed) : Event → Followed
  | .load text => { followed with config := followed.config.loadTexts [text] }
  | .hear now =>
    { followed with following := (followed.following.hear true now followed.config).1 }
  | .wait now => { followed with following := followed.following.waitUntil true now }

def run (followed : Followed) (events : List Event) : Followed := events.foldl step followed

def loadAll (followed : Followed) (texts : List String) : Followed :=
  followed.run (texts.map .load)

/-- The listener has heard of all changes. -/
def Drained (followed : Followed) : Prop :=
  followed.config.hear? followed.following.seen = none

theorem loadAll_eq (followed : Followed) (texts : List String) :
    followed.loadAll texts =
      { followed with config := followed.config.loadTexts texts } := by
  induction texts generalizing followed with
  | nil => rfl
  | cons first texts ih => exact ih (followed.step (.load first))

theorem drained_iff {followed : Followed} :
    followed.Drained ↔ followed.config.changes ≤ followed.following.seen :=
  Config.hear?_eq_none_iff

theorem run_concat (followed : Followed) (events : List Event) (last : Event) :
    followed.run (events ++ [last]) = (followed.run events).step last := by
  rw [run, List.foldl_append]
  rfl

/-- What each allowed event preserves, a sequence of them preserves. -/
theorem run_preserves {motive : Followed → Prop} {allowed : Event → Prop}
    (next : ∀ {reached event}, motive reached → allowed event → motive (reached.step event))
    {followed : Followed} (start : motive followed) {events : List Event}
    (all : ∀ event ∈ events, allowed event) : motive (followed.run events) := by
  induction events generalizing followed with
  | nil => exact start
  | cons first events ih =>
      obtain ⟨now, later⟩ := List.forall_mem_cons.mp all
      exact ih (next start now) later

/-- Waiting moves the time at which the listener wakes up, and nothing else. -/
theorem step_wait (followed : Followed) (now : Nat) :
    ∃ deadline, followed.step (.wait now) =
      { followed with following := { followed.following with deadline } } := by
  rw [step, Following.waitUntil]
  split
  · exact ⟨_, rfl⟩
  · exact ⟨followed.following.deadline, rfl⟩

theorem step_hear_of_drained {followed : Followed} (drained : followed.Drained) (now : Nat) :
    followed.step (.hear now) = followed := by
  rw [step, Following.hear]
  rw [Drained] at drained
  split
  · rw [drained]
  · rfl

/-- What holds at any time: the listener is at work and can take over the document in force. -/
structure Sound (followed : Followed) : Prop where
  listening : followed.following.listening = true
  seen : followed.following.seen ≤ followed.config.changes
  hash : followed.following.pool.hash = Crc32.checksum
  consistent : followed.following.pool.Consistent
  readable : Readable followed.config.document

/-- The texts that are loaded have settings on which their reader does not stop. -/
def Event.Loadable : Event → Prop
  | .load text => ∀ document, Config.parse? text = some document → Readable document
  | .hear _ | .wait _ => True

instance (text : String) : Decidable (Event.load text).Loadable :=
  match parsed : Config.parse? text with
  | none => .isTrue fun _ present => nomatch parsed.symm.trans present
  | some document => decidable_of_iff (Readable document)
      ⟨fun readable _ present => Option.some.inj (parsed.symm.trans present) ▸ readable,
        fun loadable => loadable document parsed⟩

theorem Event.Loadable.of_isQuiet {event : Event} (quiet : event.isQuiet = true) :
    event.Loadable := by
  cases event with
  | load => cases quiet
  | hear | wait => exact trivial

namespace Sound

variable {followed : Followed} (sound : Sound followed)

include sound

/-- The listener takes over the document in force, whichever changes it missed. -/
theorem step_hear (missed : ¬ followed.Drained) (now : Nat) :
    followed.step (.hear now) = { followed with
      following :=
        { pool := followed.following.pool.after followed.config.document
          seen := max (followed.following.seen + 1) (followed.config.changes - 1)
          listening := true
          deadline := now + Following.patience } } := by
  obtain ⟨reports, adopted⟩ := sound.consistent.adopt sound.readable
  rw [drained_iff, Nat.not_le] at missed
  rw [step, Following.hear, if_pos sound.listening, Config.hear?, if_pos missed]
  dsimp only
  rw [adopted]

theorem next {event : Event} (loadable : event.Loadable) : Sound (followed.step event) := by
  cases event with
  | load text =>
      refine ⟨sound.listening, ?_, sound.hash, sound.consistent, ?_⟩
      · rw [step, Config.loadTexts_eq]
        split
        · exact sound.seen
        · exact Nat.le_add_right_of_le sound.seen
      · rw [step, Config.loadTexts_eq]
        split
        · exact sound.readable
        · rename_i document newest
          rw [Config.newest?_singleton] at newest
          exact loadable document newest
  | hear now =>
      by_cases drained : followed.Drained
      · rw [step_hear_of_drained drained]
        exact sound
      · rw [sound.step_hear drained]
        have bound := sound.seen
        rw [drained_iff] at drained
        exact ⟨rfl, by dsimp only; omega, (Pool.hash_after _ _).trans sound.hash,
          sound.consistent.after _, sound.readable⟩
  | wait now =>
      obtain ⟨deadline, same⟩ := step_wait followed now
      rw [same]
      exact ⟨sound.listening, sound.seen, sound.hash, sound.consistent, sound.readable⟩

theorem run {events : List Event} (loadable : ∀ event ∈ events, event.Loadable) :
    Sound (followed.run events) :=
  run_preserves (fun sound loadable => sound.next loadable) sound loadable

end Sound

/-- A pool that was just set up has taken over the document in force. -/
theorem sound_install {now : Nat} {config : Config} {following : Following} {reports : List Log}
    (installed : Following.install now (some config) = some (following, reports)) :
    Sound ⟨config, following⟩ := by
  obtain ⟨⟨pool, poolReports⟩, adopts, same⟩ := Option.bind_eq_some_iff.mp installed
  obtain ⟨rfl, -⟩ := Prod.mk.inj (Option.some.inj same)
  have fresh : Following.alone.pool.Consistent := Pool.consistent_empty _ _
  have readable := Pool.readable_of_adopt adopts
  obtain ⟨_, adopted⟩ := fresh.adopt readable
  obtain ⟨rfl, -⟩ := Prod.mk.inj (Option.some.inj (adopted.symm.trans adopts))
  exact ⟨rfl, Nat.le_refl _, Pool.hash_after _ _, fresh.after _, readable⟩

/-! ## Without changes of the configuration -/

/--
The configuration is in force that was loaded, and the listener either still has
to hear of it or has taken it over.
-/
structure Awaits (loaded : Followed) (followed : Followed) : Prop where
  config : followed.config = loaded.config
  pool : (followed.following.pool = loaded.following.pool ∧ ¬ followed.Drained) ∨
    followed.following.pool = loaded.following.pool.after loaded.config.document

theorem Awaits.next {loaded followed : Followed} (awaits : Awaits loaded followed)
    (sound : Sound followed) {event : Event} (quiet : event.isQuiet = true) :
    Awaits loaded (followed.step event) := by
  cases event with
  | load => cases quiet
  | hear now =>
      by_cases drained : followed.Drained
      · rw [step_hear_of_drained drained]
        exact awaits
      · rw [sound.step_hear drained]
        refine ⟨awaits.config, Or.inr ?_⟩
        dsimp only
        rw [awaits.config]
        rcases awaits.pool with ⟨before, -⟩ | taken
        · rw [before]
        · rw [taken, Pool.after_after]
  | wait now =>
      obtain ⟨deadline, same⟩ := step_wait followed now
      rw [same]
      exact ⟨awaits.config, awaits.pool⟩

/-- There is nothing to hear as long as nothing changes. -/
theorem run_of_drained {followed : Followed} (drained : followed.Drained) {later : List Event}
    (quiet : ∀ event ∈ later, event.isQuiet = true) :
    (followed.run later).Drained ∧ (followed.run later).config = followed.config ∧
      (followed.run later).following.pool = followed.following.pool := by
  refine run_preserves (motive := fun reached => reached.Drained ∧
    reached.config = followed.config ∧ reached.following.pool = followed.following.pool)
    ?_ ⟨drained, rfl, rfl⟩ quiet
  intro reached event still now
  cases event with
  | load => cases now
  | hear time =>
      rw [step_hear_of_drained still.1]
      exact still
  | wait time =>
      obtain ⟨deadline, same⟩ := step_wait reached time
      rw [same]
      exact still

theorem Awaits.run {loaded : Followed} (sound : Sound loaded) (pending : ¬ loaded.Drained)
    {later : List Event} (quiet : ∀ event ∈ later, event.isQuiet = true) :
    Awaits loaded (loaded.run later) := by
  refine (run_preserves (motive := fun reached => Sound reached ∧ Awaits loaded reached)
    ?_ ⟨sound, rfl, Or.inl ⟨rfl, pending⟩⟩ quiet).2
  intro reached event ⟨sound, awaits⟩ now
  exact ⟨sound.next (.of_isQuiet now), awaits.next sound now⟩

/-- After two messages there is nothing more to hear. -/
theorem Sound.heard {followed : Followed} (sound : Sound followed) {later : List Event}
    (quiet : ∀ event ∈ later, event.isQuiet = true) :
    let reached := followed.run later
    let heard := later.countP Event.isHearing
    (1 ≤ heard → reached.config.changes ≤ reached.following.seen + 1) ∧
      (2 ≤ heard → reached.Drained) := by
  induction later using List.reverseRecOn with
  | nil => exact ⟨nofun, nofun⟩
  | append_singleton later last ih =>
      obtain ⟨before, now⟩ := List.forall_mem_append.mp quiet
      obtain ⟨one, two⟩ := ih before
      have soundBefore := sound.run fun event present => .of_isQuiet (before event present)
      dsimp only
      rw [run_concat, List.countP_append, List.countP_singleton]
      cases last with
      | load => cases now _ (List.mem_singleton.mpr rfl)
      | hear time =>
          by_cases drained : (followed.run later).Drained
          · rw [step_hear_of_drained drained]
            have known := drained_iff.mp drained
            exact ⟨fun _ => Nat.le_succ_of_le known, fun _ => drained⟩
          · have first := mt two drained
            rw [soundBefore.step_hear drained]
            rw [drained_iff] at drained ⊢
            simp only [Event.isHearing, if_true]
            constructor
            · intro _
              omega
            · intro enough
              have last := one (by omega)
              omega
      | wait time =>
          obtain ⟨deadline, same⟩ := step_wait (followed.run later) time
          rw [same]
          exact ⟨one, two⟩

/-- The listener of a node goes on for two messages. -/
theorem run_hear_hear (followed : Followed) (now : Nat) :
    followed.run [.hear now, .hear now] =
      { followed with
        following := (followed.following.hearAll true now followed.config).1 } := rfl

/-- When the listener of a node has gone on, it has heard of all changes. -/
theorem Sound.drained_hearAll {followed : Followed} (sound : Sound followed) (now : Nat) :
    Drained { followed with
      following := (followed.following.hearAll true now followed.config).1 } := by
  have quiet : ∀ event ∈ [Event.hear now, .hear now], event.isQuiet = true := by
    rw [List.forall_mem_cons, List.forall_mem_singleton]
    exact ⟨rfl, rfl⟩
  rw [← run_hear_hear]
  exact (sound.heard quiet).2 (Nat.le_refl 2)

/-! ## Batches of texts -/

/--
A pool was set up from the configuration of a node that runs, and its listener
was at work in any way since.  A batch of malformed texts changes nothing.  After
any other batch the newest document is in force.  Two messages are enough for the
listener to have heard of all changes.  Then the settings and the members in this
document are applied to the pool, and nothing is left of what it was before, or
the pool is the one before the batch if they are invalid.
-/
theorem newest_document_adopted {config : Config} {now : Nat} {following : Following}
    {reports : List Log}
    (installed : Following.install now (some config) = some (following, reports))
    (events : List Event) (loadable : ∀ event ∈ events, event.Loadable) (batch : List String)
    (loadableBatch : ∀ text ∈ batch, (Event.load text).Loadable) :
    let before := (Followed.mk config following).run events
    let loaded := before.loadAll batch
    (Config.newest? batch = none → loaded = before ∧ (before.Drained →
      ∀ later, (∀ event ∈ later, event.isQuiet = true) →
        (loaded.run later).config = before.config ∧
          (loaded.run later).following.pool = before.following.pool)) ∧
    ∀ document, Config.newest? batch = some document →
      loaded.config.document = document ∧
      ∀ later, (∀ event ∈ later, event.isQuiet = true) →
        let after := loaded.run later
        after.config = loaded.config ∧
        (2 ≤ later.countP Event.isHearing → after.Drained) ∧
        (after.Drained →
          (∀ settings members, Settings.read document = .ok (settings, members) →
            after.following.pool = (before.following.pool.apply settings members).1 ∧
              after.following.pool = .published Crc32.checksum settings members) ∧
          ∀ error, Settings.read document = .error error →
            after.following.pool = before.following.pool) := by
  intro before loaded
  have sound : Sound before := (sound_install installed).run loadable
  have soundLoaded : Sound loaded := by
    refine sound.run fun event present => ?_
    obtain ⟨text, among, rfl⟩ := List.mem_map.mp present
    exact loadableBatch text among
  have same : loaded = { before with config := before.config.loadTexts batch } :=
    loadAll_eq before batch
  constructor
  · intro malformed
    rw [Config.loadTexts_of_malformed _ malformed] at same
    refine ⟨same, fun drained later quiet => ?_⟩
    rw [same]
    exact (run_of_drained drained quiet).2
  · intro document newest
    have inForce : loaded.config.document = document := by
      rw [same]
      exact Config.document_loadTexts before.config newest
    have pending : ¬ loaded.Drained := by
      have more := Config.changes_lt_loadTexts before.config newest
      rw [drained_iff, same, Nat.not_le]
      exact Nat.lt_of_le_of_lt sound.seen more
    refine ⟨inForce, fun later quiet => ?_⟩
    have awaits := Awaits.run soundLoaded pending quiet
    refine ⟨awaits.config, (soundLoaded.heard quiet).2, fun drained => ?_⟩
    have taken := awaits.pool.resolve_left fun waits => waits.2 drained
    rw [inForce, Pool.after, soundLoaded.hash] at taken
    constructor
    · intro settings members accepted
      have applied := sound.consistent.apply_eq settings members
      rw [sound.hash] at applied
      rw [taken, accepted, applied]
      exact ⟨rfl, rfl⟩
    · intro error refused
      rw [taken, refused, same]

/-- A refused document was not heard of yet when two more are loaded, and a malformed text. -/
theorem newest_document_adopted_unheard :
    let config := Config.empty "c"
    let following : Following := ⟨.standard .standard, 0, true, 500⟩
    let events : List Event := [.load "peers: {replicas: 0}"]
    let batch := ["peers: {members: [a]}", "peers: {members: [b]}", "["]
    let before := (Followed.mk config following).run events
    let after := (before.loadAll batch).run [.hear 1, .wait 600, .hear 700]
    Following.install 0 (some config) = some (following, []) ∧ ¬ before.Drained ∧
      after.Drained ∧ after.following.pool.members = ["b"] := by
  intro config following events batch before after
  have loadable : (Event.load "peers: {replicas: 0}").Loadable := by decide +kernel
  have loadableBatch : ∀ text ∈ batch, (Event.load text).Loadable := by decide +kernel
  have adopted : following.pool.adopt config.document = some (following.pool, []) := by
    have standard : Settings.read config.document = .ok (.standard, []) := by decide +kernel
    have unchanged : following.pool.settings = Pool.normalizeSettings .standard ∧
        following.pool.members = Pool.normalizeMembers [] := by decide +kernel
    have kept : following.pool.apply .standard [] = (following.pool, []) := by
      rw [Pool.apply]
      exact if_pos unchanged
    rw [Pool.adopt, standard]
    exact congrArg some kept
  have installed : Following.install 0 (some config) = some (following, []) := by
    rw [Following.install]
    exact congrArg (Option.bind · _) adopted
  have newest : Config.newest? batch =
      some (.hash [(.str "peers", .hash [(.str "members", .array [.str "b"])])]) := by
    decide +kernel
  obtain ⟨-, heard⟩ := newest_document_adopted installed events
    (List.forall_mem_singleton.mpr loadable) batch loadableBatch
  obtain ⟨-, follows⟩ := heard _ newest
  obtain ⟨-, drains, takes⟩ := follows [.hear 1, .wait 600, .hear 700] (by decide)
  have drained : after.Drained := drains (by decide)
  have unheard : ¬ before.Drained := by
    rw [drained_iff]
    decide +kernel
  have accepted : Settings.read
      (.hash [(.str "peers", .hash [(.str "members", .array [.str "b"])])]) =
      .ok (.standard, ["b"]) := by decide +kernel
  have normal : Pool.normalizeMembers ["b"] = ["b"] := by decide +kernel
  obtain ⟨-, published⟩ := (takes drained).1 .standard ["b"] accepted
  refine ⟨installed, unheard, drained, ?_⟩
  simp only [after, before, published]
  exact normal

end Followed

end ReadThrough.Peer
