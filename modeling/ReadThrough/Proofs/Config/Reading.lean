import Mathlib.Data.List.Induction
import ReadThrough.Config.Reload
import ReadThrough.Proofs.Config.Texts
import ReadThrough.Proofs.Ordered

/-!
# Keeping up with the file

A reader takes the date of the file before the content.  So the content that it
puts in force is at least as new as the date that it notes, and as long as each
content is newer than all before, a configuration whose date is not below that
of the file holds the present content.  A reload that finds the dates so leaves
the configuration alone; whatever else it finds, it reads the file.
-/

namespace ReadThrough.Config

theorem File.date?_eq_some_iff {file : File} {date : Int} :
    file.date? = some date ↔ ∃ content, file = .regular content date := by
  cases file with
  | absent | directory => simp [File.date?]
  | regular content own => simp [File.date?]

namespace Reading

def run (reading : Reading) (events : List Event) : Reading :=
  events.foldl (fun reading event => (reading.step event).1) reading

def Event.date? : Event → Option Int
  | .write _ date => some date
  | _ => none

def Event.changesFile : Event → Bool
  | .write _ _ | .delete | .makeDirectory => true
  | .load _ | .reload _ | .advance _ => false

def datesOf (events : List Event) : List Int := events.filterMap Event.date?

/-- Each content has a later date than all that were written before. -/
def Dated (events : List Event) : Prop := (datesOf events).Pairwise (· < ·)

instance (events : List Event) : Decidable (Dated events) :=
  inferInstanceAs (Decidable ((datesOf events).Pairwise (· < ·)))

def stage? (reading : Reading) (reader : Nat) : Option Stage :=
  Ordered.get? reader reading.readers

/-- The document in force is the first one in a content, or empty if that is no mapping. -/
def Holds (config : Config) (content : Bytes) : Prop :=
  ∃ text documents, Utf8.decode? content = some text ∧ Yaml.ofText? text = some documents ∧
    config.document = documentOf documents

/-! ## Steps -/

def goOn (reading : Reading) (reader : Nat) (stage : Stage) : Reading :=
  { reading with readers := Ordered.put reader stage reading.readers }

def leave (reading : Reading) (reader : Nat) (config : Config) : Reading :=
  (reading.conclude reader config (.ok true)).1

theorem stage?_goOn (reading : Reading) (reader other : Nat) (stage : Stage) :
    (reading.goOn reader stage).stage? other =
      if other = reader then some stage else reading.stage? other :=
  Ordered.get?_put reader other stage reading.readers

theorem stage?_leave (reading : Reading) (reader other : Nat) (config : Config) :
    (reading.leave reader config).stage? other =
      if other = reader then none else reading.stage? other :=
  Ordered.get?_filter_ne reader other reading.readers

/-- What an event may bring about, with the result of a reader that is done. -/
inductive Transition (reading : Reading) :
    Event → Reading → Option (Except ReadError Bool) → Prop where
  | write (content : Bytes) (date : Int) : Transition reading (.write content date)
      { reading with file := .regular content date } none
  | delete : Transition reading .delete { reading with file := .absent } none
  | makeDirectory : Transition reading .makeDirectory { reading with file := .directory } none
  /-- The event does not fit the work of its reader. -/
  | ignore {event : Event} (keeps : event.changesFile = false) :
      Transition reading event reading none
  | load {reader : Nat} (idle : reading.stage? reader = none) :
      Transition reading (.load reader) (reading.goOn reader .date) none
  | reload {reader : Nat} (idle : reading.stage? reader = none) :
      Transition reading (.reload reader) (reading.goOn reader .compare) none
  /-- There is no file, or it is not newer. -/
  | rest {reader : Nat} (compares : reading.stage? reader = some .compare)
      (current : ∀ date, reading.file.date? = some date → reading.config.isCurrent date = true) :
      Transition reading (.advance reader) (reading.leave reader reading.config)
        (some (.ok false))
  | find {reader : Nat} {date : Int} (compares : reading.stage? reader = some .compare)
      (present : reading.file.date? = some date)
      (newer : reading.config.isCurrent date = false) :
      Transition reading (.advance reader) (reading.goOn reader .date) none
  /-- There is no file. -/
  | skip {reader : Nat} (dates : reading.stage? reader = some .date)
      (absent : reading.file.date? = none) :
      Transition reading (.advance reader) (reading.leave reader reading.config)
        (some (.ok true))
  | date {reader : Nat} {date : Int} (dates : reading.stage? reader = some .date)
      (present : reading.file.date? = some date) :
      Transition reading (.advance reader) (reading.goOn reader (.content date)) none
  | read {reader : Nat} {date own : Int} {content : Bytes} {config : Config}
      (reads : reading.stage? reader = some (.content date))
      (present : reading.file = .regular content own) (holds : Holds config content)
      (dated : config.date = some date) :
      Transition reading (.advance reader) (reading.leave reader config) (some (.ok true))
  /-- There is no text, or it is malformed. -/
  | fail {reader : Nat} {date : Int} {error : ReadError}
      (reads : reading.stage? reader = some (.content date))
      (unreadable : reading.file.text?.bind parse? = none) :
      Transition reading (.advance reader) (reading.leave reader reading.config)
        (some (.error error))

/-- A text that can be read and is well-formed is put in force with the date. -/
theorem readContent_cases (config : Config) (file : File) (date : Int) :
    (∃ content own loaded, file = .regular content own ∧ Holds loaded content ∧
        loaded.date = some date ∧ config.readContent file date = (loaded, .ok true)) ∨
      ∃ error, file.text?.bind parse? = none ∧
        config.readContent file date = (config, .error error) := by
  rw [readContent]
  cases decoded : file.text? with
  | none => exact Or.inr ⟨_, rfl, rfl⟩
  | some text =>
      cases parsed : parse? text with
      | none =>
          refine Or.inr ⟨.malformed config.name, parsed, ?_⟩
          simp [loadText_of_malformed config parsed]
      | some document =>
          obtain ⟨documents, wellFormed, rfl⟩ := Option.map_eq_some_iff.mp parsed
          cases file with
          | absent | directory => cases decoded
          | regular content own =>
              let loaded : Config := { config with
                document := documentOf documents
                date := some date
                changes := config.changes + 1 }
              refine Or.inl ⟨content, own, loaded, rfl,
                ⟨text, documents, decoded, wellFormed, rfl⟩, rfl, ?_⟩
              simp [loadText_of_parsed config parsed, loaded]

section Compare

variable {reading : Reading} {reader : Nat} (compares : reading.stage? reader = some .compare)

include compares

/-- A reload leaves the configuration alone if there is no file, or none that is newer. -/
theorem step_rest
    (current : ∀ date, reading.file.date? = some date → reading.config.isCurrent date = true) :
    reading.step (.advance reader) =
      (reading.leave reader reading.config, some (.ok false)) := by
  rw [stage?] at compares
  cases present : reading.file.date? with
  | none => simp [step, advance, compares, present, leave, conclude]
  | some date => simp [step, advance, compares, present, current date present, leave, conclude]

/-- A reload goes on to read a file that is newer. -/
theorem step_find {date : Int} (present : reading.file.date? = some date)
    (newer : reading.config.isCurrent date = false) :
    reading.step (.advance reader) = (reading.goOn reader .date, none) := by
  rw [stage?] at compares
  simp [step, advance, compares, present, newer, goOn]

end Compare

/-! ### Readers without interruption -/

theorem transition (reading : Reading) (event : Event) :
    Transition reading event (reading.step event).1 (reading.step event).2 := by
  cases event with
  | write content date => exact .write content date
  | delete => exact .delete
  | makeDirectory => exact .makeDirectory
  | load reader =>
      rw [step, begin]
      split
      · exact .ignore rfl
      · exact .load (Option.not_isSome_iff_eq_none.mp ‹_›)
  | reload reader =>
      rw [step, begin]
      split
      · exact .ignore rfl
      · exact .reload (Option.not_isSome_iff_eq_none.mp ‹_›)
  | advance reader =>
      rcases stage : reading.stage? reader with _ | _ | _ | date
      case some.compare =>
        by_cases current : ∀ date, reading.file.date? = some date →
            reading.config.isCurrent date = true
        · rw [step_rest stage current]
          exact .rest stage current
        · obtain ⟨date, present, newer⟩ : ∃ date, reading.file.date? = some date ∧
              reading.config.isCurrent date = false := by simpa using current
          rw [step_find stage present newer]
          exact .find stage present newer
      all_goals
        have work := stage
        rw [stage?] at work
        rw [step, advance, work]
      case none => exact .ignore rfl
      case some.date =>
        cases present : reading.file.date? with
        | none => exact .skip stage present
        | some date => exact .date stage present
      case some.content =>
        rcases readContent_cases reading.config reading.file date with
          ⟨content, own, loaded, present, holds, dated, done⟩ | ⟨error, unreadable, done⟩
        · dsimp only
          rw [done]
          exact .read stage present holds dated
        · dsimp only
          rw [done]
          exact .fail stage unreadable

/-! ## Runs -/

theorem run_concat (reading : Reading) (events : List Event) (last : Event) :
    reading.run (events ++ [last]) = ((reading.run events).step last).1 := by
  rw [run, List.foldl_append]
  rfl

theorem run_append (reading : Reading) (first second : List Event) :
    reading.run (first ++ second) = (reading.run first).run second :=
  List.foldl_append

theorem datesOf_concat (events : List Event) (last : Event) :
    datesOf (events ++ [last]) = datesOf events ++ last.date?.toList := by
  cases last <;> simp [datesOf, Event.date?]

/-- A later content is newer than all that were written before. -/
theorem Dated.lt {events : List Event} {content : Bytes} {date earlier : Int}
    (dated : Dated (events ++ [.write content date])) (before : earlier ∈ datesOf events) :
    earlier < date := by
  rw [Dated, datesOf_concat] at dated
  exact (List.pairwise_append.mp dated).2.2 earlier before date (List.mem_singleton.mpr rfl)

theorem Dated.front {first second : List Event} (dated : Dated (first ++ second)) :
    Dated first := by
  rw [Dated, datesOf, List.filterMap_append] at dated
  exact (List.pairwise_append.mp dated).1

/-- How the file, the configuration and the readers go together after some events. -/
structure Tracks (events : List Event) (reading : Reading) : Prop where
  written : ∀ content date, reading.file = .regular content date → date ∈ datesOf events
  latest : ∀ content date, reading.file = .regular content date →
    ∀ earlier ∈ datesOf events, earlier ≤ date
  noted : ∀ date, reading.config.date = some date → date ∈ datesOf events
  taken : ∀ reader date, reading.stage? reader = some (.content date) → date ∈ datesOf events
  /-- A configuration that is not older than the file holds its content. -/
  current : ∀ content date, reading.file = .regular content date →
    reading.config.isCurrent date = true → Holds reading.config content

theorem isCurrent_iff {config : Config} {date : Int} :
    config.isCurrent date = true ↔ ∃ own, config.date = some own ∧ date ≤ own := by
  rw [isCurrent]
  cases config.date with
  | none => simp
  | some own => simp

namespace Tracks

variable {events : List Event} {reading : Reading} (tracks : Tracks events reading)

include tracks

theorem write {content : Bytes} {date : Int}
    (dated : Dated (events ++ [.write content date])) :
    Tracks (events ++ [.write content date]) { reading with file := .regular content date } := by
  have dates : datesOf (events ++ [.write content date]) = datesOf events ++ [date] :=
    datesOf_concat events _
  have kept {earlier : Int} (before : earlier ∈ datesOf events) :
      earlier ∈ datesOf (events ++ [.write content date]) := by
    rw [dates]
    exact List.mem_append_left _ before
  refine ⟨?_, ?_, fun own noted => kept (tracks.noted own noted),
    fun reader own taken => kept (tracks.taken reader own taken), ?_⟩
  · rintro _ _ ⟨⟩
    rw [dates]
    exact List.mem_append_right _ (List.mem_singleton.mpr rfl)
  · rintro _ _ ⟨⟩ earlier before
    rw [dates] at before
    rcases List.mem_append.mp before with old | new
    · exact Int.le_of_lt (dated.lt old)
    · exact Int.le_of_eq (List.mem_singleton.mp new)
  · -- The configuration was read before, so it is older than what is written now.
    rintro _ _ ⟨⟩ current
    obtain ⟨own, noted, le⟩ := isCurrent_iff.mp current
    exact absurd (dated.lt (tracks.noted own noted)) (Int.not_lt.mpr le)

theorem vanish {file : File} (irregular : file.date? = none) :
    Tracks events { reading with file } := by
  have regular {content : Bytes} {date : Int} (present : file = .regular content date) : False := by
    rw [present] at irregular
    cases irregular
  exact ⟨fun _ _ present => (regular present).elim, fun _ _ present => (regular present).elim,
    tracks.noted, tracks.taken, fun _ _ present => (regular present).elim⟩

theorem goOn (reader : Nat) {stage : Stage}
    (taken : ∀ date, stage = .content date → date ∈ datesOf events) :
    Tracks events (reading.goOn reader stage) := by
  refine ⟨tracks.written, tracks.latest, tracks.noted, ?_, tracks.current⟩
  intro other date work
  rw [stage?_goOn] at work
  split at work
  · exact taken date (Option.some.inj work)
  · exact tracks.taken other date work

theorem leave (reader : Nat) {config : Config}
    (noted : ∀ date, config.date = some date → date ∈ datesOf events)
    (current : ∀ content date, reading.file = .regular content date →
      config.isCurrent date = true → Holds config content) :
    Tracks events (reading.leave reader config) := by
  refine ⟨tracks.written, tracks.latest, noted, ?_, current⟩
  intro other date work
  rw [stage?_leave] at work
  split at work
  · cases work
  · exact tracks.taken other date work

theorem next {event : Event} {next : Reading} {result : Option (Except ReadError Bool)}
    (dated : Dated (events ++ [event])) (transition : Transition reading event next result) :
    Tracks (events ++ [event]) next := by
  obtain ⟨content, date, rfl⟩ | writes :
      (∃ content date, event = .write content date) ∨ event.date? = none := by
    cases event <;> simp [Event.date?]
  · cases transition with
    | write => exact tracks.write dated
    | ignore keeps => cases keeps
  · -- Nothing is written, so the dates stay the same.
    have dates : datesOf (events ++ [event]) = datesOf events := by simp [datesOf_concat, writes]
    suffices same : Tracks events next by
      obtain ⟨written, latest, noted, taken, current⟩ := same
      rw [← dates] at written latest noted taken
      exact ⟨written, latest, noted, taken, current⟩
    cases transition with
    | write => cases writes
    | delete | makeDirectory => exact tracks.vanish rfl
    | ignore => exact tracks
    | load | reload | find => exact tracks.goOn _ nofun
    | date work present =>
        refine tracks.goOn _ fun date taken => ?_
        obtain rfl := Stage.content.inj taken
        obtain ⟨content, file⟩ := File.date?_eq_some_iff.mp present
        exact tracks.written content _ file
    | rest | skip | fail => exact tracks.leave _ tracks.noted tracks.current
    | read work present holds read =>
        refine tracks.leave _ ?_ ?_
        · intro date noted
          obtain rfl := Option.some.inj (read.symm.trans noted)
          exact tracks.taken _ _ work
        · intro content date again _
          obtain ⟨rfl, -⟩ := File.regular.inj (present.symm.trans again)
          exact holds

end Tracks

/-- A reader that took a date took the one that the file has. -/
def Punctual (reading : Reading) (reader : Nat) : Prop :=
  ∀ date, reading.stage? reader = some (.content date) → reading.file.date? = some date

/-- The configuration holds the content of the file, with its date. -/
structure Settled (content : Bytes) (date : Int) (reading : Reading) : Prop where
  present : reading.file = .regular content date
  dated : reading.config.date = some date
  holds : Holds reading.config content

namespace Transition

variable {reading next : Reading} {event : Event} {result : Option (Except ReadError Bool)}
  (transition : Transition reading event next result)

include transition

theorem file_eq (keeps : event.changesFile = false) : next.file = reading.file := by
  cases transition with
  | write | delete | makeDirectory => cases keeps
  | _ => rfl

/-- A reader at work only goes on when it is its turn. -/
theorem stage {reader : Nat} {stage : Stage} (work : reading.stage? reader = some stage)
    (waits : event ≠ .advance reader) : next.stage? reader = some stage := by
  have apart {other : Nat} (advances : event = .advance other) : reader ≠ other := by
    rintro rfl
    exact waits advances
  cases transition with
  | write | delete | makeDirectory | ignore => exact work
  | load idle | reload idle =>
      rw [stage?_goOn, if_neg]
      · exact work
      · rintro rfl
        cases idle.symm.trans work
  | find | date => rw [stage?_goOn, if_neg (apart rfl), work]
  | rest | skip | read | fail => rw [stage?_leave, if_neg (apart rfl), work]

theorem punctual (keeps : event.changesFile = false) {reader : Nat}
    (punctual : reading.Punctual reader) : next.Punctual reader := by
  intro date work
  rw [transition.file_eq keeps]
  cases transition with
  | write | delete | makeDirectory => cases keeps
  | ignore => exact punctual date work
  | load | reload | find =>
      rw [stage?_goOn] at work
      split at work
      · cases work
      · exact punctual date work
  | date _ present =>
      rw [stage?_goOn] at work
      split at work
      · obtain rfl := Stage.content.inj (Option.some.inj work)
        exact present
      · exact punctual date work
  | rest | skip | read | fail =>
      rw [stage?_leave] at work
      split at work
      · cases work
      · exact punctual date work

/-- While the file stays the same, the configuration goes on to hold its content. -/
theorem settled (keeps : event.changesFile = false) {content : Bytes} {date : Int}
    (settled : Settled content date reading)
    (punctual : ∀ reader, event = .advance reader → reading.Punctual reader) :
    Settled content date next := by
  have present := (transition.file_eq keeps).trans settled.present
  cases transition with
  | write | delete | makeDirectory => cases keeps
  | read work again holds dated =>
      have own := punctual _ rfl _ work
      rw [settled.present] at again own
      obtain ⟨rfl, rfl⟩ := File.regular.inj again
      exact ⟨present, dated.trans own.symm, holds⟩
  | _ => exact ⟨present, settled.dated, settled.holds⟩

/-- Whoever reads the file while it stays the same puts its content in force. -/
theorem holds (keeps : event.changesFile = false) {content : Bytes} {date : Int}
    (present : reading.file = .regular content date) (holds : Holds reading.config content) :
    Holds next.config content := by
  cases transition with
  | write | delete | makeDirectory => cases keeps
  | read work again loaded dated =>
      obtain ⟨rfl, -⟩ := File.regular.inj (present.symm.trans again)
      exact loaded
  | _ => exact holds

end Transition

section Quiet

variable {reading : Reading} {events : List Event}

theorem settled_run (keeps : ∀ event ∈ events, event.changesFile = false) {content : Bytes}
    {date : Int} (settled : Settled content date reading)
    (punctual : ∀ reader, .advance reader ∈ events → reading.Punctual reader) :
    Settled content date (reading.run events) := by
  induction events generalizing reading with
  | nil => exact settled
  | cons event events ih =>
      obtain ⟨keepsFirst, keepsRest⟩ := List.forall_mem_cons.mp keeps
      have stepped := transition reading event
      refine ih keepsRest (stepped.settled keepsFirst settled ?_) ?_
      · rintro reader rfl
        exact punctual reader List.mem_cons_self
      · intro reader later
        exact stepped.punctual keepsFirst (punctual reader (List.mem_cons_of_mem _ later))

end Quiet

theorem Holds.parsed {config : Config} {content : Bytes} {date : Int}
    (holds : Holds config content) :
    (File.regular content date).text?.bind parse? = some config.document := by
  obtain ⟨text, documents, decoded, wellFormed, same⟩ := holds
  rw [File.text?, decoded, Option.bind_some, parse?, wellFormed, Option.map_some, same]

/-! ## Reloads -/

/-- A reload of a settled configuration ends at once and changes nothing. -/
theorem Settled.rests {content : Bytes} {date : Int} {reading : Reading}
    (settled : Settled content date reading) {reader : Nat}
    (compares : reading.stage? reader = some .compare) :
    reading.step (.advance reader) =
      (reading.leave reader reading.config, some (.ok false)) := by
  refine step_rest compares fun own present => ?_
  rw [settled.present] at present
  obtain rfl := Option.some.inj present
  exact isCurrent_iff.mpr ⟨_, settled.dated, Int.le_refl _⟩

end Reading

end ReadThrough.Config
