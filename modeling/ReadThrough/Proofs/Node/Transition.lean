import Mathlib.Data.List.Induction
import ReadThrough.Node.Basic
import ReadThrough.Proofs.Config.Texts

/-!
# What a server sees of its node

Either the server goes on and nothing else changes, or the server stays as it is
and the configuration is kept or changed once more.
-/

namespace ReadThrough

namespace Config

/-- A configuration is kept, or another document is put in force. -/
def Revised (config next : Config) : Prop :=
  next = config ∨ next.changes = config.changes + 1

theorem changes_loadText {config loaded : Config} {text : String} {date : Option Int}
    (read : config.loadText text date = .ok loaded) : loaded.changes = config.changes + 1 := by
  cases parsed : parse? text with
  | none =>
      rw [loadText_of_malformed config parsed] at read
      cases read
  | some document =>
      rw [loadText_of_parsed config parsed] at read
      obtain rfl := Except.ok.inj read
      rfl

theorem revised_readContent (config : Config) (file : File) (date : Int) :
    Revised config (config.readContent file date).1 := by
  rw [readContent]
  split
  · exact Or.inl rfl
  · split
    · rename_i read
      exact Or.inr (changes_loadText read)
    · exact Or.inl rfl

namespace Reading

theorem revised_advance (reading : Reading) (reader : Nat) :
    Revised reading.config (reading.advance reader).1.config := by
  rw [advance]
  split
  · exact Or.inl rfl
  · exact Or.inl rfl
  · split
    · exact Or.inl rfl
    · exact Or.inl rfl
  · exact Or.inl rfl
  · exact Or.inl rfl
  · exact revised_readContent _ _ _

theorem config_begin (reading : Reading) (reader : Nat) (stage : Stage) :
    (reading.begin reader stage).config = reading.config := by
  rw [begin]
  split
  · rfl
  · rfl

theorem revised_step (reading : Reading) (event : Event) :
    Revised reading.config (reading.step event).1.config := by
  cases event with
  | write content date => exact Or.inl rfl
  | delete => exact Or.inl rfl
  | makeDirectory => exact Or.inl rfl
  | load reader => exact Or.inl (config_begin reading reader .date)
  | reload reader => exact Or.inl (config_begin reading reader .compare)
  | advance reader => exact revised_advance reading reader

end Reading

end Config

namespace Node

theorem run_concat (node : Node) (events : List Event) (last : Event) :
    node.run (events ++ [last]) = (node.run events).step last := by
  rw [run, List.foldl_append]
  rfl

theorem revised_loadText (node : Node) (text : String) :
    Config.Revised node.config (node.loadText text).1.config := by
  delta loadText
  split
  · rename_i read
    exact Or.inr (Config.changes_loadText read)
  · exact Or.inl rfl

theorem platform_loadText (node : Node) (text : String) :
    (node.loadText text).1.platform = node.platform := by
  delta loadText
  split
  · rfl
  · rfl

theorem server_loadText (node : Node) (text : String) :
    (node.loadText text).1.server = node.server := by
  delta loadText
  split
  · rfl
  · rfl

/-- What a server sees of two nodes on the same platform differs by a change at most. -/
theorem config?_revised {node next : Node} (platform : next.platform = node.platform)
    (revised : Config.Revised node.config next.config) :
    next.config? = node.config? ∨
      next.surroundings.changes = node.surroundings.changes + 1 := by
  have same : next.has .config = node.has .config := by
    rw [has, has, platform]
  simp only [Server.Surroundings.changes, surroundings, config?, same]
  cases node.has .config with
  | false => exact Or.inl rfl
  | true => exact revised.imp (congrArg some) id

/-- What an event does to the server of a node and to what it sees, unless the node stops. -/
theorem step_cases {node : Node} {event : Event} (running : (node.step event).running = true) :
    node.running = true ∧
      ((∃ own, event = .server own ∧ node.step event = node.stepServer own) ∨
        ((∀ own, event ≠ .server own) ∧ (node.step event).server = node.server ∧
          ((node.step event).config? = node.config? ∨
            (node.step event).surroundings.changes = node.surroundings.changes + 1))) := by
  cases event with
  | load text =>
      have platform : (node.step (.load text)).platform = node.platform :=
        platform_loadText node text
      refine ⟨?_, Or.inr ⟨nofun, server_loadText node text,
        config?_revised platform (revised_loadText node text)⟩⟩
      rwa [Node.running, platform] at running
  | file event =>
      exact ⟨running, Or.inr ⟨nofun, rfl,
        config?_revised rfl (Config.Reading.revised_step node.reading event)⟩⟩
  | hear => exact ⟨running, Or.inr ⟨nofun, rfl, Or.inl rfl⟩⟩
  | server own => exact ⟨running, Or.inl ⟨own, rfl, rfl⟩⟩
  | terminate => cases running

theorem running_of_run {node : Node} {before after : List Event}
    (running : (node.run (before ++ after)).running = true) : (node.run before).running = true := by
  induction after using List.reverseRecOn with
  | nil => rwa [List.append_nil] at running
  | append_singleton after last ih =>
      rw [← List.append_assoc, run_concat] at running
      exact ih (step_cases running).1

end Node

end ReadThrough
