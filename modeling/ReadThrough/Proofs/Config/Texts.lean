import Mathlib.Data.List.Induction
import ReadThrough.Config.Basic

/-!
# Texts in force

A well-formed text puts its document in force, and is one more change to hear
of; a malformed text changes nothing.  So after some texts the document of the
last one that is well-formed is in force.
-/

namespace ReadThrough.Config

-- To derive the equation of `loadText` Lean opens the parser, which `delta` leaves closed.

theorem loadText_of_parsed (config : Config) {text : String} {document : Yaml.Value}
    (parsed : parse? text = some document) (date : Option Int) :
    config.loadText text date =
      .ok { config with document, date, changes := config.changes + 1 } := by
  delta loadText
  rw [parsed]

theorem loadText_of_malformed (config : Config) {text : String}
    (malformed : parse? text = none) (date : Option Int) :
    config.loadText text date = .error (.malformed config.name) := by
  delta loadText
  rw [malformed]

def documentsOf (texts : List String) : List Yaml.Value := texts.filterMap parse?

/-- The document of the last text that is well-formed. -/
def newest? (texts : List String) : Option Yaml.Value := (documentsOf texts).getLast?

theorem documentsOf_concat (texts : List String) (last : String) :
    documentsOf (texts ++ [last]) = documentsOf texts ++ (parse? last).toList := by
  rw [documentsOf, List.filterMap_append, ← documentsOf]
  cases parsed : parse? last with
  | none => rw [List.filterMap_cons_none parsed]; rfl
  | some document => rw [List.filterMap_cons_some parsed]; rfl

theorem newest?_singleton (text : String) : newest? [text] = parse? text := by
  rw [newest?, ← List.nil_append [text], documentsOf_concat]
  cases parse? text <;> rfl

theorem loadTexts_concat (config : Config) (texts : List String) (last : String) :
    config.loadTexts (texts ++ [last]) =
      ((config.loadTexts texts).loadText last none).toOption.getD (config.loadTexts texts) :=
  List.foldl_append

/-- After some texts the newest document is in force, and each well-formed text is a change. -/
theorem loadTexts_eq (config : Config) (texts : List String) :
    config.loadTexts texts =
      match newest? texts with
      | none => config
      | some document =>
        { config with
          document
          date := none
          changes := config.changes + (documentsOf texts).length } := by
  induction texts using List.reverseRecOn with
  | nil => rfl
  | append_singleton texts last ih =>
      rw [loadTexts_concat, newest?, documentsOf_concat]
      cases parsed : parse? last with
      | none =>
          rw [loadText_of_malformed _ parsed, Option.toList_none, List.append_nil, ← newest?]
          exact ih
      | some document =>
          rw [loadText_of_parsed _ parsed, Option.toList_some, List.getLast?_concat,
            List.length_append, ih]
          cases newest : newest? texts with
          | none =>
              rw [List.getLast?_eq_none_iff.mp newest]
              rfl
          | some earlier => rfl

theorem loadTexts_of_malformed (config : Config) {texts : List String}
    (malformed : newest? texts = none) : config.loadTexts texts = config := by
  rw [loadTexts_eq, malformed]

theorem document_loadTexts (config : Config) {texts : List String} {document : Yaml.Value}
    (newest : newest? texts = some document) :
    (config.loadTexts texts).document = document := by
  rw [loadTexts_eq, newest]

/-- A well-formed text is heard of. -/
theorem changes_lt_loadTexts (config : Config) {texts : List String} {document : Yaml.Value}
    (newest : newest? texts = some document) :
    config.changes < (config.loadTexts texts).changes := by
  have nonempty : 0 < (documentsOf texts).length := by
    refine List.length_pos_iff.mpr fun nothing => ?_
    rw [newest?, nothing] at newest
    cases newest
  rw [loadTexts_eq, newest]
  exact Nat.lt_add_of_pos_right nonempty

/-- There is nothing to hear for a listener that knows of all changes. -/
theorem hear?_eq_none_iff {config : Config} {seen : Nat} :
    config.hear? seen = none ↔ config.changes ≤ seen := by
  simp [hear?]

end ReadThrough.Config
