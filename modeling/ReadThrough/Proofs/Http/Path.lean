import ReadThrough.Http.Path
import ReadThrough.Proofs.Text.Percent

/-!
# Reading the path of a key

The path of a group and a key names this group and this key, also if there are
slashes in their names: the first slash of the path separates the two.
-/

namespace ReadThrough.Http

namespace Target

theorem splitAtSlash?_append {head : List Char} (plain : '/' ∉ head) (tail : List Char) :
    splitAtSlash? (head ++ '/' :: tail) = some (head, tail) := by
  induction head with
  | nil => rfl
  | cons char rest ih =>
      obtain ⟨different, plainRest⟩ := List.ne_and_not_mem_of_not_mem_cons plain
      rw [List.cons_append, splitAtSlash?, if_neg (Ne.symm different), ih plainRest]
      rfl

theorem toList_path (target : Target) :
    target.path.toList =
      (Percent.encode target.group).toList ++ '/' :: (Percent.encode target.key).toList := by
  simp [path]

/-- The path of a key names this key, unless the group has no name. -/
theorem ofPath?_path {target : Target} (named : target.group ≠ "") :
    ofPath? target.path = some target := by
  have split := splitAtSlash?_append (Percent.slash_not_mem_encode target.group)
    (Percent.encode target.key).toList
  simp [ofPath?, toList_path, split, named]

/-- Different keys have different paths. -/
theorem path_injective : Function.Injective path := by
  intro first second same
  have parts := congrArg (splitAtSlash? ∘ String.toList) same
  simp only [Function.comp_apply, toList_path,
    splitAtSlash?_append (Percent.slash_not_mem_encode _), Option.some.injEq, Prod.mk.injEq,
    String.toList_inj] at parts
  have group := congrArg Percent.decode? parts.1
  have key := congrArg Percent.decode? parts.2
  rw [Percent.decode?_encode, Percent.decode?_encode] at group key
  cases first
  cases second
  simp_all

end Target

/-- What follows the start is what was put there. -/
@[simp]
theorem stripStart?_append (start rest : String) :
    stripStart? start (start ++ rest) = some rest := by
  simp [stripStart?]

theorem isSome_stripStart? {start path : String} :
    (stripStart? start path).isSome = true ↔ start.toList <+: path.toList := by
  rw [stripStart?, ← List.isPrefixOf_iff_prefix]
  split
  next starts => simp [starts]
  next other => simp [other]

theorem stripStart?_eq_none_iff {start path : String} :
    stripStart? start path = none ↔ ¬ start.toList <+: path.toList := by
  rw [← isSome_stripStart?, Option.not_isSome_iff_eq_none]

end ReadThrough.Http
