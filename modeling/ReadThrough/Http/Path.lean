import ReadThrough.Text.Percent

/-!
# Paths of keys

A path names a group and a key, both percent-encoded and separated by a slash.
An encoded name holds no slash, so the first one separates the parts.
-/

namespace ReadThrough.Http

structure Target where
  group : String
  key : String
  deriving DecidableEq, Repr, Inhabited

namespace Target

def path (target : Target) : String :=
  Percent.encode target.group ++ "/" ++ Percent.encode target.key

def splitAtSlash? : List Char → Option (List Char × List Char)
  | [] => none
  | char :: rest =>
    if char = '/' then some ([], rest)
    else (splitAtSlash? rest).map fun (head, tail) => (char :: head, tail)

/-- The group and the key that a path names, unless the group has no name. -/
def ofPath? (path : String) : Option Target := do
  let (group, key) ← splitAtSlash? path.toList
  let group ← Percent.decode? (String.ofList group)
  let key ← Percent.decode? (String.ofList key)
  if group.isEmpty then none else some ⟨group, key⟩

end Target

/-- What follows a leading part of a path, unless the path begins differently. -/
def stripStart? (start path : String) : Option String :=
  if start.toList.isPrefixOf path.toList then
    some (String.ofList (path.toList.drop start.toList.length))
  else none

end ReadThrough.Http
