/-!
# Gaps between words

The white space between two words of a scalar.  A gap on one line stands for
its blanks.  A gap across lines is folded: one line break becomes a space and
further ones are kept as they are.
-/

namespace ReadThrough.Yaml

/-- The white space passed since the last word. -/
inductive Gap where
  | onLine (blanks : List Char)
  /-- Line breaks after the first one; `folded` tells whether the first one counts. -/
  | acrossLines (folded : Bool) (breaks : Nat)
  deriving DecidableEq, Repr, Inhabited

namespace Gap

def empty : Gap := .onLine []

/-- The gap behind a line break that a backslash hides. -/
def hidden : Gap := .acrossLines false 0

def isEmpty : Gap → Bool
  | .onLine blanks => blanks.isEmpty
  | .acrossLines _ _ => false

def spansLines : Gap → Bool
  | .onLine _ => false
  | .acrossLines _ _ => true

/-- The gap after one more blank; blanks at the start of a line do not count. -/
def addBlank (gap : Gap) (blank : Char) : Gap :=
  match gap with
  | .onLine blanks => .onLine (blanks ++ [blank])
  | .acrossLines folded breaks => .acrossLines folded breaks

/-- The gap after one more line break; blanks at the end of a line do not count. -/
def addBreak : Gap → Gap
  | .onLine _ => .acrossLines true 0
  | .acrossLines folded breaks => .acrossLines folded (breaks + 1)

def chars : Gap → List Char
  | .onLine blanks => blanks
  | .acrossLines true 0 => [' ']
  | .acrossLines _ breaks => List.replicate breaks '\n'

end Gap

end ReadThrough.Yaml
