import ReadThrough.Config.Document
import ReadThrough.Text.Utf8

/-!
# The file of a configuration

What stands at the path of the file.  Only a regular file has a date, and only
a regular file with well-formed text has a text.
-/

namespace ReadThrough.Config

inductive File where
  | absent
  | directory
  /-- A regular file with the date of its last modification. -/
  | regular (content : Bytes) (date : Int)
  deriving DecidableEq, Repr, Inhabited

namespace File

def date? : File → Option Int
  | .regular _ date => some date
  | _ => none

def text? : File → Option String
  | .regular content _ => Utf8.decode? content
  | _ => none

end File

/-- The names on the path of a file, without those that lead nowhere else. -/
def pathParts (path : String) : List String :=
  let (head, tail) := splitAt '/' path.toList
  ((head :: tail).map String.ofList).filter fun name => !(name.isEmpty || name == ".")

/-- Whether the directory of a file exists in any case: only steps upwards lead to it. -/
def isTopLevel (path : String) : Bool :=
  (pathParts path).dropLast.all fun name => name == ".."

end ReadThrough.Config
