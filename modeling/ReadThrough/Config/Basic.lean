import ReadThrough.Config.Document

/-!
# The configuration of a node

The document in force, the date of the file from which it was read, and the
number of its changes.  A listener remembers of how many changes it knows.  It
hears of a missed change, and of several missed changes twice: once that it
missed some, and once of the last one.
-/

namespace ReadThrough

structure Config where
  name : String
  document : Yaml.Value
  /-- The date of the file, if the document was read from there. -/
  date : Option Int
  /-- How often a document was put in force. -/
  changes : Nat
  deriving DecidableEq, Inhabited

namespace Config

inductive ReadError where
  | unreadable (name : String)
  | malformed (name : String)
  deriving DecidableEq, Repr

def ReadError.message : ReadError → String
  | .unreadable name => "Cannot load config file " ++ name
  | .malformed name => "Cannot parse config file " ++ name

def empty (name : String) : Config where
  name
  document := emptyDocument
  date := none
  changes := 0

def loadText (config : Config) (text : String) (date : Option Int) : Except ReadError Config :=
  match parse? text with
  | some document => .ok { config with document, date, changes := config.changes + 1 }
  | none => .error (.malformed config.name)

/-- Put the documents in texts in force one after the other; malformed ones change nothing. -/
def loadTexts (config : Config) (texts : List String) : Config :=
  texts.foldl (fun config text => (config.loadText text none).toOption.getD config) config

/--
Of how many changes a listener knows after it heard something, where it knew of
`seen` changes before.  There is nothing to hear if it knows of all changes.
-/
def hear? (config : Config) (seen : Nat) : Option Nat :=
  if seen < config.changes then some (max (seen + 1) (config.changes - 1)) else none

end Config

end ReadThrough
