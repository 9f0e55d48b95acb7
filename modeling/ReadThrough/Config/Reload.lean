import ReadThrough.Config.Basic
import ReadThrough.Config.File
import ReadThrough.Ordered

/-!
# Reading the file of a configuration

A reader takes the date of the file before it reads the content, so that a file
that changes in between looks newer than what was read.  A reload compares the
dates first, and leaves a file alone that is not newer than the configuration.
Between the steps of a reader the file may change and other readers may work.
-/

namespace ReadThrough.Config

/-- Whether the configuration was read from a file that was not older than the given date. -/
def isCurrent (config : Config) (date : Int) : Bool :=
  match config.date with
  | some own => date ≤ own
  | none => false

def readContent (config : Config) (file : File) (date : Int) : Config × Except ReadError Bool :=
  match file.text? with
  | none => (config, .error (.unreadable config.name))
  | some text =>
    match config.loadText text (some date) with
    | .ok loaded => (loaded, .ok true)
    | .error error => (config, .error error)

def load (config : Config) (file : File) : Config × Except ReadError Bool :=
  match file.date? with
  | some date => config.readContent file date
  | none => (config, .ok true)

/-- Read the file, if it is there and newer.  The result tells whether it was found newer. -/
def reload (config : Config) (file : File) : Config × Except ReadError Bool :=
  match file.date? with
  | some date => if config.isCurrent date then (config, .ok false) else config.load file
  | none => (config, .ok false)

inductive Stage where
  /-- It compares the date of the file with the one of the configuration. -/
  | compare
  /-- It takes the date of the file. -/
  | date
  /-- It reads the content of the file, which had the given date. -/
  | content (date : Int)
  deriving DecidableEq, Repr

/-- A configuration and its file, with the readers at work by their numbers. -/
structure Reading where
  file : File
  config : Config
  readers : List (Nat × Stage)
  deriving DecidableEq, Inhabited

namespace Reading

inductive Event where
  | write (content : Bytes) (date : Int)
  | delete
  | makeDirectory
  /-- A reader begins to read the file. -/
  | load (reader : Nat)
  /-- A reader begins to read the file if it is newer. -/
  | reload (reader : Nat)
  | advance (reader : Nat)
  deriving DecidableEq

/-- Whether an event puts something at the path of the file. -/
def Event.makesFile : Event → Bool
  | .write _ _ | .makeDirectory => true
  | _ => false

def start (name : String) : Reading := ⟨.absent, .empty name, []⟩

def begin (reading : Reading) (reader : Nat) (stage : Stage) : Reading :=
  if (Ordered.get? reader reading.readers).isSome then reading
  else { reading with readers := Ordered.put reader stage reading.readers }

def conclude (reading : Reading) (reader : Nat) (config : Config)
    (result : Except ReadError Bool) : Reading × Option (Except ReadError Bool) :=
  ({ reading with
      config
      readers := reading.readers.filter fun entry => entry.1 ≠ reader },
    some result)

def advance (reading : Reading) (reader : Nat) : Reading × Option (Except ReadError Bool) :=
  let config := reading.config
  let goOn (stage : Stage) : Reading :=
    { reading with readers := Ordered.put reader stage reading.readers }
  match Ordered.get? reader reading.readers, reading.file.date? with
  | none, _ => (reading, none)
  | some .compare, none => reading.conclude reader config (.ok false)
  | some .compare, some date =>
    if config.isCurrent date then reading.conclude reader config (.ok false)
    else (goOn .date, none)
  | some .date, none => reading.conclude reader config (.ok true)
  | some .date, some date => (goOn (.content date), none)
  | some (.content date), _ =>
    let (config, result) := config.readContent reading.file date
    reading.conclude reader config result

def step (reading : Reading) : Event → Reading × Option (Except ReadError Bool)
  | .write content date => ({ reading with file := .regular content date }, none)
  | .delete => ({ reading with file := .absent }, none)
  | .makeDirectory => ({ reading with file := .directory }, none)
  | .load reader => (reading.begin reader .date, none)
  | .reload reader => (reading.begin reader .compare, none)
  | .advance reader => reading.advance reader

end Reading

end ReadThrough.Config
