import ReadThrough.Config.Document
import ReadThrough.Config.Setting
import ReadThrough.Group.Hosted

/-!
# Groups listed in the configuration

The configuration may list groups with their budgets and with records that take
the place of a slow data source.  The groups are set up in the order of the
document, up to the first one that is invalid.
-/

namespace ReadThrough.Node

open ReadThrough.Group (Hosted)
open Yaml (Value)

inductive ListingError where
  | name (value : Value)
  | budget (cause : Config.Setting.Error)
  | group (cause : LoadError)
  deriving DecidableEq

def ListingError.causes : ListingError → Causes
  | .name value => ["Invalid group name: " ++ value.describe]
  | .budget cause => cause.causes
  | .group cause => cause.message :: cause.causes

namespace Listing

def delay : Nat := 100

/-- The text of a record; only texts and numbers have one. -/
def recordText? : Value → Option String
  | .str text => some text
  | .int value => some (toString value)
  | .real source => some source
  | _ => none

def record? (entry : Value × Value) : Option (String × Except Causes Bytes) := do
  let text ← recordText? entry.2
  let key ← entry.1.asText?
  return (key, .ok (Utf8.encode text))

def entriesOf : Value → List (Value × Value)
  | .hash entries => entries
  | _ => []

def sourceOf (records : Value) : Source where
  records := (entriesOf records).filterMap record?
  echoes := false
  delay := delay
  delays := []

/-- The budget of a group without a configured one, which sets no limit. -/
def unlimited : Nat := 0

def read (entry : Value × Value) : Except ListingError Hosted :=
  match entry.1.asText? with
  | none => .error (.name entry.1)
  | some name =>
    match Config.Setting.size (entry.2.field "max_memory") unlimited with
    | .error cause => .error (.budget cause)
    | .ok budget =>
      match Hosted.build name budget (some (sourceOf (entry.2.field "records"))) with
      | .error cause => .error (.group cause)
      | .ok hosted => .ok hosted.attached

/-- Register the listed groups in order, up to the first invalid one. -/
def installEntries (registry : Registry) :
    List (Value × Value) → Registry × Except ListingError Unit
  | [] => (registry, .ok ())
  | entry :: rest =>
    match read entry with
    | .ok hosted => installEntries (registry.register hosted) rest
    | .error error => (registry, .error error)

def install (registry : Registry) (document : Value) : Registry × Except ListingError Unit :=
  installEntries registry (entriesOf (Config.query document "groups"))

end Listing

end ReadThrough.Node
