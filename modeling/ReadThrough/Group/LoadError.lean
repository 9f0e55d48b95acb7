import ReadThrough.Log
import ReadThrough.Text.Utf8

/-!
# Errors of a lookup

Why a group gives no value for a key.
-/

namespace ReadThrough

inductive SourceFailure where
  /-- The call that ran the computation was dropped. -/
  | cancelled
  | reported (causes : Causes)
  deriving DecidableEq, Repr

def SourceFailure.causes : SourceFailure → Causes
  | .cancelled => ["The in-flight computation was cancelled"]
  | .reported causes => causes

inductive LoadError where
  /-- The key is empty. -/
  | invalidKey
  | configuration (problem : String)
  | unknownGroup (name : String)
  | source (failure : SourceFailure)
  /-- Another node gave no value. -/
  | remote (causes : Causes)
  deriving DecidableEq, Repr

namespace LoadError

/-- The error of the calls whose leader was dropped. -/
def cancelled : LoadError := .source .cancelled

def message : LoadError → String
  | .invalidKey => "key is required"
  | .configuration problem => "configuration error: " ++ problem
  | .unknownGroup name => "no such group: " ++ name
  | .source failure => failure.causes.text
  | .remote causes => "remote fetch failed: " ++ causes.text

def causes : LoadError → Causes
  | .source failure => failure.causes
  | .remote causes => causes
  | _ => []

end LoadError

abbrev Outcome := Except LoadError Bytes

end ReadThrough
