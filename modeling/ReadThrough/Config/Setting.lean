import ReadThrough.Log
import ReadThrough.Size
import ReadThrough.Span
import ReadThrough.Yaml.Value

/-!
# Settings of sizes and durations

A size is given as a number of bytes or as a size expression, a duration as a
number of milliseconds or as a duration expression.  An absent setting has its
default.
-/

namespace ReadThrough.Config.Setting

open Yaml (Value)

inductive Kind where
  | size
  | duration
  deriving DecidableEq, Repr

def Kind.name : Kind → String
  | .size => "size"
  | .duration => "duration"

inductive Error where
  | negative (kind : Kind) (value : Int)
  | mistyped (kind : Kind) (value : Value)
  | unreadable (kind : Kind) (cause : Quantity.ReadError)
  deriving DecidableEq

def Error.causes : Error → Causes
  | .negative kind value =>
    ["A " ++ kind.name ++ " must not be negative (found " ++ toString value ++ ")."]
  | .mistyped kind value =>
    ["Expected a " ++ kind.name ++ " expression but found " ++ value.describe ++ "."]
  | .unreadable .size cause => Size.readErrorCauses cause
  | .unreadable .duration cause => Span.readErrorCauses cause

/-- Whether the program stops instead of reporting the error. -/
def Error.isFault : Error → Bool
  | .unreadable _ cause => cause.isFault
  | _ => false

def read {α : Type} (kind : Kind) (ofNumber : Nat → α)
    (ofText : String → Except Quantity.ReadError α) (default : α) : Value → Except Error α
  | .bad | .null => .ok default
  | .int value =>
    if value < 0 then .error (.negative kind value) else .ok (ofNumber value.toNat)
  | .str text => (ofText text).mapError (.unreadable kind)
  | other => .error (.mistyped kind other)

def size (value : Value) (default : Nat) : Except Error Nat :=
  read .size id Size.ofText default value

def duration (value : Value) (default : Span) : Except Error Span :=
  read .duration Span.ofMilliseconds Span.ofText default value

end ReadThrough.Config.Setting
