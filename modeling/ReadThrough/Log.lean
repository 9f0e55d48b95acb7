/-!
# Reports

What a node reports about its work, with the weight of the report, and what went
wrong, from the outermost description to the innermost reason.
-/

namespace ReadThrough

inductive Log.Level where
  | debug
  | info
  | warn
  | error
  deriving DecidableEq, Repr

structure Log where
  level : Log.Level
  message : String
  deriving DecidableEq, Repr

namespace Log

def Level.name : Level → String
  | .debug => "DEBUG"
  | .info => "INFO"
  | .warn => "WARN"
  | .error => "ERROR"

def text (log : Log) : String := log.level.name ++ " " ++ log.message

def debug (message : String) : Log := ⟨.debug, message⟩

def info (message : String) : Log := ⟨.info, message⟩

def warn (message : String) : Log := ⟨.warn, message⟩

def error (message : String) : Log := ⟨.error, message⟩

end Log

/-- The descriptions of a failure, outermost first. -/
abbrev Causes := List String

def Causes.text (causes : Causes) : String :=
  ": ".intercalate causes

instance decidableEqResult {ε α : Type} [DecidableEq ε] [DecidableEq α] :
    DecidableEq (Except ε α)
  | .ok left, .ok right => decidable_of_iff (left = right) (by simp)
  | .error left, .error right => decidable_of_iff (left = right) (by simp)
  | .ok _, .error _ | .error _, .ok _ => .isFalse nofun

end ReadThrough
