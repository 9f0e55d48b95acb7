import ReadThrough.Log

/-!
# Platforms

A platform keeps one service of each kind and knows whether the node runs.
Termination releases all services; a service that is put there afterwards can
be found, but no longer be required.
-/

namespace ReadThrough.Node

variable {κ : Type} {Service : κ → Type}

structure Platform (Service : κ → Type) where
  service : (kind : κ) → Option (Service kind)
  running : Bool

namespace Platform

inductive Refusal where
  | terminated
  | absent
  deriving DecidableEq, Repr

def Refusal.message (kind : String) : Refusal → String
  | .terminated =>
    "A required component (" ++ kind ++
      ") has been requested but the node is already shutting down!"
  | .absent => "A required component (" ++ kind ++ ") was not available in the platform!"

def empty : Platform Service := ⟨fun _ => none, true⟩

instance : Inhabited (Platform Service) := ⟨empty⟩

/-- Put a service in the place of the one of its kind. -/
def register [DecidableEq κ] (platform : Platform Service) (kind : κ) (service : Service kind) :
    Platform Service :=
  { platform with
    service := fun other => if same : kind = other then some (same ▸ service)
      else platform.service other }

def find? (platform : Platform Service) (kind : κ) : Option (Service kind) :=
  platform.service kind

def require (platform : Platform Service) (kind : κ) : Except Refusal (Service kind) :=
  if platform.running then
    match platform.find? kind with
    | some service => .ok service
    | none => .error .absent
  else .error .terminated

def terminate (_ : Platform Service) : Platform Service := ⟨fun _ => none, false⟩

end Platform

end ReadThrough.Node
