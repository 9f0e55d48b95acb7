import ReadThrough.Yaml.Document

/-!
# The configuration document

The root of the configuration is always a mapping.  A dotted path selects a
value within it, and a summary names the parts that shape a node.
-/

namespace ReadThrough.Config

open Yaml (Value)

def emptyDocument : Value := .hash []

/-- The configuration that a stream holds: its first document, if that is a mapping. -/
def documentOf : List Value → Value
  | .hash entries :: _ => .hash entries
  | _ => emptyDocument

def parse? (text : String) : Option Value :=
  (Yaml.ofText? text).map documentOf

/-- The part of a dotted path before its first dot, and what follows that dot. -/
def splitAt (separator : Char) : List Char → List Char × List (List Char)
  | [] => ([], [])
  | char :: rest =>
    let (head, tail) := splitAt separator rest
    if char = separator then ([], head :: tail) else (char :: head, tail)

def pathNames (path : String) : List String :=
  let (head, tail) := splitAt '.' path.toList
  (head :: tail).map String.ofList

/-- The value at a dotted path, `bad` if any part of it is missing. -/
def query (document : Value) (path : String) : Value :=
  (pathNames path).foldl Value.field document

def defaultPort : Nat := 8001

def defaultHost : String := "0.0.0.0"

def itemCount : Value → Nat
  | .array items => items.length
  | _ => 0

def entryCount : Value → Nat
  | .hash entries => entries.length
  | _ => 0

/-- The parts of the configuration which shape the node. -/
def summary (document : Value) : String :=
  let host := (query document "server.host").asText?.getD defaultHost
  let port := (query document "server.port").asInt?.getD defaultPort
  "Node config: server at " ++ host ++ ":" ++ toString port ++ ", " ++
    toString (itemCount (query document "peers.members")) ++ " peer(s), " ++
    toString (entryCount (query document "groups")) ++ " group(s)."

end ReadThrough.Config
