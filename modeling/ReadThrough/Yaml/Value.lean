import ReadThrough.Text.Quoted

/-!
# YAML values

The values that a document is made of.  A mapping keeps its entries in the
order of the document; a key that is written again moves to the end and takes
the new value.
-/

namespace ReadThrough.Yaml

/-- A node of a document.  What is absent or has no meaning is `bad`. -/
inductive Value where
  | null
  | bad
  | bool (value : Bool)
  | int (value : Int)
  /-- A number with a fraction or an exponent, as it was written. -/
  | real (source : String)
  | str (text : String)
  | array (items : List Value)
  | hash (entries : List (Value × Value))
  deriving Inhabited

namespace Value

mutual

def decideEq : (left right : Value) → Decidable (left = right)
  | .null, right => by
    cases right
    case null => exact .isTrue rfl
    all_goals exact .isFalse nofun
  | .bad, right => by
    cases right
    case bad => exact .isTrue rfl
    all_goals exact .isFalse nofun
  | .bool left, right => by
    cases right
    case bool right => exact decidable_of_iff (left = right) (by simp)
    all_goals exact .isFalse nofun
  | .int left, right => by
    cases right
    case int right => exact decidable_of_iff (left = right) (by simp)
    all_goals exact .isFalse nofun
  | .real left, right => by
    cases right
    case real right => exact decidable_of_iff (left = right) (by simp)
    all_goals exact .isFalse nofun
  | .str left, right => by
    cases right
    case str right => exact decidable_of_iff (left = right) (by simp)
    all_goals exact .isFalse nofun
  | .array left, right => by
    cases right
    case array right =>
      have := decideEqItems left right
      exact decidable_of_iff (left = right) (by simp)
    all_goals exact .isFalse nofun
  | .hash left, right => by
    cases right
    case hash right =>
      have := decideEqEntries left right
      exact decidable_of_iff (left = right) (by simp)
    all_goals exact .isFalse nofun
  termination_by structural left => left

def decideEqItems : (left right : List Value) → Decidable (left = right)
  | [], [] => .isTrue rfl
  | [], _ :: _ | _ :: _, [] => .isFalse nofun
  | left :: lefts, right :: rights =>
    have := decideEq left right
    have := decideEqItems lefts rights
    decidable_of_iff (left = right ∧ lefts = rights) (by simp)
  termination_by structural left => left

def decideEqEntry : (left right : Value × Value) → Decidable (left = right)
  | (leftKey, leftValue), (rightKey, rightValue) =>
    have := decideEq leftKey rightKey
    have := decideEq leftValue rightValue
    decidable_of_iff (leftKey = rightKey ∧ leftValue = rightValue) (by simp)
  termination_by structural left => left

def decideEqEntries : (left right : List (Value × Value)) → Decidable (left = right)
  | [], [] => .isTrue rfl
  | [], _ :: _ | _ :: _, [] => .isFalse nofun
  | left :: lefts, right :: rights =>
    have := decideEqEntry left right
    have := decideEqEntries lefts rights
    decidable_of_iff (left = right ∧ lefts = rights) (by simp)
  termination_by structural left => left

end

instance : DecidableEq Value := decideEq

/-- Add an entry at the end of a mapping, in place of an earlier entry of the same key. -/
def insertEntry (key value : Value) (entries : List (Value × Value)) : List (Value × Value) :=
  entries.filter (fun entry => entry.1 ≠ key) ++ [(key, value)]

def ofEntries (entries : List (Value × Value)) : Value :=
  .hash (entries.foldl (fun mapping (key, value) => insertEntry key value mapping) [])

/-- The value of a text key, `bad` if the key is absent or the value is no mapping. -/
def field (value : Value) (name : String) : Value :=
  match value with
  | .hash entries => ((entries.find? fun entry => entry.1 = .str name).map Prod.snd).getD .bad
  | _ => .bad

/-- Whether a value is absent or has no meaning. -/
def isBad : Value → Bool
  | .bad => true
  | _ => false

def asInt? : Value → Option Int
  | .int value => some value
  | _ => none

def asText? : Value → Option String
  | .str text => some text
  | _ => none

mutual

def describe : Value → String
  | .null => "Null"
  | .bad => "BadValue"
  | .bool value => "Boolean(" ++ toString value ++ ")"
  | .int value => "Integer(" ++ toString value ++ ")"
  | .real source => "Real(" ++ Text.quoted source ++ ")"
  | .str text => "String(" ++ Text.quoted text ++ ")"
  | .array items => "Array([" ++ ", ".intercalate (describeItems items) ++ "])"
  | .hash entries => "Hash(\x7b" ++ ", ".intercalate (describeEntries entries) ++ "\x7d)"
  termination_by structural value => value

def describeItems : List Value → List String
  | [] => []
  | item :: rest => describe item :: describeItems rest
  termination_by structural items => items

def describeEntry : Value × Value → String
  | (key, value) => describe key ++ ": " ++ describe value
  termination_by structural entry => entry

def describeEntries : List (Value × Value) → List String
  | [] => []
  | entry :: rest => describeEntry entry :: describeEntries rest
  termination_by structural entries => entries

end

end Value

end ReadThrough.Yaml
