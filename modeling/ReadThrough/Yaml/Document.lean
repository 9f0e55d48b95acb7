import ReadThrough.Yaml.Layout
import ReadThrough.Yaml.Resolution

/-!
# Documents

The values of the documents in a stream.  Nodes may carry an anchor and a tag;
an alias stands for the value of the node with its anchor, which is `bad` as
long as that node is not complete.
-/

namespace ReadThrough.Yaml

structure Source where
  tokens : List Token
  /-- The node that each anchor of the document belongs to, the latest first. -/
  anchors : List (String × Nat)
  /-- The values of the complete nodes with an anchor. -/
  values : List (Nat × Value)
  /-- The number of nodes with an anchor. -/
  anchored : Nat
  deriving Inhabited

/-- A reader of tokens, which fails where the structure is broken. -/
abbrev Reader := StateT Source Option

namespace Source

def peek : Reader (Option Token) := do
  return (← get).tokens.head?

def skip : Reader Unit :=
  modify fun source => { source with tokens := source.tokens.tail }

def skipAny (tokens : List Token) : Reader Bool := do
  match ← peek with
  | some token => if tokens.contains token then skip; return true else return false
  | none => return false

def expect (token : Token) : Reader Unit := do
  if ← skipAny [token] then return else failure

def isNext (tokens : List Token) : Reader Bool := do
  return (← peek).any tokens.contains

def newAnchor (name : String) : Reader Nat :=
  modifyGet fun source =>
    (source.anchored,
      { source with
        anchors := (name, source.anchored) :: source.anchors
        anchored := source.anchored + 1 })

def aliased (name : String) : Reader Value := do
  let source ← get
  match source.anchors.lookup name with
  | some node => return (source.values.lookup node).getD .bad
  | none => failure

end Source

open ReadThrough.Yaml.Source

structure Properties where
  anchor : Option Nat
  tag : Option (String × String)
  deriving DecidableEq, Repr

def anchor? : Reader (Option Nat) := do
  match ← peek with
  | some (.anchor name) => skip; return some (← newAnchor name)
  | _ => return none

def tag? : Reader (Option (String × String)) := do
  match ← peek with
  | some (.tag handle suffix) => skip; return some (handle, suffix)
  | _ => return none

def properties : Reader Properties := do
  match ← anchor? with
  | some anchor => return ⟨some anchor, ← tag?⟩
  | none =>
    match ← tag? with
    | some tag => return ⟨← anchor?, some tag⟩
    | none => return ⟨none, none⟩

def typeHandle : String := "!!"

def scalarValue (plain : Bool) (tag : Option (String × String)) (text : String) : Value :=
  if !plain then .str text
  else
    match tag with
    | none => Resolution.plain text
    | some (handle, suffix) =>
      if handle = typeHandle then Resolution.typed suffix text else .str text

/--
The mapping of keys and values in turn.  A key without a meaning is dropped,
and the node behind it takes its role.
-/
def mappingFrom (entries : List (Value × Value)) (key : Value) : List Value → Value
  | [] => .hash entries
  | node :: rest =>
    if key.isBad then mappingFrom entries node rest
    else mappingFrom (Value.insertEntry key node entries) .bad rest

def mapping (nodes : List Value) : Value :=
  mappingFrom [] .bad nodes

def complete (properties : Properties) (value : Value) : Reader Value := do
  match properties.anchor with
  | some node => modify fun source => { source with values := (node, value) :: source.values }
  | none => pure ()
  return value

mutual

/-- Read a node.  Block collections and entries without indentation have to be allowed. -/
def node : (limit : Nat) → (block indentless : Bool) → Reader Value
  | 0, _, _ => failure
  | limit + 1, block, indentless => do
    match ← peek with
    | some (.alias name) => skip; aliased name
    | _ =>
      let properties ← properties
      complete properties (← content limit block indentless properties)

def content : (limit : Nat) → (block indentless : Bool) → Properties → Reader Value
  | 0, _, _, _ => failure
  | limit + 1, block, indentless, properties => do
    match ← peek, block, indentless with
    | some (.scalar plain text), _, _ => skip; return scalarValue plain properties.tag text
    | some .flowSequence, _, _ => skip; return .array (← flowItems limit true)
    | some .flowMapping, _, _ => skip; return mapping (← flowPairs limit true)
    | some .blockSequence, true, _ => skip; return .array (← blockItems limit)
    | some .blockMapping, true, _ => skip; return mapping (← blockPairs limit)
    | some .blockEntry, _, true => return .array (← indentlessItems limit)
    | _, _, _ =>
      if properties.anchor.isSome || properties.tag.isSome then
        return scalarValue true properties.tag ""
      else failure

/-- Read a node, or the null value before one of the given tokens. -/
def nodeUnless :
    (limit : Nat) → (block indentless : Bool) → (tokens : List Token) → Reader Value
  | 0, _, _, _ => failure
  | limit + 1, block, indentless, tokens => do
    if ← isNext tokens then return .null else node limit block indentless

/-- Read the value of a key; it is null if there is none. -/
def valueUnless :
    (limit : Nat) → (block indentless : Bool) → (tokens : List Token) → Reader Value
  | 0, _, _, _ => failure
  | limit + 1, block, indentless, tokens => do
    if ← skipAny [.value] then nodeUnless limit block indentless tokens else return .null

def blockItems : (limit : Nat) → Reader (List Value)
  | 0 => failure
  | limit + 1 => do
    if ← skipAny [.blockEnd] then return []
    else
      expect .blockEntry
      let item ← nodeUnless limit true false [.blockEntry, .blockEnd]
      return item :: (← blockItems limit)

def indentlessItems : (limit : Nat) → Reader (List Value)
  | 0 => failure
  | limit + 1 => do
    if ← skipAny [.blockEntry] then
      let item ← nodeUnless limit true false [.blockEntry, .key, .value, .blockEnd]
      return item :: (← indentlessItems limit)
    else return []

def blockPairs : (limit : Nat) → Reader (List Value)
  | 0 => failure
  | limit + 1 => do
    if ← skipAny [.blockEnd] then return []
    else
      let ends : List Token := [.key, .value, .blockEnd]
      let key ←
        if ← skipAny [.key] then nodeUnless limit true true ends
        else if ← isNext [.value] then pure .null
        else failure
      let value ← valueUnless limit true true ends
      return key :: value :: (← blockPairs limit)

def flowItems : (limit : Nat) → (isFirst : Bool) → Reader (List Value)
  | 0, _ => failure
  | limit + 1, isFirst => do
    if ← skipAny [.flowSequenceEnd] then return []
    else
      if !isFirst then expect .flowEntry
      if ← skipAny [.flowSequenceEnd] then return []
      else
        let item ←
          if ← skipAny [.key] then
            let key ←
              if ← skipAny [.value, .flowEntry, .flowSequenceEnd] then pure .null
              else node limit false false
            let value ← valueUnless limit false false [.flowEntry, .flowSequenceEnd]
            pure (mapping [key, value])
          else node limit false false
        return item :: (← flowItems limit false)

def flowPairs : (limit : Nat) → (isFirst : Bool) → Reader (List Value)
  | 0, _ => failure
  | limit + 1, isFirst => do
    if ← skipAny [.flowMappingEnd] then return []
    else
      if !isFirst then expect .flowEntry
      if ← skipAny [.flowMappingEnd] then return []
      else
        let ends : List Token := [.flowEntry, .flowMappingEnd]
        if ← skipAny [.key] then
          let key ← nodeUnless limit false false (.value :: ends)
          let value ← valueUnless limit false false ends
          return key :: value :: (← flowPairs limit false)
        else if ← isNext [.value] then
          let value ← valueUnless limit false false ends
          return .null :: value :: (← flowPairs limit false)
        else
          let key ← node limit false false
          return key :: .null :: (← flowPairs limit false)

end

def skipAll (tokens : List Token) : Reader Unit :=
  modify fun source => { source with tokens := source.tokens.dropWhile tokens.contains }

def explicitDocument (limit : Nat) : Reader Value := do
  skipAll [.directive]
  expect .documentStart
  if (← peek).isNone then return .null
  else nodeUnless limit true false [.directive, .documentStart, .documentEnd]

/-- Read documents up to the end of the stream.  Only the first one may have no start. -/
def documents : (limit : Nat) → (isFirst : Bool) → Reader (List Value)
  | 0, _ => failure
  | limit + 1, isFirst => do
    if !isFirst then skipAll [.documentEnd]
    modify fun source => { source with anchors := [] }
    if (← peek).isNone then return []
    else
      let isExplicit ← isNext [.directive, .documentStart]
      let document ←
        if isExplicit || !isFirst then explicitDocument limit else node limit true false
      let _ ← skipAny [.documentEnd]
      return document :: (← documents limit false)

def ofText? (text : String) : Option (List Value) := do
  let tokens ← Token.ofText? text
  let limit := 4 * tokens.length + 8
  let (values, _) ← (documents limit true).run ⟨tokens, [], [], 0⟩
  return values

end ReadThrough.Yaml
