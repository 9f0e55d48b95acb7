import ReadThrough.Yaml.Scalar
import ReadThrough.Yaml.Token

/-!
# Layout

The tokens of a stream.  Block collections are opened and closed by the
columns of their entries.  A key needs no mark of its own: where a token may
turn out to be a key, its place is remembered, and a colon on the same line
puts the key token, and the start of a block mapping, before it.
-/

namespace ReadThrough.Yaml

open Character

/-- A place where a key may have begun. -/
structure PendingKey where
  position : Position
  /-- The number of tokens before the key. -/
  tokens : Nat
  /-- Whether the token there cannot be anything but a key. -/
  required : Bool
  deriving DecidableEq, Repr

/-- A key ends at most this many characters after its start. -/
def PendingKey.widthLimit : Nat := 1024

def PendingKey.isStale (key : PendingKey) (position : Position) : Bool :=
  key.position.line < position.line ||
    key.position.index + PendingKey.widthLimit < position.index

/-- The tokens before a place and what is open there. -/
structure Layout where
  cursor : Cursor
  tokens : Array Token
  /-- The columns of the open block collections, the innermost first. -/
  columns : List Nat
  /-- The key that may have begun in the innermost collection. -/
  key : Option PendingKey
  /-- The same for the collections around the innermost flow collection. -/
  outerKeys : List (Option PendingKey)
  /-- Whether a key may begin here. -/
  keyAllowed : Bool
  /-- The place behind the last quoted scalar, where a value needs no space. -/
  quotedEnd : Nat
  deriving Repr

namespace Layout

def flowLimit : Nat := 255

def start (text : String) : Layout := ⟨.ofText text, #[], [], none, [], true, 0⟩

def inFlow (layout : Layout) : Bool := !layout.outerKeys.isEmpty

/-- The least column of text inside of the innermost block collection. -/
def leastColumn (layout : Layout) : Nat :=
  match layout.columns with
  | [] => 0
  | column :: _ => column + 1

def push (layout : Layout) (token : Token) : Layout :=
  { layout with tokens := layout.tokens.push token }

/-- Add a token behind the first `count` ones. -/
def insert (layout : Layout) (count : Nat) (token : Token) : Layout :=
  { layout with
    tokens := (layout.tokens.take count).push token ++ layout.tokens.drop count }

def pushMark (layout : Layout) (width : Nat) (token : Token) : Layout :=
  { layout.push token with cursor := Nat.repeat Cursor.advance width layout.cursor }

/--
Pass white space and comments.  A tab that could be taken for indentation
stays.  A key may begin on a new line, unless a flow collection is open.
-/
def skipGap (flow : Bool) :
    (inComment : Bool) → List Char → Position → (keyAllowed : Bool) → Cursor × Bool
  | _, [], position, keyAllowed => (⟨[], position⟩, keyAllowed)
  | inComment, char :: rest, position, keyAllowed =>
    if joinsLineFeed char rest then
      skipGap flow inComment rest position.afterReturn keyAllowed
    else if isBreak char then
      skipGap flow false rest (position.after char) (keyAllowed || !flow)
    else if char == endOfStream then (⟨char :: rest, position⟩, keyAllowed)
    else if inComment || char == ' ' || (char == '\t' && (flow || !keyAllowed)) then
      skipGap flow inComment rest (position.after char) keyAllowed
    else if char == '#' then skipGap flow true rest (position.after char) keyAllowed
    else (⟨char :: rest, position⟩, keyAllowed)

def toNextToken (layout : Layout) : Layout :=
  let (cursor, keyAllowed) :=
    skipGap layout.inFlow false layout.cursor.chars layout.cursor.position layout.keyAllowed
  { layout with cursor, keyAllowed }

/-- Forget a key out of reach; it is an error if the key was required. -/
def freshKey? (position : Position) : Option PendingKey → Option (Option PendingKey)
  | none => some none
  | some key =>
    if key.isStale position then (if key.required then none else some none) else some (some key)

def dropStaleKeys? (layout : Layout) : Option Layout := do
  let fresh := freshKey? layout.cursor.position
  return { layout with
    key := ← fresh layout.key
    outerKeys := ← layout.outerKeys.mapM fresh }

/-- Close the block collections to the right of the cursor, unless a flow collection is open. -/
def closeDeeper (layout : Layout) (closed : Nat → Bool) : Layout :=
  if layout.inFlow then layout
  else
    let ended := (layout.columns.takeWhile closed).length
    { layout with
      tokens := layout.tokens ++ Array.replicate ended Token.blockEnd
      columns := layout.columns.drop ended }

def closeBlocks (layout : Layout) : Layout :=
  layout.closeDeeper fun _ => true

/-- Open a block collection in a column, unless one is open there or a flow collection is open. -/
def openBlock (layout : Layout) (column count : Nat) (token : Token) : Layout :=
  if !layout.inFlow && layout.leastColumn ≤ column then
    { layout.insert count token with columns := column :: layout.columns }
  else layout

def openBlockHere (layout : Layout) (token : Token) : Layout :=
  layout.openBlock layout.cursor.column layout.tokens.size token

/-- Give up the key of the innermost collection; it is an error if it is required. -/
def dropKey? (layout : Layout) : Option Layout :=
  match layout.key with
  | some key => if key.required then none else some { layout with key := none }
  | none => some layout

/-- Remember that a key may begin at the cursor, if one is allowed there. -/
def saveKey? (layout : Layout) : Option Layout :=
  if layout.keyAllowed then do
    let required := layout.inFlow && layout.columns.head? == some layout.cursor.column
    let dropped ← layout.dropKey?
    return { dropped with key := some ⟨layout.cursor.position, layout.tokens.size, required⟩ }
  else some layout

def allowKey (layout : Layout) (allowed : Bool) : Layout :=
  { layout with keyAllowed := allowed }

def directive? (layout : Layout) : Option Layout := do
  let layout ← layout.closeBlocks.dropKey?
  let cursor ← Token.skipDirective? layout.cursor
  return { (layout.allowKey false).push .directive with cursor }

def documentMark? (layout : Layout) (token : Token) : Option Layout := do
  let layout ← layout.closeBlocks.dropKey?
  return (layout.allowKey false).pushMark 3 token

def openFlow? (layout : Layout) (token : Token) : Option Layout := do
  let layout ← layout.saveKey?
  if layout.outerKeys.length < flowLimit then
    return ({ layout with key := none, outerKeys := layout.key :: layout.outerKeys }.allowKey
      true).pushMark 1 token
  else none

def closeFlow? (layout : Layout) (token : Token) : Option Layout := do
  let layout ← layout.dropKey?
  let layout :=
    match layout.outerKeys with
    | [] => layout
    | key :: outerKeys => { layout with key, outerKeys }
  return (layout.allowKey false).pushMark 1 token

def flowEntry? (layout : Layout) : Option Layout := do
  let layout ← layout.dropKey?
  return (layout.allowKey true).pushMark 1 .flowEntry

/-- The dash of an entry, which is only allowed where a line could begin. -/
def blockEntry? (layout : Layout) : Option Layout := do
  if layout.inFlow || !layout.keyAllowed then none
  else
    let layout ← (layout.openBlockHere .blockSequence).dropKey?
    return (layout.allowKey true).pushMark 1 .blockEntry

def explicitKey? (layout : Layout) : Option Layout := do
  if !layout.inFlow && !layout.keyAllowed then none
  else
    let layout ← (layout.openBlockHere .blockMapping).dropKey?
    return (layout.allowKey !layout.inFlow).pushMark 1 .key

/-- The colon of a value, behind a remembered key or on its own. -/
def value? (layout : Layout) : Option Layout :=
  match layout.key with
  | some key =>
    let layout := layout.insert key.tokens .key
    let layout := layout.openBlock key.position.column key.tokens .blockMapping
    some (({ layout with key := none }.allowKey false).pushMark 1 .value)
  | none =>
    if !layout.inFlow && !layout.keyAllowed then none
    else
      some (((layout.openBlockHere .blockMapping).allowKey !layout.inFlow).pushMark 1 .value)

def anchor? (layout : Layout) (token : String → Token) : Option Layout := do
  let layout ← layout.saveKey?
  let (name, cursor) ← Token.anchorName? layout.cursor
  return { (layout.allowKey false).push (token name) with cursor }

def tag? (layout : Layout) : Option Layout := do
  let layout ← layout.saveKey?
  let (token, cursor) ← Token.tag? layout.cursor
  return { (layout.allowKey false).push token with cursor }

def blockScalar? (layout : Layout) (literal : Bool) : Option Layout := do
  let layout ← layout.saveKey?
  let (text, cursor) ← Block.read? literal layout.leastColumn layout.cursor
  return { (layout.allowKey true).push (.scalar false text) with cursor }

def quotedScalar? (layout : Layout) (double : Bool) : Option Layout := do
  let layout ← layout.saveKey?
  let (text, cursor) ← Quoted.read? double layout.cursor
  return { (layout.allowKey false).push (.scalar false text) with
    cursor
    quotedEnd := cursor.position.index }

def plainScalar? (layout : Layout) : Option Layout := do
  let layout ← layout.saveKey?
  let result ← Plain.read? layout.inFlow layout.leastColumn layout.cursor
  return { (layout.allowKey result.endsOnLaterLine).push (.scalar true result.text) with
    cursor := result.cursor }

/-- Whether the colon at the cursor is a value and not the start of a plain scalar. -/
def startsValue (layout : Layout) : Bool :=
  let next := layout.cursor.peekSecond
  isGap next ||
    (layout.inFlow && (isFlow next || layout.cursor.position.index == layout.quotedEnd))

def token? (layout : Layout) : Option Layout :=
  let cursor := layout.cursor
  let spaced := isGap cursor.peekSecond
  let atLineStart := cursor.column == 0
  if atLineStart && cursor.peek == '%' then layout.directive?
  else if atLineStart && startsWithMark '-' cursor.chars then layout.documentMark? .documentStart
  else if atLineStart && startsWithMark '.' cursor.chars then layout.documentMark? .documentEnd
  else
    match cursor.peek with
    | '[' => layout.openFlow? .flowSequence
    | '\x7b' => layout.openFlow? .flowMapping
    | ']' => layout.closeFlow? .flowSequenceEnd
    | '\x7d' => layout.closeFlow? .flowMappingEnd
    | ',' => layout.flowEntry?
    | '-' => if spaced then layout.blockEntry? else layout.plainScalar?
    | '?' => if spaced then layout.explicitKey? else layout.plainScalar?
    | ':' => if layout.startsValue then layout.value? else layout.plainScalar?
    | '*' => layout.anchor? .alias
    | '&' => layout.anchor? .anchor
    | '!' => layout.tag?
    | '|' => if layout.inFlow then layout.plainScalar? else layout.blockScalar? true
    | '>' => if layout.inFlow then layout.plainScalar? else layout.blockScalar? false
    | '\'' => layout.quotedScalar? false
    | '"' => layout.quotedScalar? true
    | '%' | '@' | '\x60' => none
    | _ => layout.plainScalar?

/-- Read tokens up to the end of the stream; each one but the last has a character at least. -/
def tokensFrom? : (limit : Nat) → Layout → Option (Array Token)
  | 0, _ => none
  | limit + 1, layout => do
    let layout ← layout.toNextToken.dropStaleKeys?
    let column := layout.cursor.column
    let layout := layout.closeDeeper fun other => column < other
    if layout.cursor.peek = endOfStream then
      return (← layout.closeBlocks.dropKey?).tokens
    else tokensFrom? limit (← layout.token?)

end Layout

def Token.ofText? (text : String) : Option (List Token) :=
  (Layout.tokensFrom? (text.length + 1) (.start text)).map Array.toList

end ReadThrough.Yaml
