import ReadThrough.Numeric.Decimal
import ReadThrough.Yaml.Gap
import ReadThrough.Yaml.Position

/-!
# Scalars

Reading the text of a scalar from its first character on: plain words, quoted
text, and block text.  Each reader goes through the stream character by
character; it gives nothing if the stream breaks a rule of the style.  Texts
are collected in reverse.
-/

namespace ReadThrough.Yaml

open Character

/-- Whether a carriage return belongs to the line feed behind it. -/
def joinsLineFeed (char : Char) (rest : List Char) : Bool :=
  char == '\r' && first rest == '\n'

def Position.afterReturn (position : Position) : Position :=
  { position with index := position.index + 1 }

namespace Quoted

/-- What the characters behind the current one are part of. -/
inductive Escape where
  | none
  /-- The second quote of a pair. -/
  | pair
  /-- The character behind a backslash. -/
  | backslash
  /-- Hexadecimal digits of a code point, of which some are owed. -/
  | digits (owed value : Nat)
  deriving DecidableEq, Repr

def escapes : List (Char × Char) := [
  ('0', '\x00'), ('a', '\x07'), ('b', '\x08'), ('t', '\t'), ('\t', '\t'), ('n', '\n'),
  ('v', '\x0b'), ('f', '\x0c'), ('r', '\r'), ('e', '\x1b'), (' ', ' '), ('"', '"'),
  ('\'', '\''), ('\\', '\\'), ('N', '\u0085'), ('_', '\u00a0'), ('L', '\u2028'),
  ('P', '\u2029')]

/-- The number of hexadecimal digits that belong to an escape. -/
def escapeWidth? : Char → Option Nat
  | 'x' => some 2
  | 'u' => some 4
  | 'U' => some 8
  | _ => .none

def quote (double : Bool) : Char :=
  if double then '"' else '\''

def readFrom (double : Bool) :
    List Char → Position → Escape → Gap → (text : List Char) → Option (String × Cursor)
  | [], _, _, _, _ => none
  | char :: rest, position, .pair, gap, text =>
    readFrom double rest (position.after char) .none gap text
  | char :: rest, position, .digits owed value, gap, text => do
    let digit ← Numeric.hexValue? char
    let value := value * 16 + digit
    if owed ≤ 1 then
      readFrom double rest (position.after char) .none gap ((← ofCodePoint? value) :: text)
    else readFrom double rest (position.after char) (.digits (owed - 1) value) gap text
  | char :: rest, position, .backslash, gap, text =>
    if joinsLineFeed char rest then
      readFrom double rest position.afterReturn .backslash gap text
    else if isBreak char then
      readFrom double rest (position.after char) .none .hidden text
    else
      match escapes.lookup char, escapeWidth? char with
      | some escaped, _ => readFrom double rest (position.after char) .none gap (escaped :: text)
      | _, some width => readFrom double rest (position.after char) (.digits width 0) gap text
      | _, _ => none
  | char :: rest, position, .none, gap, text =>
    if char == endOfStream then none
    else if isBlank char then
      readFrom double rest (position.after char) .none (gap.addBlank char) text
    else if joinsLineFeed char rest then
      readFrom double rest position.afterReturn .none gap text
    else if isBreak char then
      readFrom double rest (position.after char) .none gap.addBreak text
    else if position.column == 0 && startsWithDocumentMark (char :: rest) then none
    else
      let text := gap.chars.reverse ++ text
      let next := position.after char
      if char == quote double then
        if !double && first rest == '\'' then readFrom double rest next .pair .empty ('\'' :: text)
        else some (String.ofList text.reverse, ⟨rest, next⟩)
      else if double && char == '\\' then readFrom double rest next .backslash .empty text
      else readFrom double rest next .none .empty (char :: text)

def read? (double : Bool) (cursor : Cursor) : Option (String × Cursor) :=
  let start := cursor.advance
  readFrom double start.chars start.position .none .empty []

end Quoted

namespace Plain

/-- A plain scalar, and whether a line break was passed behind its last word. -/
structure Result where
  text : String
  endsOnLaterLine : Bool
  cursor : Cursor
  deriving DecidableEq, Repr

/-- Whether a character inside of a word ends the scalar. -/
def endsWord (flow : Bool) (char : Char) (rest : List Char) : Bool :=
  (char == ':' && (isGap (first rest) || (flow && isFlow (first rest)))) ||
    (flow && isFlow char)

/-- Whether a character behind white space ends the scalar. -/
def endsLine (flow : Bool) (indent : Nat) (position : Position) (chars : List Char) : Bool :=
  (!flow && position.column < indent) || first chars == '#' ||
    (position.column == 0 && startsWithDocumentMark chars)

/-- Read plain words; in a block they have to be indented. -/
def readFrom (flow : Bool) (indent : Nat) :
    List Char → Position → Gap → (text : List Char) → Option Result
  | [], position, gap, text =>
    some ⟨String.ofList text.reverse, gap.spansLines, ⟨[], position⟩⟩
  | char :: rest, position, gap, text =>
    if isBlank char then
      if gap.spansLines && position.column < indent && char == '\t' then none
      else readFrom flow indent rest (position.after char) (gap.addBlank char) text
    else if joinsLineFeed char rest then
      readFrom flow indent rest position.afterReturn gap text
    else if isBreak char then
      readFrom flow indent rest (position.after char) gap.addBreak text
    else if char == endOfStream || endsWord flow char rest ||
        (!gap.isEmpty && endsLine flow indent position (char :: rest)) then
      some ⟨String.ofList text.reverse, gap.spansLines, ⟨char :: rest, position⟩⟩
    else
      readFrom flow indent rest (position.after char) .empty (char :: (gap.chars.reverse ++ text))

def read? (flow : Bool) (indent : Nat) (cursor : Cursor) : Option Result :=
  readFrom flow indent cursor.chars cursor.position .empty []

end Plain

namespace Block

inductive Chomping where
  | strip
  | clip
  | keep
  deriving DecidableEq, Repr

structure State where
  text : List Char
  /-- The column of the text, zero as long as it is not known. -/
  indent : Nat
  /-- The widest indentation before the first line of text. -/
  widest : Nat
  inLine : Bool
  /-- Whether the last line of text has ended. -/
  broken : Bool
  /-- The empty lines since the last line of text. -/
  emptyLines : Nat
  /-- Whether the last line of text begins with a blank. -/
  blankLine : Bool
  deriving DecidableEq, Repr

def State.start (indent : Nat) : State := ⟨[], indent, 0, false, false, 0, false⟩

/-- Whether a column is still part of the indentation. -/
def State.indents (state : State) (column : Nat) : Bool :=
  state.indent == 0 || column < state.indent

/-- The separation of a line of text from the one before, in reverse. -/
def State.separation (state : State) (literal blank : Bool) : List Char :=
  let folds := !literal && state.broken && !state.blankLine && !blank
  let lineBreak :=
    if folds then (if state.emptyLines = 0 then [' '] else [])
    else if state.broken then ['\n'] else []
  List.replicate state.emptyLines '\n' ++ lineBreak

def State.beginLine (state : State) (literal : Bool) (indent : Nat) (char : Char) : State :=
  let blank := isBlank char
  { state with
    text := char :: (state.separation literal blank ++ state.text)
    indent
    inLine := true
    broken := false
    emptyLines := 0
    blankLine := blank }

/-- Read lines of text as long as they are indented; `least` is the least column. -/
def readFrom (literal : Bool) (least : Nat) :
    List Char → Position → State → Option (State × Cursor)
  | [], position, state => some (state, ⟨[], position⟩)
  | char :: rest, position, state =>
    if joinsLineFeed char rest then readFrom literal least rest position.afterReturn state
    else if state.inLine then
      if char == endOfStream then some (state, ⟨char :: rest, position⟩)
      else if isBreak char then
        readFrom literal least rest (position.after char)
          { state with inLine := false, broken := true }
      else
        readFrom literal least rest (position.after char)
          { state with text := char :: state.text }
    else if char == ' ' && state.indents position.column then
      readFrom literal least rest (position.after char) state
    else if char == '\t' && state.indents position.column then none
    else
      let widest := max state.widest position.column
      if isBreak char then
        readFrom literal least rest (position.after char)
          { state with widest, emptyLines := state.emptyLines + 1 }
      else
        let indent := if state.indent = 0 then max widest (max least 1) else state.indent
        if position.column == indent && char != endOfStream then
          readFrom literal least rest (position.after char) (state.beginLine literal indent char)
        else some (state, ⟨char :: rest, position⟩)

def State.content (state : State) (chomping : Chomping) : String :=
  let last := if chomping = .strip || !state.broken then [] else ['\n']
  let more := if chomping = .keep then List.replicate state.emptyLines '\n' else []
  String.ofList (state.text.reverse ++ last ++ more)

def chomping? : Char → Option Chomping
  | '+' => some .keep
  | '-' => some .strip
  | _ => none

/-- The indentation that a digit stands for; a zero is an error. -/
def increment? (char : Char) : Option Nat :=
  if char.isDigit && char != '0' then some (char.toNat - '0'.toNat) else none

/-- The chomping and the indentation behind the mark, in either order. -/
def header? (cursor : Cursor) : Option (Chomping × Nat × Cursor) :=
  match chomping? cursor.peek with
  | some chomping =>
    let cursor := cursor.advance
    if cursor.peek.isDigit then do
      return (chomping, ← increment? cursor.peek, cursor.advance)
    else some (chomping, 0, cursor)
  | none =>
    if cursor.peek.isDigit then do
      let increment ← increment? cursor.peek
      let cursor := cursor.advance
      match chomping? cursor.peek with
      | some chomping => some (chomping, increment, cursor.advance)
      | none => some (.clip, increment, cursor)
    else some (.clip, 0, cursor)

/--
The text of a block scalar that begins at the cursor.  The text lies at least
in the column `least`; an explicit indentation counts from the enclosing
collection, whose column is one less.
-/
def read? (literal : Bool) (least : Nat) (cursor : Cursor) : Option (String × Cursor) := do
  let (chomping, increment, cursor) ← header? cursor.advance
  let cursor ← cursor.skipRestOfLine?
  let indent := if increment = 0 then 0 else least - 1 + increment
  let (state, cursor) ← readFrom literal least cursor.chars cursor.position (.start indent)
  return (state.content chomping, cursor)

end Block

end ReadThrough.Yaml
