import ReadThrough.Yaml.Character

/-!
# Positions in a YAML stream

The number of characters passed, the line and the column.  Only a line feed
begins a new line; a carriage return is a character of its line.
-/

namespace ReadThrough.Yaml

structure Position where
  index : Nat
  line : Nat
  column : Nat
  deriving DecidableEq, Repr, Inhabited

def Position.start : Position := ⟨0, 0, 0⟩

def Position.after (position : Position) (char : Char) : Position :=
  if char = '\n' then ⟨position.index + 1, position.line + 1, 0⟩
  else ⟨position.index + 1, position.line, position.column + 1⟩

structure Cursor where
  chars : List Char
  position : Position
  deriving DecidableEq, Repr, Inhabited

namespace Cursor

open Character

def ofText (text : String) : Cursor := ⟨text.toList, .start⟩

def peek (cursor : Cursor) : Char := first cursor.chars

def peekSecond (cursor : Cursor) : Char := second cursor.chars

def column (cursor : Cursor) : Nat := cursor.position.column

/-- Pass the next character; the end of the stream is not passed. -/
def advance (cursor : Cursor) : Cursor :=
  match cursor.chars with
  | [] => cursor
  | char :: rest => ⟨rest, cursor.position.after char⟩

def skipWhile (passed : Char → Bool) (cursor : Cursor) : Cursor :=
  ⟨cursor.chars.dropWhile passed,
    (cursor.chars.takeWhile passed).foldl Position.after cursor.position⟩

/-- The longest run of characters with the property, and the place behind it. -/
def readWhile (kept : Char → Bool) (cursor : Cursor) : List Char × Cursor :=
  (cursor.chars.takeWhile kept, cursor.skipWhile kept)

def skipBlanks (cursor : Cursor) : Cursor := cursor.skipWhile isBlank

def skipToLineEnd (cursor : Cursor) : Cursor := cursor.skipWhile fun char => !isLineEnd char

def skipComment (cursor : Cursor) : Cursor :=
  if cursor.peek = '#' then cursor.skipToLineEnd else cursor

/-- Pass a line break, if there is one; a carriage return and a line feed are one. -/
def skipBreak (cursor : Cursor) : Cursor :=
  match cursor.chars with
  | '\r' :: '\n' :: rest => ⟨rest, (cursor.position.after '\r').after '\n'⟩
  | char :: rest => if isBreak char then ⟨rest, cursor.position.after char⟩ else cursor
  | [] => cursor

/-- Pass blanks, a comment and the line break; anything else on the line is an error. -/
def skipRestOfLine? (cursor : Cursor) : Option Cursor :=
  let rest := cursor.skipBlanks.skipComment
  if isLineEnd rest.peek then some rest.skipBreak else none

end Cursor

end ReadThrough.Yaml
