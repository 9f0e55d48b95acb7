import ReadThrough.Numeric.Decimal
import ReadThrough.Yaml.Position

/-!
# Tokens

The units that a stream is made of, and the readers of those that carry a
name: anchors and aliases, tags, and directives.  A reader gives nothing if
the name breaks a rule.
-/

namespace ReadThrough.Yaml

open Character

/-- A unit of a stream.  Collections in block style have a start and an end of their own. -/
inductive Token where
  | directive
  | documentStart
  | documentEnd
  | blockSequence
  | blockMapping
  | blockEnd
  | flowSequence
  | flowSequenceEnd
  | flowMapping
  | flowMappingEnd
  | blockEntry
  | flowEntry
  | key
  | value
  | alias (name : String)
  | anchor (name : String)
  | tag (handle suffix : String)
  | scalar (plain : Bool) (text : String)
  deriving DecidableEq, Repr, Inhabited

namespace Token

def endsName (char : Char) : Bool :=
  isGap char || ['?', ':', ',', ']', '\x7d', '%', '@', '\x60'].contains char

def anchorName? (cursor : Cursor) : Option (String × Cursor) :=
  let (name, cursor) := cursor.advance.readWhile isName
  if name.isEmpty || !endsName cursor.peek then none else some (String.ofList name, cursor)

def isTagChar (char : Char) : Bool :=
  isName char ||
    [';', '/', '?', ':', '@', '&', '=', '+', '$', ',', '.', '!', '~', '*', '\'', '(', ')', '[',
      ']', '%'].contains char

/-- The number of octets in a group that begins with the given one. -/
def groupSize? (octet : Nat) : Option Nat :=
  if octet < 0x80 then some 1
  else if octet < 0xC0 then none
  else if octet < 0xE0 then some 2
  else if octet < 0xF0 then some 3
  else if octet < 0xF8 then some 4
  else none

/--
The characters of a tag with its escapes read.  A group of escaped octets
stands for the code point that the octets form as digits of base 256.
-/
def unescape? (owed code : Nat) : List Char → Option (List Char)
  | '%' :: high :: low :: rest => do
    let octet := (← Numeric.hexValue? high) * 16 + (← Numeric.hexValue? low)
    let owed ← if owed = 0 then groupSize? octet else if octet / 64 = 2 then some owed else none
    let code := code * 256 + octet
    if owed ≤ 1 then return (← ofCodePoint? code) :: (← unescape? 0 0 rest)
    else unescape? (owed - 1) code rest
  | char :: rest =>
    if owed != 0 || char == '%' then none else (unescape? 0 0 rest).map (char :: ·)
  | [] => if owed = 0 then some [] else none

def tagPart? (cursor : Cursor) : Option (List Char × Cursor) := do
  let (raw, cursor) := cursor.readWhile isTagChar
  return (← unescape? 0 0 raw, cursor)

def requiredTagPart? (cursor : Cursor) : Option (List Char × Cursor) :=
  if isTagChar cursor.peek then tagPart? cursor else none

/-- An exclamation mark, a name, and a second exclamation mark if there is one. -/
def tagHandle? (cursor : Cursor) : Option (List Char × Cursor) :=
  if cursor.peek = '!' then
    let (name, cursor) := cursor.advance.readWhile isName
    if cursor.peek = '!' then some ('!' :: name ++ ['!'], cursor.advance)
    else some ('!' :: name, cursor)
  else none

def isFullHandle (handle : List Char) : Bool :=
  2 ≤ handle.length && handle.getLast? == some '!'

def shorthand? (cursor : Cursor) : Option (Token × Cursor) := do
  let (handle, cursor) ← tagHandle? cursor
  if isFullHandle handle then
    let (suffix, cursor) ← requiredTagPart? cursor
    return (.tag (String.ofList handle) (String.ofList suffix), cursor)
  else
    let (more, cursor) ← tagPart? cursor
    let suffix := handle.tail ++ more
    if suffix.isEmpty then return (.tag "" "!", cursor)
    else return (.tag "!" (String.ofList suffix), cursor)

def verbatim? (cursor : Cursor) : Option (Token × Cursor) := do
  let (suffix, cursor) ← requiredTagPart? cursor.advance.advance
  if cursor.peek = '>' then return (.tag "" (String.ofList suffix), cursor.advance) else none

def tag? (cursor : Cursor) : Option (Token × Cursor) := do
  let (token, cursor) ← if cursor.peekSecond = '<' then verbatim? cursor else shorthand? cursor
  if isGap cursor.peek then return (token, cursor) else none

/-- Pass a number of a version, which has one to nine digits. -/
def skipVersionNumber? (cursor : Cursor) : Option Cursor :=
  let (digits, cursor) := cursor.readWhile Char.isDigit
  if digits.isEmpty || 9 < digits.length then none else some cursor

def skipVersion? (cursor : Cursor) : Option Cursor := do
  let cursor ← skipVersionNumber? cursor.skipBlanks
  if cursor.peek = '.' then skipVersionNumber? cursor.advance else none

def skipTagDeclaration? (cursor : Cursor) : Option Cursor := do
  let (handle, cursor) ← tagHandle? cursor.skipBlanks
  if handle = ['!'] || isFullHandle handle then
    let (_, cursor) ← requiredTagPart? cursor.skipBlanks
    if isGap cursor.peek then return cursor else none
  else none

/-- Pass the line of a directive.  Directives without a known name are ignored. -/
def skipDirective? (cursor : Cursor) : Option Cursor := do
  let (name, cursor) := cursor.advance.readWhile isName
  if name.isEmpty || !isGap cursor.peek then none
  else
    let cursor ←
      if name = ['Y', 'A', 'M', 'L'] then skipVersion? cursor
      else if name = ['T', 'A', 'G'] then skipTagDeclaration? cursor
      else some cursor.skipToLineEnd
    cursor.skipRestOfLine?

end Token

end ReadThrough.Yaml
