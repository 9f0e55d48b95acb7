/-!
# Characters of a YAML stream

The classes of characters that the structure of a stream hangs on.  The end of
the stream counts as the character NUL, and a NUL ends the stream.
-/

namespace ReadThrough.Yaml.Character

def endOfStream : Char := '\x00'

def isBlank (char : Char) : Bool :=
  char == ' ' || char == '\t'

def isBreak (char : Char) : Bool :=
  char == '\n' || char == '\r'

def isLineEnd (char : Char) : Bool :=
  isBreak char || char == endOfStream

/-- A character that ends a word. -/
def isGap (char : Char) : Bool :=
  isBlank char || isLineEnd char

/-- A character that names of anchors, tag handles and directives consist of. -/
def isName (char : Char) : Bool :=
  char.isAlphanum || char == '_' || char == '-'

/-- A bracket, a brace or a comma, which structure a flow collection. -/
def isFlow (char : Char) : Bool :=
  char == ',' || char == '[' || char == ']' || char == '\x7b' || char == '\x7d'

/-- The character of a code point, unless it is a surrogate or beyond Unicode. -/
def ofCodePoint? (point : Nat) : Option Char :=
  if point.isValidChar then some (.ofNat point) else none

def first (chars : List Char) : Char :=
  chars.headD endOfStream

def second (chars : List Char) : Char :=
  first chars.tail

/-- Whether a line begins with three equal marks that separate documents. -/
def startsWithMark (mark : Char) (chars : List Char) : Bool :=
  chars.take 3 == [mark, mark, mark] && isGap (first (chars.drop 3))

def startsWithDocumentMark (chars : List Char) : Bool :=
  startsWithMark '-' chars || startsWithMark '.' chars

end ReadThrough.Yaml.Character
