/-!
# UTF-8

Texts as bytes and bytes as texts.  Reading takes one character at a time; the
bytes that start no character are taken away together with as many of the
following ones as a character could begin with, so that each such group is
replaced by a single replacement character.
-/

namespace ReadThrough

abbrev Bytes := List UInt8

namespace Utf8

def encode (text : String) : Bytes :=
  text.toList.flatMap String.utf8EncodeChar

def isContinuation (byte : UInt8) : Bool :=
  0x80 ≤ byte && byte ≤ 0xBF

/-- The number of bytes of a character that begins with the given byte, or zero for none. -/
def width (lead : UInt8) : Nat :=
  if lead < 0x80 then 1
  else if lead < 0xC2 then 0
  else if lead < 0xE0 then 2
  else if lead < 0xF0 then 3
  else if lead < 0xF5 then 4
  else 0

/--
Whether the second byte of a character may follow the first one.  Overlong
forms, surrogates and code points beyond Unicode are excluded here.
-/
def isSecond (lead second : UInt8) : Bool :=
  if lead == 0xE0 then 0xA0 ≤ second && second ≤ 0xBF
  else if lead == 0xED then 0x80 ≤ second && second ≤ 0x9F
  else if lead == 0xF0 then 0x90 ≤ second && second ≤ 0xBF
  else if lead == 0xF4 then 0x80 ≤ second && second ≤ 0x8F
  else isContinuation second

def codePoint (lead : UInt8) (continuations : Bytes) : Nat :=
  let first :=
    match continuations.length with
    | 0 => lead.toNat
    | 1 => lead.toNat % 0x20
    | 2 => lead.toNat % 0x10
    | _ => lead.toNat % 0x08
  continuations.foldl (fun point byte => point * 0x40 + byte.toNat % 0x40) first

/-- The continuations owed after the second byte, as far as they are present. -/
def continuations (owed : Nat) (bytes : Bytes) : Bytes :=
  (bytes.take owed).takeWhile isContinuation

/--
The first character of `lead :: rest`, or nothing if the bytes start none, and
the number of bytes of `rest` that were read with the lead.
-/
def readChar (lead : UInt8) (rest : Bytes) : Option Char × Nat :=
  match width lead, rest with
  | 0, _ => (none, 0)
  | 1, _ => (some (Char.ofNat lead.toNat), 0)
  | _, [] => (none, 0)
  | size + 2, second :: others =>
    if isSecond lead second then
      let tail := continuations size others
      if tail.length = size then
        (some (Char.ofNat (codePoint lead (second :: tail))), size + 1)
      else (none, tail.length + 1)
    else (none, 0)

/-- The characters of a byte sequence, where a group of bytes that is no character is absent. -/
def chars : Bytes → List (Option Char)
  | [] => []
  | lead :: rest =>
    let (char, used) := readChar lead rest
    char :: chars (rest.drop used)
  termination_by bytes => bytes.length
  decreasing_by simp only [List.length_drop, List.length_cons]; omega

def decode? (bytes : Bytes) : Option String :=
  ((chars bytes).mapM id).map String.ofList

def replacement : Char := '\uFFFD'

/-- The text with the given bytes, where each invalid group is replaced. -/
def decodeLossy (bytes : Bytes) : String :=
  String.ofList ((chars bytes).map (·.getD replacement))

end Utf8

end ReadThrough
