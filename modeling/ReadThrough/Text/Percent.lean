import ReadThrough.Text.Utf8

/-!
# Percent encoding

Text as part of a URL path.  Every byte but the unreserved ones is written as
a percent sign and two upper case hexadecimal digits.  Reading accepts digits
of both cases and leaves a percent sign that starts no pair of digits as it is.
-/

namespace ReadThrough.Percent

/-- Letters, digits and the four marks that never need an escape. -/
def isUnreserved (byte : UInt8) : Bool :=
  (0x30 ≤ byte && byte ≤ 0x39) || (0x41 ≤ byte && byte ≤ 0x5A) ||
    (0x61 ≤ byte && byte ≤ 0x7A) ||
    byte == 0x2D || byte == 0x2E || byte == 0x5F || byte == 0x7E

def hexDigit (value : UInt8) : UInt8 :=
  if value < 10 then 0x30 + value else 0x37 + value

def hexValue? (byte : UInt8) : Option UInt8 :=
  if 0x30 ≤ byte && byte ≤ 0x39 then some (byte - 0x30)
  else if 0x41 ≤ byte && byte ≤ 0x46 then some (byte - 0x37)
  else if 0x61 ≤ byte && byte ≤ 0x66 then some (byte - 0x57)
  else none

def encodeByte (byte : UInt8) : Bytes :=
  if isUnreserved byte then [byte]
  else [0x25, hexDigit (byte / 16), hexDigit (byte % 16)]

def encodeBytes (bytes : Bytes) : Bytes :=
  bytes.flatMap encodeByte

def escaped? (high low : UInt8) : Option UInt8 :=
  match hexValue? high, hexValue? low with
  | some high, some low => some (high * 16 + low)
  | _, _ => none

def decodeBytes : Bytes → Bytes
  | [] => []
  | [byte] => [byte]
  | [first, second] => [first, second]
  | first :: high :: low :: rest =>
    if first = 0x25 then
      match escaped? high low with
      | some byte => byte :: decodeBytes rest
      | none => first :: decodeBytes (high :: low :: rest)
    else first :: decodeBytes (high :: low :: rest)

def encode (text : String) : String :=
  String.ofList ((encodeBytes (Utf8.encode text)).map fun byte => Char.ofNat byte.toNat)

/-- The text that a path stands for, unless its bytes are no text. -/
def decode? (path : String) : Option String :=
  Utf8.decode? (decodeBytes (Utf8.encode path))

end ReadThrough.Percent
