import ReadThrough.Numeric.Decimal
import ReadThrough.Yaml.Value

/-!
# Resolution of plain scalars

The value of a scalar without quotes follows from its text: the null value,
truth values, integers of 64 bits, numbers with a fraction or an exponent, and
texts for everything else.  A tag asks for one of these types.
-/

namespace ReadThrough.Yaml.Resolution

def splitSign : List Char → Bool × List Char
  | '-' :: rest => (true, rest)
  | '+' :: rest => (false, rest)
  | rest => (false, rest)

/-- The integer of 64 bits with an optional sign and digits of the given base. -/
def integer? (base : Nat) (chars : List Char) : Option Int := do
  let (negative, digits) := splitSign chars
  let magnitude ← Numeric.natural? base digits
  let value : Int := if negative then -magnitude else magnitude
  if -0x8000000000000000 ≤ value && value < 0x8000000000000000 then some value else none

/-- Infinities and the value that is no number, with the point in front. -/
def specialNumbers : List String := [
  ".inf", ".Inf", ".INF", "+.inf", "+.Inf", "+.INF", "-.inf", "-.Inf", "-.INF",
  ".nan", "NaN", ".NAN"]

def numberWords : List (List Char) := [
  ['i', 'n', 'f'], ['i', 'n', 'f', 'i', 'n', 'i', 't', 'y'], ['n', 'a', 'n']]

def isExponent : List Char → Bool
  | [] => true
  | char :: rest =>
    let digits := (splitSign rest).2
    (char == 'e' || char == 'E') && !digits.isEmpty && digits.all Char.isDigit

def isDecimal (chars : List Char) : Bool :=
  let whole := chars.takeWhile Char.isDigit
  match chars.dropWhile Char.isDigit with
  | '.' :: rest =>
    let fraction := rest.takeWhile Char.isDigit
    (!whole.isEmpty || !fraction.isEmpty) && isExponent (rest.dropWhile Char.isDigit)
  | rest => !whole.isEmpty && isExponent rest

/-- Whether a text is a number with a fraction, an exponent or without a finite value. -/
def isReal (text : String) : Bool :=
  let unsigned := (splitSign text.toList).2
  specialNumbers.contains text || numberWords.contains (unsigned.map Char.toLower) ||
    isDecimal unsigned

/-- The integer that a plain scalar is: with a base, with a plus sign, or as it stands. -/
def plainInteger? (chars : List Char) : Option Int :=
  match chars with
  | '0' :: 'x' :: digits => integer? 16 digits
  | '0' :: 'o' :: digits => integer? 8 digits
  | '+' :: rest => integer? 10 rest
  | _ => integer? 10 chars

def plain (text : String) : Value :=
  match plainInteger? text.toList with
  | some value => .int value
  | none =>
    if text = "~" || text = "null" then .null
    else if text = "true" then .bool true
    else if text = "false" then .bool false
    else if isReal text then .real text
    else .str text

/-- The value of a plain scalar with a tag of the given name, `bad` if it is of another type. -/
def typed (name text : String) : Value :=
  match name with
  | "bool" => if text = "true" then .bool true else if text = "false" then .bool false else .bad
  | "int" => ((integer? 10 text.toList).map .int).getD .bad
  | "float" => if isReal text then .real text else .bad
  | "null" => if text = "~" || text = "null" then .null else .bad
  | _ => .str text

end ReadThrough.Yaml.Resolution
