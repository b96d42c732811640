import Accrete.Text.Blank
import Accrete.Text.Case
import Accrete.Text.Digit

/-!
# Numerals

Texts that write numbers, with digits of any script.  Single underscores may stand between
digits, and blanks around the whole.

* `readInteger`  -- the integer that a text writes
* `isReal`       -- whether a text writes a number with a point, an exponent or neither

An integer is read from a limited number of digits; leading zeros count among them.
-/

namespace Accrete.Text

namespace Numeral

def isMargin (c : Char) : Bool := isBlank c && !(28 ≤ c.toNat && c.toNat ≤ 31)

/-- What a text holds between its margins. -/
def body (s : String) : List Char :=
  ((s.toList.dropWhile isMargin).reverse.dropWhile isMargin).reverse

/-- The number that digits write after others.  An underscore stands between two digits. -/
def digits? (n : Nat) (afterDigit : Bool) : List Char → Option Nat
  | [] => if afterDigit then some n else none
  | c :: rest =>
    match digitValue? c with
    | some d => digits? (10 * n + d) true rest
    | none => if c == '_' && afterDigit then digits? n false rest else none

/-- The number of digits that an integer can be read from. -/
def digitLimit : Nat := 4300

/-- Why no integer is read from a text. -/
inductive Fault where
  | malformed
  /-- There are more digits than an integer is read from. -/
  | tooLong (digits : Nat)
deriving DecidableEq, Repr

/-- How it is said that an integer has too many digits. -/
def tooLongMessage (digits : Nat) : String :=
  "Exceeds the limit (" ++ toString digitLimit ++
    " digits) for integer string conversion: value has " ++ toString digits ++
    " digits; use sys.set_int_max_str_digits() to increase the limit"

/-- The number of a text that starts with a digit.  The digits are counted before it matters
    whether anything else follows them. -/
def readNatural (cs : List Char) : Except Fault Nat :=
  let (row, rest) := cs.span fun c => isDigit c || c == '_'
  match digits? 0 false row with
  | none => .error .malformed
  | some n =>
    -- Underscores do not count as digits.
    let count := row.countP isDigit
    if digitLimit < count then .error (.tooLong count)
    else if rest.isEmpty then .ok n else .error .malformed

/-- Whether there is nothing but a row of digits. -/
def isDigits (cs : List Char) : Bool := (digits? 0 false cs).isSome

/-- Whether a sign is negative, and what follows the sign, if there is one. -/
def signed : List Char → Bool × List Char
  | '-' :: rest => (true, rest)
  | '+' :: rest => (false, rest)
  | cs => (false, cs)

/-- What is before the first character that fits, and what is after it. -/
def cut (p : Char → Bool) (cs : List Char) : List Char × Option (List Char) :=
  match cs.span (!p ·) with
  | (before, _ :: after) => (before, some after)
  | (before, []) => (before, none)

/-- Whether digits with a point in them write a number. -/
def isFraction (cs : List Char) : Bool :=
  match cut (· == '.') cs with
  | (whole, none) => isDigits whole
  | (whole, some []) => isDigits whole
  | ([], some part) => isDigits part
  | (whole, some part) => isDigits whole && isDigits part

/-- Whether a number without a sign is written. -/
def isUnsignedReal (cs : List Char) : Bool :=
  match cut (fun c => c == 'e' || c == 'E') cs with
  | (fraction, none) => isFraction fraction
  | (fraction, some exponent) => isFraction fraction && isDigits (signed exponent).2

/-- The texts of what is no finite number. -/
def special : List String := ["inf", "infinity", "nan"]

end Numeral

/-- The integer that a text writes. -/
def readInteger (s : String) : Except Numeral.Fault Int := do
  let (negative, digits) := Numeral.signed (Numeral.body s)
  let n ← Numeral.readNatural digits
  return if negative then -(n : Int) else n

def isReal (s : String) : Bool :=
  let unsigned := (Numeral.signed (Numeral.body s)).2
  Numeral.special.contains (asciiLower (String.ofList unsigned)) ||
    Numeral.isUnsignedReal unsigned

end Accrete.Text
