import Accrete.Database.NumberText
import Accrete.Text.Case
import Accrete.Text.Part

/-!
# Cells

The values that a database stores, what it takes them for, and how it compares them.

* `Cell`               -- a stored value
* `Affinity`           -- what a column makes of the values that are put into it
* `Affinity.ofType`    -- the affinity of a declared type
* `Affinity.apply`     -- a value as a column of an affinity stores it
* `Collation.compare`  -- the order of two texts
* `Cell.compare`       -- the order of two values
* `Cell.same`          -- when two values are the same to a unique index
* `Cell.real`, `Cell.integer`, `Cell.numeric`, `Cell.truth?`, `Cell.bytes?` -- what a value is taken for

Integers have 64 bits.  A text that writes a number becomes that number in a numeric column, and a
number becomes its text in a text column.
-/

namespace Accrete

/-- A stored value. -/
inductive Cell where
  | null
  | number (n : Number)
  | text (bytes : Bytes)
  | blob (bytes : Bytes)
deriving DecidableEq, Repr, Inhabited

/-- What a column makes of the values that are put into it. -/
inductive Affinity where
  | blob | text | numeric | integer | real
deriving DecidableEq, Repr, Inhabited

/-- When two texts are the same: byte by byte, without regard to the case of ASCII letters, or
    without regard to trailing spaces. -/
inductive Collation where
  | binary | nocase | rtrim
deriving DecidableEq, Repr, Inhabited

namespace Affinity

/-- The affinity of a declared type, by the words it contains. -/
def ofType (type : String) : Affinity :=
  let lowered := Text.asciiLower type
  let has (word : String) : Bool := Text.occursIn word.toList lowered.toList
  if has "int" then .integer
  else if has "char" || has "clob" || has "text" then .text
  else if has "blob" then .blob
  else if has "real" || has "floa" || has "doub" then .real
  else .numeric

/-- Whether a column makes numbers of texts. -/
def isNumeric : Affinity → Bool
  | .numeric | .integer | .real => true
  | _ => false

end Affinity

namespace Cell

/-- An integer. -/
def int (n : Int) : Cell := .number (.int n)

def ofString (s : String) : Cell := .text (Bytes.ofString s)

def isNull : Cell → Bool
  | .null => true
  | _ => false

/-! ## Integers and real numbers -/

def leastInteger : Int := -(twoPow 63 : Int)

def greatestInteger : Int := (twoPow 63 : Int) - 1

def fits (n : Int) : Bool := leastInteger ≤ n && n ≤ greatestInteger

/-- The integer that is stored and nearest to a given one. -/
def clamp (n : Int) : Int := max leastInteger (min n greatestInteger)

/-- A number as a floating-point value.  Large integers lose digits there. -/
def asReal : Number → Number
  | .int n => .ofSteps (decide (n < 0)) (Binary64.nearestSteps (n.natAbs * twoPow 1074) 1)
  | n => n

/-- The whole part of a number, or the integer that is stored and nearest to it. -/
def wholePart : Number → Int
  | .int n => n
  | .binary x => clamp (x.signedSteps.tdiv (twoPow 1074 : Int))
  | .infinite negative => if negative then leastInteger else greatestInteger

/-- The integer that a floating-point value equals, if it is one. -/
def integral? (n : Number) : Option Int :=
  let i := wholePart n
  if n.same (.int i) && i != leastInteger && i != greatestInteger then some i else none

def asInteger (n : Number) : Number :=
  match integral? n with
  | some i => .int i
  | none => n

/-- The integer that a floating-point value equals, if it is one of 52 bits. -/
def smallIntegral? (n : Number) : Option Int :=
  (integral? n).filter fun i => -(twoPow 51 : Int) ≤ i && i < (twoPow 51 : Int)

/-! ## Texts that write numbers -/

/-- The number that all of a text writes, apart from blanks at its ends, with a point or an exponent
    or without. -/
def wholeNumber? (bs : Bytes) : Option Number :=
  match NumberText.read bs with
  | (n, .integer) =>
    match smallIntegral? n with
    | some i => some (.int i)
    | none =>
      let (i, stored) := NumberText.integer bs
      some (if stored then .int i else n)
  | (n, .real) => some n
  | _ => none

/-- The number that a text starts with, or zero, as an integer if it is written as one. -/
def leadingNumber (bs : Bytes) : Number :=
  let (n, extent) := NumberText.read bs
  let (i, stored) := NumberText.integer bs
  match extent with
  | .integer | .other => if stored then .int i else n
  | .real | .start => n

/-- The number that a text starts with, or zero, as an integer if it equals one. -/
def castNumber (bs : Bytes) : Number :=
  let (n, extent) := NumberText.read bs
  let (i, stored) := NumberText.integer bs
  if (extent == .integer || extent == .other) && stored then .int i
  else match smallIntegral? n with
    | some i => .int i
    | none => n

/-! ## What a value is taken for -/

def real : Cell → Number
  | .number n => asReal n
  | .text bs | .blob bs => (NumberText.read bs).1
  | .null => .binary ⟨false, 0⟩

def integer : Cell → Int
  | .number n => wholePart n
  | .text bs | .blob bs => (NumberText.integer bs).1
  | .null => 0

def numeric : Cell → Number
  | .number n => n
  | .text bs | .blob bs => leadingNumber bs
  | .null => .int 0

/-- The truth of a value, unknown for null. -/
def truth? : Cell → Option Bool
  | .null => none
  | .number n => some (!n.same (.int 0))
  | c => some (!c.real.same (.int 0))

/-- The value that stands for a truth. -/
def ofTruth : Option Bool → Cell
  | none => .null
  | some b => int (if b then 1 else 0)

/-- The bytes of a value's text, unless it is null. -/
def bytes? : Cell → Option Bytes
  | .null => none
  | .number n => some (Bytes.ofString (NumberText.write n))
  | .text bs | .blob bs => some bs

end Cell

/-- A value as a column of an affinity stores it. -/
def Affinity.apply : Affinity → Cell → Cell
  | .text, .number n => .ofString (NumberText.write n)
  | .numeric, .text bs | .integer, .text bs => match Cell.wholeNumber? bs with
    | some n => .number (Cell.asInteger n)
    | none => .text bs
  | .real, .text bs => match Cell.wholeNumber? bs with
    | some n => .number (Cell.asReal n)
    | none => .text bs
  | .numeric, .number n | .integer, .number n => .number (Cell.asInteger n)
  | .real, .number n => .number (Cell.asReal n)
  | _, c => c

/-- A value as a number, if it is one or a text that writes one. -/
def Cell.number? : Cell → Option Number
  | .number n => some n
  | .text bs => Cell.wholeNumber? bs
  | _ => none

/-! ## Comparison -/

namespace Bytes

/-- The order of bytes, by the first that differ, or by their number. -/
def compare (a b : Bytes) : Ordering :=
  if a.less b then .lt else if b.less a then .gt else .eq

/-- The order of bytes without regard to the case of ASCII letters, up to the first zero, and then
    by their number. -/
def compareNoCase (a b : Bytes) : Ordering :=
  let n := min a.length b.length
  let part (bs : Bytes) : Bytes := (visible (bs.take n)).map lower
  match Bytes.compare (part a) (part b) with
  | .eq => Ord.compare a.length b.length
  | o => o

/-- Bytes without the spaces at their end. -/
def trimSpaces (bs : Bytes) : Bytes := (bs.reverse.dropWhile (· == 32)).reverse

end Bytes

namespace Collation

def ofName? (name : String) : Option Collation :=
  match Text.asciiLower name with
  | "binary" => some .binary
  | "nocase" => some .nocase
  | "rtrim" => some .rtrim
  | _ => none

def compare : Collation → Bytes → Bytes → Ordering
  | .binary, a, b => Bytes.compare a b
  | .nocase, a, b => Bytes.compareNoCase a b
  | .rtrim, a, b => Bytes.compare (Bytes.trimSpaces a) (Bytes.trimSpaces b)

end Collation

namespace Cell

/-- How early a value is in the order of kinds. -/
def rank : Cell → Nat
  | .null => 0
  | .number _ => 1
  | .text _ => 2
  | .blob _ => 3

/-- The order of two values: by kind, then by number, text or bytes. -/
def compare (c : Collation) : Cell → Cell → Ordering
  | .number m, .number n => if m.lt n then .lt else if n.lt m then .gt else .eq
  | .text s, .text t => c.compare s t
  | .blob s, .blob t => Bytes.compare s t
  | a, b => Ord.compare a.rank b.rank

/-- Whether two values are the same to a unique index.  Null is the same as nothing. -/
def same (c : Collation) (a b : Cell) : Bool := !a.isNull && a.compare c b == .eq

end Cell

end Accrete
