import Accrete.Database.Cell

/-!
# Arithmetic

What operators and casts make of values.

* `Number.plus`, `Number.minus`, `Number.times`, `Number.over` -- rounded arithmetic
* `Cell.add` and the like    -- arithmetic on whatever values there are
* `Cell.bitAnd` and the like -- operations on the bits of integers
* `Cell.castTo`              -- a value that is of a type by force

Integers are added, subtracted, multiplied and divided as integers as long as the result has 64
bits.  A result that is no number is null.
-/

namespace Accrete

namespace Number

/-- A floating-point value as a count of steps of `2 ^ -1074`, unless it is infinite. -/
def steps? : Number → Option Int
  | .int n => some (n * (twoPow 1074 : Int))
  | .binary x => some x.signedSteps
  | .infinite _ => none

def hasSign : Number → Bool
  | .int n => n < 0
  | .binary x => x.negative
  | .infinite negative => negative

def opposite : Number → Number
  | .int n => .int (-n)
  | .binary x => .binary { x with negative := !x.negative }
  | .infinite negative => .infinite !negative

/-- The floating-point value nearest to a quotient of steps, with a sign for zero. -/
def ofQuotient (zeroSign : Bool) (num : Int) (den : Nat) : Number :=
  .ofSteps (if num = 0 then zeroSign else decide (num < 0)) (Binary64.nearestSteps num.natAbs den)

/-- The rounded sum of two floating-point values, unless it is no number. -/
def plus? (a b : Number) : Option Number :=
  match a.steps?, b.steps? with
  | some x, some y => some (ofQuotient (a.hasSign && b.hasSign) (x + y) 1)
  | none, none => if a.hasSign == b.hasSign then some a else none
  | none, some _ => some a
  | some _, none => some b

/-- The rounded difference of two floating-point values, unless it is no number. -/
def minus? (a b : Number) : Option Number := a.plus? b.opposite

/-- The rounded product of two floating-point values, unless it is no number. -/
def times? (a b : Number) : Option Number :=
  let negative := a.hasSign != b.hasSign
  match a.steps?, b.steps? with
  | some x, some y => some (ofQuotient negative (x * y) (twoPow 1074))
  | none, some 0 | some 0, none => none
  | _, _ => some (.infinite negative)

/-- The rounded quotient of two floating-point values, unless it is no number or the second is
    zero. -/
def over? (a b : Number) : Option Number :=
  let negative := a.hasSign != b.hasSign
  match a.steps?, b.steps? with
  | _, some 0 => none
  | some x, some y => some (ofQuotient negative (x * y.sign * (twoPow 1074 : Int)) y.natAbs)
  | none, some _ => some (.infinite negative)
  | some _, none => some (.binary ⟨negative, 0⟩)
  | none, none => none

end Number

namespace Cell

/-- A number, or null if there is none. -/
def ofNumber? : Option Number → Cell
  | some n => .number n
  | none => .null

/-! ## Arithmetic -/

/-- An operation on numbers: on integers if both are and the result fits, and on floating-point
    values otherwise. -/
def arithmetic (onIntegers : Int → Int → Option Int) (onReals : Number → Number → Option Number)
    (a b : Cell) : Cell :=
  if a.isNull || b.isNull then .null
  else match a.numeric, b.numeric with
    | .int m, .int n => match onIntegers m n with
      | none => .null
      | some k => if fits k then int k else ofNumber? (onReals (asReal (.int m)) (asReal (.int n)))
    | _, _ => ofNumber? (onReals a.real b.real)

def add : Cell → Cell → Cell := arithmetic (fun m n => some (m + n)) Number.plus?

def subtract : Cell → Cell → Cell := arithmetic (fun m n => some (m - n)) Number.minus?

def multiply : Cell → Cell → Cell := arithmetic (fun m n => some (m * n)) Number.times?

/-- The quotient of two values, null when the second is zero.  That of integers is cut off. -/
def divide : Cell → Cell → Cell :=
  arithmetic (fun m n => if n = 0 then none else some (m.tdiv n)) Number.over?

/-- The remainder of two values as integers, as a floating-point value unless both are
    integers. -/
def remainder (a b : Cell) : Cell :=
  arithmetic (fun m n => if n = 0 then none else some (m.tmod n)) (fun _ _ =>
    if b.integer = 0 then none else some (asReal (.int (a.integer.tmod b.integer)))) a b

def negate (a : Cell) : Cell := (int 0).subtract a

/-! ## Bits -/

def bits (n : Int) : BitVec 64 := BitVec.ofInt 64 n

def onIntegers (op : Int → Int → Int) (a b : Cell) : Cell :=
  if a.isNull || b.isNull then .null else int (op a.integer b.integer)

def bitAnd : Cell → Cell → Cell := onIntegers fun m n => (bits m &&& bits n).toInt

def bitOr : Cell → Cell → Cell := onIntegers fun m n => (bits m ||| bits n).toInt

def bitNot (a : Cell) : Cell := onIntegers (fun m _ => -m - 1) a a

/-- An integer moved by a number of bits to the left; a negative number moves it to the right. -/
def shift (n distance : Int) : Int :=
  if 0 ≤ distance then (if 64 ≤ distance then 0 else (bits n <<< distance.toNat).toInt)
  else if distance ≤ -64 then (if n < 0 then -1 else 0)
  else ((bits n).sshiftRight (-distance).toNat).toInt

def shiftLeft : Cell → Cell → Cell := onIntegers shift

def shiftRight : Cell → Cell → Cell := onIntegers fun m n => shift m (-n)

/-! ## Texts -/

/-- The greatest number of bytes that a value has. -/
def sizeLimit : Nat := 1000000000

/-- The truth of the opposite of a value. -/
def not (a : Cell) : Cell := ofTruth (a.truth?.map (!·))

/-- A value that is of a type by force. -/
def castTo (affinity : Affinity) (c : Cell) : Cell :=
  if c.isNull then .null
  else match affinity, c with
    | .text, c => (c.bytes?.map Cell.text).getD .null
    | .blob, c => (c.bytes?.map Cell.blob).getD .null
    | .integer, c => int c.integer
    | .real, c => .number c.real
    | .numeric, .text bs | .numeric, .blob bs => .number (castNumber bs)
    | .numeric, c => c

end Cell

end Accrete
