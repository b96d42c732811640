import Accrete.Database.Cell.Arithmetic
import Accrete.Database.CallFault

/-!
# Routines on numbers

* `Number.toFloat`, `Number.ofFloat?` -- real numbers as the machine holds them
* `Cell.absolute`, `Cell.rounded`, `Cell.sign` -- sizes and signs
* `Cell.wholeBy`     -- whole numbers near a real one
* `Cell.onReal`, `Cell.onReals` -- functions of real numbers
* `Cell.logarithm`   -- logarithms to several bases

A value that writes no number has null as its result, and so has a result that is no number.
-/

namespace Accrete

namespace Number

/-! ## Real numbers of the machine -/

def bitsOf (steps : Nat) : Nat :=
  let excess := Binary64.excessBits steps
  if steps < twoPow 52 then steps else (excess + 1) * twoPow 52 + (steps / twoPow excess - twoPow 52)

/-- A number as the machine holds it. -/
def toFloat (n : Number) : Float :=
  match Cell.asReal n with
  | .binary x => .ofBits (UInt64.ofNat (bitsOf x.steps + if x.negative then twoPow 63 else 0))
  | .infinite negative => if negative then -1.0 / 0.0 else 1.0 / 0.0
  | .int _ => 0.0

/-- What the machine holds as a number, unless it is none. -/
def ofFloat? (x : Float) : Option Number :=
  if x != x then none
  else
    let bits := x.toBits.toNat
    let negative := twoPow 63 ≤ bits
    let exponent := bits / twoPow 52 % 2048
    let part := bits % twoPow 52
    if exponent = 2047 then some (.infinite negative)
    else if exponent = 0 then some (.binary ⟨negative, part⟩)
    else some (.binary ⟨negative, (twoPow 52 + part) * twoPow (exponent - 1)⟩)

/-! ## Whole numbers -/

/-- How a real number is made whole. -/
inductive Rounding where
  | down | up | towardZero
deriving DecidableEq, Repr

/-- The whole number near a real one.  Zero keeps the sign of the number. -/
def whole (r : Rounding) : Number → Number
  | .binary x =>
    let one : Nat := twoPow 1074
    let least := x.steps / one
    let away := match r with
      | .down => x.negative
      | .up => !x.negative
      | .towardZero => false
    .binary ⟨x.negative, (if away && x.steps % one != 0 then least + 1 else least) * one⟩
  | n => n

end Number

namespace Cell

def absolute : Cell → Except CallFault Cell
  | .null => .ok .null
  | .number (.int n) => if fits n.natAbs then .ok (int n.natAbs) else .error .integerOverflow
  | c =>
    let r := c.real
    .ok (.number (if r.lt (.int 0) then r.opposite else r))

def sign (c : Cell) : Cell :=
  match c.number? with
  | some n => int (if n.lt (.int 0) then -1 else if Number.lt (.int 0) n then 1 else 0)
  | none => .null

def wholeLimit : Number := asReal (.int (twoPow 52))

/-- A real number with some places after its point. -/
def roundedTo (places : Nat) (r : Number) : Number :=
  if wholeLimit.lt r || r.lt wholeLimit.opposite then r
  else if places = 0 then
    let half : Number := .ofSteps (r.lt (.int 0)) (twoPow 1073)
    asReal (.int (wholePart ((r.plus? half).getD r)))
  else
    (NumberText.read (Bytes.ofString
      (NumberText.writeReal ⟨.fixed, places, false, true, 'e', false⟩ r))).1

/-- A value as a real number with some places after its point, none if that is not stated. -/
def rounded (c : Cell) (places : Option Cell) : Cell :=
  if c.isNull || places.any isNull then .null
  else
    let n := ((places.map fun p => (BitVec.ofInt 32 p.integer).toInt).getD 0)
    .number (roundedTo (min 30 n.toNat) c.real)

/-- The whole number near a value.  An integer is kept. -/
def wholeBy (r : Number.Rounding) (c : Cell) : Cell :=
  match c.number? with
  | some (.int n) => int n
  | some n => .number (n.whole r)
  | none => .null

/-! ## Functions of real numbers -/

/-- What the machine holds, null if that is no number. -/
def ofFloat (x : Float) : Cell := ofNumber? (Number.ofFloat? x)

/-- A function of a real number. -/
def onReal (f : Float → Float) (c : Cell) : Cell :=
  match c.number? with
  | some n => ofFloat (f n.toFloat)
  | none => .null

def onReals (f : Float → Float → Float) (a b : Cell) : Cell :=
  match a.number?, b.number? with
  | some m, some n => ofFloat (f m.toFloat n.toFloat)
  | _, _ => .null

/-- The remainder of a division of real numbers that is cut off, with the sign of the first. -/
def modulo (a b : Cell) : Cell :=
  match a.number?.map asReal, b.number?.map asReal with
  | some (.infinite _), some _ => .null
  | some m, some (.infinite _) => .number m
  | some (.binary x), some (.binary y) =>
    if y.steps = 0 then .null else .number (.binary ⟨x.negative, x.steps % y.steps⟩)
  | _, _ => .null

def pi : Float := .ofBits 0x400921fb54442d18

def lnTen : Float := .ofBits 0x40026bb1bbb55516

def lnTwo : Float := .ofBits 0x3fe62e42fefa39ef

/-- The logarithm of a positive number, given the natural logarithm of its base. -/
def logarithm (base : Option Float) (c : Cell) : Cell :=
  match c.number? with
  | none => .null
  | some n =>
    if Number.lt (.int 0) n then
      let x := n.toFloat.log
      ofFloat (match base with
        | some b => x / b
        | none => x)
    else .null

/-- The logarithm of a positive number to a base above one. -/
def logarithmTo (base c : Cell) : Cell :=
  match base.number? with
  | none => .null
  | some b =>
    if Number.lt (.int 0) b then
      let b := b.toFloat.log
      let x := c.real
      if b <= 0.0 || !Number.lt (.int 0) x then .null else ofFloat (x.toFloat.log / b)
    else .null

end Cell

end Accrete
