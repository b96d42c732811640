/-!
# Binary floating point

The finite values of the 64-bit binary format, each written as a whole number of the
format's smallest step, `2 ^ -1074`.  Every finite value is such a multiple, so
comparing two values is comparing two integers and no rounding is involved.

* `Binary64`            -- a sign and a magnitude counted in steps
* `Binary64.ofDecimal?` -- the value nearest to `digits * 10 ^ exponent`, ties to even
-/

namespace Accrete

def twoPow (n : Nat) : Nat := Nat.pow 2 n

def tenPow (n : Nat) : Nat := Nat.pow 10 n

/-- A finite 64-bit binary floating-point value: a sign, and a magnitude in steps of
    `2 ^ -1074`.  The sign is kept apart because zero has one. -/
structure Binary64 where
  negative : Bool
  steps : Nat
deriving DecidableEq, Repr, Inhabited

namespace Binary64

/-- The signed count of steps.  Both zeros have count `0`. -/
def signedSteps (x : Binary64) : Int :=
  if x.negative then -(x.steps : Int) else (x.steps : Int)

/-- How many low bits of a magnitude lie below the 53 bits that a value keeps. -/
def excessBits (steps : Nat) : Nat := (Nat.log2 steps + 1) - 53

/-- The quotient of two naturals rounded to the nearest integer, a half to the even one. -/
def roundHalfEven (num den : Nat) : Nat :=
  let q := num / den
  let twice := 2 * (num % den)
  if twice < den then q
  else if den < twice then q + 1
  else if q % 2 = 0 then q else q + 1

/-- One more than the largest finite magnitude. -/
def overflowSteps : Nat := twoPow 2098

/-- The magnitude nearest to `num / den` steps, keeping 53 bits. -/
def nearestSteps (num den : Nat) : Nat :=
  let excess := excessBits (num / den)
  roundHalfEven num (den * twoPow excess) * twoPow excess

/-- How many decimal digits a natural has; `0` has none. -/
def decimalLength (n : Nat) : Nat :=
  if h : n = 0 then 0 else decimalLength (n / 10) + 1
termination_by n
decreasing_by omega

/-- The value nearest to `digits * 10 ^ exponent`, or `none` when it is too large to be
    finite.  Exponents far outside the format's range are settled by the number of digits
    alone, so that no huge power is ever computed. -/
def ofDecimal? (negative : Bool) (digits : Nat) (exponent : Int) : Option Binary64 :=
  let reach : Int := (decimalLength digits : Int) + exponent
  if digits = 0 ∨ reach < -400 then some ⟨negative, 0⟩
  else if 400 < reach then none
  else
    let num := digits * tenPow exponent.toNat * twoPow 1074
    let den := tenPow (-exponent).toNat
    let steps := nearestSteps num den
    if steps < overflowSteps then some ⟨negative, steps⟩ else none

end Binary64

end Accrete
