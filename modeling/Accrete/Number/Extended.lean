import Accrete.Number.Binary64

/-!
# Extended floating point

Magnitudes with 64 significant bits and exponents without bounds.  Long computations on
floating-point values are done with them, and only their results are rounded to 53 bits.

* `Extended`            -- `significand * 2 ^ exponent`
* `Extended.nearest`    -- the magnitude of some significant bits nearest to a quotient
* `Extended.steps`      -- the nearest finite magnitude of the 64-bit format
-/

namespace Accrete

/-- A magnitude `significand * 2 ^ exponent`. -/
structure Extended where
  significand : Nat
  exponent : Int
deriving Repr, Inhabited

namespace Extended

/-- The magnitude of `bits` significant bits that is nearest to `num / den`, a tie going to the
    even one. -/
def nearest (bits num den : Nat) : Extended :=
  if num = 0 then ⟨0, 0⟩
  else
    let guess : Int := (Nat.log2 num : Int) - (Nat.log2 den : Int) - (bits : Int)
    let scaled (e : Int) : Nat × Nat := (num * twoPow (-e).toNat, den * twoPow e.toNat)
    let (n, d) := scaled guess
    let e := if n / d < twoPow bits then guess else guess + 1
    let (n, d) := scaled e
    ⟨Binary64.roundHalfEven n d, e⟩

def quotient (x : Extended) : Nat × Nat :=
  (x.significand * twoPow x.exponent.toNat, twoPow (-x.exponent).toNat)

def ofNat (n : Nat) : Extended := nearest 64 n 1

/-- A power of ten as the 64-bit format holds it. -/
def ofTenPow (e : Int) : Extended := nearest 53 (tenPow e.toNat) (tenPow (-e).toNat)

def ofSteps (steps : Nat) : Extended := nearest 64 steps (twoPow 1074)

/-- A magnitude with 53 significant bits. -/
def narrow (x : Extended) : Extended := nearest 53 x.quotient.1 x.quotient.2

/-- The nearest finite magnitude of the 64-bit format, in steps of `2 ^ -1074`. -/
def steps (x : Extended) : Nat :=
  Binary64.nearestSteps (x.quotient.1 * twoPow 1074) x.quotient.2

/-- The rounded sum of two magnitudes. -/
def add (x y : Extended) : Extended :=
  let (a, b) := x.quotient
  let (c, d) := y.quotient
  nearest 64 (a * d + c * b) (b * d)

/-- The rounded difference of two magnitudes of which the first is not the smaller one. -/
def sub (x y : Extended) : Extended :=
  let (a, b) := x.quotient
  let (c, d) := y.quotient
  nearest 64 (a * d - c * b) (b * d)

/-- The rounded product of two magnitudes. -/
def mul (x y : Extended) : Extended :=
  let (a, b) := x.quotient
  let (c, d) := y.quotient
  nearest 64 (a * c) (b * d)

/-- The rounded quotient of two magnitudes of which the second is not zero. -/
def div (x y : Extended) : Extended :=
  let (a, b) := x.quotient
  let (c, d) := y.quotient
  nearest 64 (a * d) (b * c)

def le (x y : Extended) : Bool :=
  let (a, b) := x.quotient
  let (c, d) := y.quotient
  a * d ≤ c * b

/-- The greatest natural number that a magnitude reaches. -/
def floor (x : Extended) : Nat := x.quotient.1 / x.quotient.2

/-- A power of ten as repeated squaring computes it. -/
def tenPowFrom (square result : Extended) : Nat → Nat → Extended
  | 0, _ => result
  | bound + 1, e =>
    let result := if e % 2 = 1 then result.mul square else result
    if e / 2 = 0 then result else tenPowFrom (square.mul square) result bound (e / 2)

def squaredTenPow (e : Nat) : Extended := tenPowFrom (ofNat 10) (ofNat 1) (e + 1) e

end Extended

end Accrete
