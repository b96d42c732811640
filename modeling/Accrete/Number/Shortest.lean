import Accrete.Number.Binary64

/-!
# Shortest decimals

The fewest decimal digits that read back as a given binary value.

* `Shortest.ofSteps`      -- digits and exponent of the shortest decimal of a magnitude
* `Shortest.render`       -- its text: positional notation for exponents from `-4` to `15`,
                             scientific notation outside that range
* `Binary64.text`         -- the text of a value, always with a point or an exponent

A decimal reads back as the value exactly if it lies in the interval of reals that round to
the value.  If that interval holds a point of a decimal grid, it holds one of the value's two
neighbours on the grid, so only these two are tried on each grid.
-/

namespace Accrete.Shortest

/-- A decimal `digits * 10 ^ exponent`. -/
structure Decimal where
  digits : Nat
  exponent : Int
deriving DecidableEq, Repr

/-- Whether `digits * 10 ^ exponent` rounds to the given magnitude.  All bounds are counted in
    quarters of a step; the lower half-gap is narrower at a power of two, and the ends belong
    to the interval when the kept bits are even. -/
def readsBack (steps : Nat) (d : Decimal) : Bool :=
  let excess := Binary64.excessBits steps
  let kept := steps / twoPow excess
  let gap := twoPow excess
  let below := if kept = twoPow 52 ∧ 0 < excess then gap else 2 * gap
  let num := d.digits * tenPow d.exponent.toNat * twoPow 1076
  let den := tenPow (-d.exponent).toNat
  let low := (4 * steps - below) * den
  let high := (4 * steps + 2 * gap) * den
  if kept % 2 = 0 then low ≤ num && num ≤ high else low < num && num < high

/-- The grid neighbours of a magnitude at a decimal exponent: the largest multiple not above
    it and the next one. -/
def neighbours (steps : Nat) (exponent : Int) : Decimal × Decimal :=
  let num := steps * tenPow (-exponent).toNat
  let den := twoPow 1074 * tenPow exponent.toNat
  let floor := num / den
  (⟨floor, exponent⟩, ⟨floor + 1, exponent⟩)

/-- Whether the lower neighbour is at least as near to the magnitude as the upper one; an
    exact tie goes to the even digit. -/
def lowerIsNearer (steps : Nat) (exponent : Int) : Bool :=
  let num := steps * tenPow (-exponent).toNat
  let den := twoPow 1074 * tenPow exponent.toNat
  let twice := 2 * (num % den)
  twice < den || (twice == den && (num / den) % 2 == 0)

/-- The best decimal of a magnitude on one grid, if one of the two neighbours reads back. -/
def onGrid? (steps : Nat) (exponent : Int) : Option Decimal :=
  let (lower, upper) := neighbours steps exponent
  match readsBack steps lower, readsBack steps upper with
  | true, true => some (if lowerIsNearer steps exponent then lower else upper)
  | true, false => some lower
  | false, true => some upper
  | false, false => none

/-- The decimal exponent of the leading digit of a positive magnitude. -/
def leadingExponent (steps : Nat) : Int :=
  (Binary64.decimalLength (steps * tenPow 400 / twoPow 1074) : Int) - 401

/-- The first grid with a hit, from one digit to seventeen. -/
def ofSteps (steps : Nat) : Decimal :=
  let top := leadingExponent steps
  -- Seventeen digits are enough to tell a value from all others.
  let grids := (List.range 17).map fun (n : Nat) => top - (n : Int)
  (grids.findSome? (onGrid? steps)).getD (neighbours steps (top - 16)).1

/-- The digits of a decimal without trailing zeros, and the exponent of the leading one. -/
def scientific (d : Decimal) : List Char × Int :=
  let all := Nat.toDigits 10 d.digits
  let kept := (all.reverse.dropWhile (· == '0')).reverse
  (kept, d.exponent + (all.length : Int) - 1)

/-- The text of an exponent: a sign and at least two digits. -/
def exponentText (e : Int) : String :=
  let digits := toString e.natAbs
  (if e < 0 then "-" else "+") ++ (if digits.length < 2 then "0" ++ digits else digits)

/-- The text of a decimal.  Positional notation has digits on both sides of the point. -/
def render (d : Decimal) : String :=
  let (digits, e) := scientific d
  if -4 ≤ e ∧ e < 16 then
    if e < 0 then
      "0." ++ String.ofList (List.replicate ((-e).toNat - 1) '0' ++ digits)
    else
      let whole := e.toNat + 1
      let before := digits.take whole ++ List.replicate (whole - digits.length) '0'
      let after := digits.drop whole
      String.ofList before ++ "." ++ (if after.isEmpty then "0" else String.ofList after)
  else
    match digits with
    | [] => "0.0"
    | [c] => String.ofList [c] ++ "e" ++ exponentText e
    | c :: rest => String.ofList (c :: '.' :: rest) ++ "e" ++ exponentText e

end Accrete.Shortest

namespace Accrete.Binary64

/-- The text of a value: the fewest digits that read back as it. -/
def text (x : Binary64) : String :=
  let magnitude := if x.steps = 0 then "0.0" else Shortest.render (Shortest.ofSteps x.steps)
  if x.negative then "-" ++ magnitude else magnitude

end Accrete.Binary64
