import Accrete.Number.Shortest

/-!
# Numbers

The numbers that declarations carry: integers of any size, binary floating-point values, and
the two infinities.  Creation orders are such numbers.

* `Number.position` -- where a number lies on the line; numbers are compared by it
* `Number.text`     -- its decimal text

Two numbers of equal position may still be written differently: the integer one and the
floating-point one compare equal and print as `1` and `1.0`.
-/

namespace Accrete

/-- An integer, a finite floating-point value, or an infinity. -/
inductive Number where
  | int (value : Int)
  | binary (value : Binary64)
  | infinite (negative : Bool)
deriving DecidableEq, Repr, Inhabited

namespace Number

/-- Where a number lies: the first component is `-1` and `1` for the infinities, and the
    second counts steps of `2 ^ -1074` for the rest. -/
def position : Number → Int × Int
  | .int n => (0, n * (twoPow 1074 : Int))
  | .binary x => (0, x.signedSteps)
  | .infinite true => (-1, 0)
  | .infinite false => (1, 0)

/-- Strictly smaller on the line. -/
def lt (a b : Number) : Bool :=
  a.position.1 < b.position.1 ||
    (a.position.1 == b.position.1 && a.position.2 < b.position.2)

/-- Equal on the line, whatever the spelling. -/
def same (a b : Number) : Bool := a.position == b.position

/-- The smaller of two numbers; of two equal ones the first. -/
def min (a b : Number) : Number := if b.lt a then b else a

def text : Number → String
  | .int n => toString n
  | .binary x => x.text
  | .infinite true => "-inf"
  | .infinite false => "inf"

/-- Positive infinity, the order of a table that states none. -/
def infinity : Number := .infinite false

end Number

end Accrete
