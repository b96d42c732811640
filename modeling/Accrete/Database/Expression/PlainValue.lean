import Accrete.Database.Expression

/-!
# Plain values

The values of expressions that are known without evaluating them: literals, with signs and casts.
Rows that are there when a column is added take such a value from its default.

* `Cell.numerified`        -- the number that a value is taken for
* `Cell.opposite`          -- its opposite
* `Expression.plainValue?` -- the value of an expression as a column of an affinity stores it
-/

namespace Accrete

namespace Cell

/-- The number that a value is taken for, unless it is null. -/
def numerified : Cell → Cell
  | .text bs | .blob bs => .number (castNumber bs)
  | c => c

def opposite (c : Cell) : Cell :=
  match c.numerified with
  | .number (.int n) => .number (if fits (-n) then .int (-n) else (asReal (.int n)).opposite)
  | .number n => .number n.opposite
  | c => c

end Cell

namespace Expression

/-- A number as it is written, as a column of an affinity stores it. -/
def numberFor (affinity : Affinity) (c : Cell) : Cell :=
  (if affinity = .blob then Affinity.numeric else affinity).apply c

/-- What hexadecimal digits stand for: a short number, or else nothing but their text. -/
def hexCell (negative : Bool) (source : String) : Cell :=
  let n := hexValue source
  if n ≤ shortLimit then .int (if negative then -(n : Int) else n)
  else .ofString ((if negative then "-" else "") ++ source)

/-- The value of an expression, as a column of an affinity stores it, if it is known without
    evaluating the expression. -/
def plainValue? (affinity : Affinity) : Expression → Option Cell
  | .literal (.number n) => some (numberFor affinity (.number n))
  | .literal c => some (affinity.apply c)
  | .integer n => some (numberFor affinity (.number (ofNat n)))
  | .hexadecimal source => some (numberFor affinity (hexCell false source))
  | .truth b => some (.int (if b then 1 else 0))
  | .column name .plain => (truthOf? name).map fun b => .int (if b then 1 else 0)
  | .unary .plus e => e.plainValue? affinity
  | .unary (.cast type) e =>
    let own := Affinity.ofType type
    (e.plainValue? own).map fun c => affinity.apply (c.castTo own)
  | .unary .negate e => match e with
    | .literal (.number n) => some (numberFor affinity (.number n.opposite))
    | .integer n => some (numberFor affinity (.number (ofOpposite n)))
    | .hexadecimal source => some (numberFor affinity (hexCell true source))
    | e => (e.plainValue? affinity).map fun c => affinity.apply c.opposite
  | _ => none

end Expression

end Accrete
