import Accrete.Database.Place

/-!
# Faults of expressions

What an expression cannot contain.

* `ExpressionFault`          -- the reasons, some of which come up only when a row is inserted
* `ExpressionFault.message`  -- the wording
-/

namespace Accrete

/-- What an expression cannot contain. -/
inductive ExpressionFault where
  | noSuchColumn (name : String)
  | noSuchFunction (name : String)
  | argumentCount (function : String)
  /-- A function of many rows or of a window of rows. -/
  | misused (window : Bool) (function : String)
  | noWindow (function : String)
  | noFilter (function : String)
  /-- A hint at how likely something is lacks a constant share. -/
  | likelihood (function : String)
  /-- A column is named with its table. -/
  | dot (place : Place)
  | subquery (place : Place)
  | parameter (place : Place)
  /-- The value of a function depends on more than its arguments. -/
  | unsteady (place : Place)
  /-- Several values stand for one, or for another number of them. -/
  | row
  | raise
  /-- A hexadecimal number has more than 64 bits. -/
  | tooLarge (number : String)
  | unknownFunction (name : String)
  | unsafeFunction (name : String)
  | noSuchCollation (name : String)
  /-- Computed columns depend on each other in a circle. -/
  | loop (column : String)
deriving DecidableEq, Repr

/-- The wording of what an expression cannot contain. -/
def ExpressionFault.message : ExpressionFault → String
  | .noSuchColumn name => "no such column: " ++ name
  | .noSuchFunction name => "no such function: " ++ name
  | .argumentCount function => "wrong number of arguments to function " ++ function ++ "()"
  | .misused window function =>
    "misuse of " ++ (if window then "window" else "aggregate") ++ " function " ++ function ++ "()"
  | .noWindow function => function ++ "() may not be used as a window function"
  | .noFilter function => "FILTER may not be used with non-aggregate " ++ function ++ "()"
  | .likelihood function =>
    "second argument to " ++ function ++ "() must be a constant between 0.0 and 1.0"
  | .dot place => "the \".\" operator prohibited in " ++ place.plural
  | .subquery place => "subqueries prohibited in " ++ place.plural
  | .parameter place => "parameters prohibited in " ++ place.plural
  | .unsteady place => "non-deterministic functions prohibited in " ++ place.plural
  | .row => "row value misused"
  | .raise => "RAISE() may only be used within a trigger-program"
  | .tooLarge number => "hex literal too big: " ++ number
  | .unknownFunction name => "unknown function: " ++ name ++ "()"
  | .unsafeFunction name => "unsafe use of " ++ name ++ "()"
  | .noSuchCollation name => "no such collation sequence: " ++ name
  | .loop column => "generated column loop on \"" ++ column ++ "\""

end Accrete
