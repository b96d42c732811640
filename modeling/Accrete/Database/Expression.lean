import Accrete.Database.Cell.Arithmetic

/-!
# Expressions of SQL

What defaults, checks and generated columns are made of.

* `Expression`              -- a literal, a column, or something made of expressions
* `Expression.isConstant`   -- whether an expression may be a default
* `Expression.isFixed`      -- whether an expression is the same in every row and without functions
* `Expression.plainTruth?`  -- the truth of an expression that is known without a row
* `Expression.names`        -- the columns that an expression reads
* `Expression.height`       -- how deep an expression is nested
-/

namespace Accrete

/-- What is done with one value. -/
inductive UnaryOperator where
  | negate | plus | bitNot | not | isNull | notNull
  | cast (type : String)
  | collate (name : String)
deriving DecidableEq, Repr

/-- What is made of two values. -/
inductive BinaryOperator where
  | and | or
  | bitAnd | bitOr | shiftLeft | shiftRight
  | add | subtract | multiply | divide | remainder | concat
deriving DecidableEq, Repr

/-- How two values are compared. -/
inductive Comparison where
  | equal | notEqual | less | lessEqual | greater | greaterEqual
  /-- The same, null among the values. -/
  | is
  | isNot
deriving DecidableEq, Repr

/-- What follows the arguments of a call. -/
inductive CallTail where
  | plain
  /-- A condition on the rows that are counted. -/
  | filtered
  | windowed
deriving DecidableEq, Repr

/-- How a name is written. -/
inductive Quoting where
  | plain | marked | doubleQuoted
deriving DecidableEq, Repr

/-- An expression. -/
inductive Expression where
  /-- Null, a number with a point or an exponent, a text, or bytes. -/
  | literal (c : Cell)
  /-- A natural number in decimal digits. -/
  | integer (n : Nat)
  /-- A natural number in hexadecimal digits, as it is written. -/
  | hexadecimal (source : String)
  | truth (b : Bool)
  /-- A column, or a text if the name is between double quotes and no column has it. -/
  | column (name : String) (quoting : Quoting)
  /-- A column after the names of its table and maybe of its schema. -/
  | qualified (names : List String) (column : String)
  | parameter
  | subquery
  /-- A call for a stop. -/
  | raise
  | unary (op : UnaryOperator) (e : Expression)
  | binary (op : BinaryOperator) (a b : Expression)
  | compare (op : Comparison) (a b : Expression)
  | between (e low high : Expression)
  | member (e : Expression) (items : List Expression)
  /-- Conditions and values that take turns, and maybe a last value. -/
  | choice (items : List Expression)
  /-- The same, with values that are compared with another one as conditions. -/
  | choiceOf (e : Expression) (items : List Expression)
  | call (name : String) (args : List Expression) (tail : CallTail)
  /-- Several values at once, which no column holds. -/
  | row (items : List Expression)
deriving Repr, Inhabited

namespace Expression

/-- The truth that a name without marks stands for. -/
def truthOf? (name : String) : Option Bool :=
  match Text.asciiLower name with
  | "true" => some true
  | "false" => some false
  | _ => none

/-- The truth that an expression stands for by a name without marks, if it is such a name. -/
def namedTruth? : Expression → Option Bool
  | .truth b => some b
  | .column name .plain => truthOf? name
  | _ => none

/-- The names that stand for the key of a row where no column has them. -/
def keyNames : List String := ["rowid", "oid", "_rowid_"]

/-! ## Numbers -/

def hexValue (source : String) : Nat :=
  (source.toList.drop 2).foldl (fun n c =>
    16 * n + (if c.isDigit then c.toNat - 48 else c.toLower.toNat - 87)) 0

/-- Whether hexadecimal digits write more than 64 bits. -/
def isTooLong (source : String) : Bool :=
  16 < ((source.toList.drop 2).dropWhile (· == '0')).length

/-- The integer of 64 bits that hexadecimal digits write. -/
def hexInteger (source : String) : Int := (BitVec.ofNat 64 (hexValue source)).toInt

/-- A natural number, as an integer if it has 64 bits. -/
def ofNat (n : Nat) : Number :=
  if Cell.fits n then .int n else (NumberText.read (Bytes.ofString (toString n))).1

/-- The opposite of a natural number, as an integer if it has 64 bits. -/
def ofOpposite (n : Nat) : Number :=
  if Cell.fits (-(n : Int)) then .int (-(n : Int)) else (ofNat n).opposite

/-! ## What is known without a row -/

/-- The greatest integer of 32 bits. -/
def shortLimit : Nat := 2147483647

/-- The truth of an expression that is known without a row: that of a short number, or of a word
    for a truth unless that is hidden by a column. -/
def plainTruth? (hidden : String → Bool) : Expression → Option Bool
  | .integer n => if n ≤ shortLimit then some (n != 0) else none
  | .hexadecimal source =>
    let n := hexValue source
    if n ≤ shortLimit then some (n != 0) else none
  | .column name quoting => if hidden name then none else namedTruth? (.column name quoting)
  | .truth b => some b
  | _ => none

/-- Which parts of a conjunction or an alternative make a difference. -/
inductive Kept where
  | left | right | both
deriving DecidableEq, Repr

/-- Which parts of a conjunction, or of an alternative, make a difference, given what is known about
    the truth of both. -/
def kept (conjunction : Bool) (x y : Option Bool) : Kept :=
  if x = some true || y = some false then (if conjunction then .right else .left)
  else if y = some true || x = some false then (if conjunction then .left else .right)
  else .both

/-- An expression without what makes no difference to its truth in conjunctions and
    alternatives. -/
def simplified (hidden : String → Bool) : Expression → Expression
  | .binary op a b =>
    if op = .and || op = .or then
      let x := a.simplified hidden
      let y := b.simplified hidden
      match kept (op = .and) (x.plainTruth? hidden) (y.plainTruth? hidden) with
      | .left => x
      | .right => y
      | .both => .binary op a b
    else .binary op a b
  | e => e

def withoutCollations : Expression → Expression
  | .unary (.collate _) e => e.withoutCollations
  | e => e

/-- How many values an expression has. -/
def rowSize : Expression → Nat
  | .row items => items.length
  | _ => 1

mutual

/-- Whether an expression may be a default: it depends on no row. -/
def isConstant : Expression → Bool
  | .literal _ | .integer _ | .hexadecimal _ | .truth _ => true
  | .column name quoting => quoting == .plain && (truthOf? name).isSome
  | .qualified .. | .parameter | .subquery | .raise => false
  | .unary _ e => e.isConstant
  | .binary _ a b | .compare _ a b => a.isConstant && b.isConstant
  | .between e low high => e.isConstant && low.isConstant && high.isConstant
  | .member e items => e.isConstant && areConstant items
  | .choice items | .row items => areConstant items
  | .choiceOf e items => e.isConstant && areConstant items
  | .call _ args tail => tail == .plain && areConstant args

def areConstant : List Expression → Bool
  | [] => true
  | e :: rest => e.isConstant && areConstant rest

end

mutual

/-- Whether an expression is the same in every row, given which functions are. -/
def isFixed (steady : String → Nat → Bool) : Expression → Bool
  | .literal _ | .integer _ | .hexadecimal _ | .truth _ | .parameter => true
  | .column name quoting => quoting == .plain && (truthOf? name).isSome
  | .qualified .. | .subquery | .raise => false
  | .unary _ e => e.isFixed steady
  | .binary _ a b | .compare _ a b => a.isFixed steady && b.isFixed steady
  | .between e low high => e.isFixed steady && low.isFixed steady && high.isFixed steady
  | .member e items => e.isFixed steady && areFixed steady items
  | .choice items | .row items => areFixed steady items
  | .choiceOf e items => e.isFixed steady && areFixed steady items
  | .call name args tail => tail == .plain && steady name args.length && areFixed steady args

/-- Whether all expressions of a list are the same in every row. -/
def areFixed (steady : String → Nat → Bool) : List Expression → Bool
  | [] => true
  | e :: rest => e.isFixed steady && areFixed steady rest

end

mutual

/-- The names of columns that an expression reads, in order. -/
def names : Expression → List String
  | .column name _ => [name]
  | .qualified _ name => [name]
  | .unary _ e => e.names
  | .binary _ a b | .compare _ a b => a.names ++ b.names
  | .between e low high => e.names ++ low.names ++ high.names
  | .member e items | .choiceOf e items => e.names ++ allNames items
  | .choice items | .row items => allNames items
  | .call _ args _ => allNames args
  | _ => []

def allNames : List Expression → List String
  | [] => []
  | e :: rest => e.names ++ allNames rest

end

mutual

/-- How deep an expression is nested, as far as that is counted. -/
def height : Expression → Nat
  | .unary (.collate _) _ => 1
  | .unary _ e => e.height + 1
  | .binary _ a b | .compare _ a b => max a.height b.height + 1
  | .between e _ _ => e.height + 1
  | .member e items | .choiceOf e items => max e.height (greatestHeight items) + 1
  | .choice items => greatestHeight items + 1
  | .call _ args _ => greatestHeight args + 1
  | _ => 1

/-- How deep the deepest of several expressions is nested. -/
def greatestHeight : List Expression → Nat
  | [] => 0
  | e :: rest => max e.height (greatestHeight rest)

end

end Expression

end Accrete
