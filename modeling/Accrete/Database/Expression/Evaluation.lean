import Accrete.Database.Expression.Preparation
import Accrete.Database.Routine.Call

/-!
# Evaluation

The value of an expression in a row.

* `Terms`                  -- how two values are compared
* `View`                   -- what the columns of a row hold, and the circumstances
* `Meaning`                -- the value and the truth of an expression, and its items one by one
* `Expression.meaning`     -- the meaning of an expression in a row
* `Expression.evaluate`, `Expression.holds` -- its value, and whether it is not false

Values are compared as the columns they come from compare them: a text beside a numeric column is
taken for the number it writes, and a number beside a text column for its text.  Where only the
truth of an expression is asked for, parts that make no difference to it are not evaluated.
-/

namespace Accrete

/-! ## Comparing values -/

/-- How two values are compared. -/
structure Terms where
  affinity : Affinity
  collation : Collation

namespace Terms

/-- The terms on which the values of two expressions are compared. -/
def between (s : Scope) (a b : Expression) : Terms :=
  ⟨a.affinityWith s b, Expression.known (a.collationWith? s b)⟩

/-- The terms on which a value is looked for among others. -/
def among (s : Scope) (e : Expression) : Terms :=
  ⟨(e.affinity? s).getD .blob, Expression.known (e.collation? s)⟩

/-- A value as it is compared. -/
def taken (t : Terms) (c : Cell) : Cell :=
  (if t.affinity.isNumeric then Affinity.numeric else t.affinity).apply c

/-- The order of two values, unknown if one is null. -/
def order? (t : Terms) (a b : Cell) : Option Ordering :=
  if a.isNull || b.isNull then none else some ((t.taken a).compare t.collation (t.taken b))

/-- Whether two values are the same, null among them. -/
def same (t : Terms) (a b : Cell) : Bool :=
  (a.isNull && b.isNull) || t.order? a b == some .eq

end Terms

namespace Comparison

def ofOrdering : Comparison → Ordering → Bool
  | .equal, o | .is, o => o == .eq
  | .notEqual, o | .isNot, o => o != .eq
  | .less, o => o == .lt
  | .lessEqual, o => o != .gt
  | .greater, o => o == .gt
  | .greaterEqual, o => o != .lt

/-- A comparison of two values, unknown if one is null. -/
def test (op : Comparison) (t : Terms) (a b : Cell) : Option Bool :=
  match op with
  | .is => some (t.same a b)
  | .isNot => some !(t.same a b)
  | op => (t.order? a b).map op.ofOrdering

/-- The comparison by which all but the last items of two rows decide. -/
def strict : Comparison → Comparison
  | .lessEqual => .less
  | .greaterEqual => .greater
  | op => op

end Comparison

namespace Truth

def both : Option Bool → Option Bool → Option Bool
  | some false, _ | _, some false => some false
  | some true, some true => some true
  | _, _ => none

def either : Option Bool → Option Bool → Option Bool
  | some true, _ | _, some true => some true
  | some false, some false => some false
  | _, _ => none

end Truth

/-! ## Meanings -/

/-- What the columns of a row hold, and the circumstances in which it is looked at. -/
structure View where
  scope : Scope
  cell : String → Cell
  circumstances : Circumstances

/-- What an expression means in a row. -/
structure Meaning where
  source : Expression
  value : Evaluating Argument
  /-- Whether it is true, given what null counts as. -/
  holds : Bool → Evaluating Bool
  /-- The values of its items. -/
  items : List (Evaluating Argument)

namespace Meaning

open Expression

def ofValue (source : Expression) (value : Evaluating Argument) : Meaning where
  source
  value
  holds ifNull := return (← value).cell.truth?.getD ifNull
  items := [value]

/-- The meaning of an expression with a value that is not known to be JSON. -/
def ofCell (source : Expression) (cell : Evaluating Cell) : Meaning :=
  ofValue source do return .plain (← cell)

/-- The meaning of an expression that is true, false or unknown. -/
def ofTruth (source : Expression) (truth : Evaluating (Option Bool)) : Meaning :=
  ofCell source do return .ofTruth (← truth)

def cell (m : Meaning) : Evaluating Cell := return (← m.value).cell

/-! ## Comparisons -/

/-- Whether all items of two rows are the same; unknown items count if all others are.  Nothing
    after the first that differs is evaluated. -/
def allSame (test : Terms → Cell → Cell → Option Bool) (s : Scope) (unknown : Bool) :
    List (Expression × Evaluating Argument) → List (Expression × Evaluating Argument) →
    Evaluating (Option Bool)
  | (a, x) :: left, (b, y) :: right => do
    match test (.between s a b) (← x).cell (← y).cell with
    | some false => return some false
    | some true => allSame test s unknown left right
    | none => allSame test s true left right
  | _, _ => return if unknown then none else some true

/-- Whether a row comes before or after another one.  Nothing after the first items that differ is
    evaluated. -/
def inOrder (op : Comparison) (s : Scope) :
    List (Expression × Evaluating Argument) → List (Expression × Evaluating Argument) →
    Evaluating (Option Bool)
  | (a, x) :: left, (b, y) :: right => do
    match (Terms.between s a b).order? (← x).cell (← y).cell with
    | none => return none
    | some .eq => if left.isEmpty then return some (op.ofOrdering .eq) else inOrder op s left right
    | some o => return some (op.ofOrdering o)
  | _, _ => return none

def rowTest (op : Comparison) (s : Scope) (left right : List (Expression × Evaluating Argument)) :
    Evaluating (Option Bool) :=
  match op with
  | .equal | .is => allSame op.test s false left right
  | .notEqual => (·.map (!·)) <$> allSame (Comparison.test .equal) s false left right
  | .isNot => (·.map (!·)) <$> allSame (Comparison.test .is) s false left right
  | op => inOrder op s left right

def comparison (s : Scope) (op : Comparison) (a : Expression) (left : List (Evaluating Argument))
    (b : Meaning) : Evaluating (Option Bool) := do
  if 1 < a.rowSize then rowTest op s (a.items.zip left) (b.source.items.zip b.items)
  else match left with
    | [x] => return op.test (.between s a b.source) (← x).cell (← b.value).cell
    | _ => return none

/-- Whether a value has a certain truth. -/
def hasTruth (op : Comparison) (wanted : Bool) (truth : Option Bool) : Bool :=
  (truth == some wanted) == (op == .is)

def ofCompare (s : Scope) (op : Comparison) (a b : Meaning) : Meaning :=
  let source : Expression := .compare op a.source b.source
  match testedTruth? s op b.source with
  | some wanted =>
    { ofTruth source do return some (hasTruth op wanted (← a.cell).truth?) with
      holds := fun _ => return hasTruth op wanted (some (← a.holds !wanted)) }
  | none => ofTruth source (comparison s op a.source a.items b)

/-- The values of items, each of them evaluated. -/
def evaluated (m : Meaning) : Evaluating (List (Evaluating Argument)) := do
  return (← m.items.mapM id).map pure

/-- A test of a range. -/
def ofBetween (s : Scope) (e low high : Meaning) : Meaning :=
  let above (left : List (Evaluating Argument)) := comparison s .greaterEqual e.source left low
  let below (left : List (Evaluating Argument)) := comparison s .lessEqual e.source left high
  { ofTruth (.between e.source low.source high.source) do
      let left ← e.evaluated
      let x ← above left
      return Truth.both x (← below left) with
    holds := fun ifNull => do
      let left ← e.evaluated
      if (← above left).getD ifNull then return (← below left).getD ifNull
      return false }

/-- Looks for a value among others, given what is known from those before. -/
def search (t : Terms) (c : Cell) : Option Bool → List (Evaluating Argument) →
    Evaluating (Option Bool)
  | known, [] => return known
  | known, x :: rest => do
    match Comparison.test .equal t c (← x).cell with
    | some true => return some true
    | found => search t c (Truth.either known found) rest

/-- A search for a value among others. -/
def ofMember (s : Scope) (e : Meaning) (items : List Meaning) : Meaning :=
  let sources := items.map (·.source)
  let terms := Terms.among s e.source
  ofTruth (.member e.source sources) do
    if areSet s sources then
      let values ← items.mapM (·.value)
      search terms (← e.cell) (some false) (values.map pure)
    else
      let c ← e.cell
      search terms c (some false) (items.map (·.value))

/-! ## Operators -/

/-- A text after another one. -/
def concat (a b : Cell) : Evaluating Cell :=
  match a.bytes?, b.bytes? with
  | some s, some t =>
    if Cell.sizeLimit < s.length + t.length then throw .tooBig else return .text (s ++ t)
  | _, _ => return .null

/-- The opposite of the value of an expression. -/
def opposite (e : Meaning) : Evaluating Cell := do
  match e.source with
  | .integer n => return .number (ofOpposite n)
  | .hexadecimal source => return .int (-hexInteger source)
  | .literal (.number n) => return .number n.opposite
  | _ => return (← e.cell).negate

def ofUnary (s : Scope) (op : UnaryOperator) (e : Meaning) : Meaning :=
  let source : Expression := .unary op e.source
  let isNull : Evaluating Bool := do
    -- In a definition nothing is evaluated for a value that cannot be null.
    if s.place.isSome && !e.source.canBeNull s then return false
    return (← e.cell).isNull
  match op with
  | .plus | .collate _ => ofValue source e.value
  | .cast type => ofValue source do
    let a ← e.value
    return { a with cell := a.cell.castTo (.ofType type) }
  | .isNull => ofTruth source do return some (← isNull)
  | .notNull => ofTruth source do return some !(← isNull)
  | .not =>
    { ofCell source do return (← e.cell).not with
      holds := fun ifNull => return !(← e.holds !ifNull) }
  | .bitNot => ofCell source do return (← e.cell).bitNot
  | .negate => ofCell source e.opposite

/-- An operator on two values, both of which are evaluated. -/
def combined (op : BinaryOperator) (a b : Cell) : Evaluating Cell :=
  match op with
  | .and => return .ofTruth (Truth.both a.truth? b.truth?)
  | .or => return .ofTruth (Truth.either a.truth? b.truth?)
  | .bitAnd => return a.bitAnd b
  | .bitOr => return a.bitOr b
  | .shiftLeft => return a.shiftLeft b
  | .shiftRight => return a.shiftRight b
  | .add => return a.add b
  | .subtract => return a.subtract b
  | .multiply => return a.multiply b
  | .divide => return a.divide b
  | .remainder => return a.remainder b
  | .concat => concat a b

/-- An operator on two values. -/
def ofBinary (s : Scope) (op : BinaryOperator) (a b : Meaning) : Meaning :=
  let plain := ofCell (.binary op a.source b.source) do
    let x ← a.cell
    combined op x (← b.cell)
  let truth? (m : Meaning) : Option Bool :=
    (m.source.simplified s.hides).plainTruth? s.hides
  -- As a condition one side may decide alone, and then the other is not evaluated.
  if op = .and || op = .or then
    { plain with holds := fun ifNull =>
        match kept (op = .and) (truth? a) (truth? b) with
        | .left => a.holds ifNull
        | .right => b.holds ifNull
        | .both => do
          if (← a.holds ifNull) == (op == .and) then b.holds ifNull else return op == .or }
  else plain

/-! ## Choices and functions -/

/-- The value after the first condition that holds, or the last value. -/
def chosen (holds : Meaning → Evaluating Bool) : List Meaning → Evaluating Argument
  | condition :: value :: rest => do
    if ← holds condition then value.value else chosen holds rest
  | [otherwise] => otherwise.value
  | [] => return .null

def choice : List Meaning → Evaluating Argument := chosen (·.holds false)

/-- A choice by comparisons with a value. -/
def choiceOf (s : Scope) (e : Meaning) (items : List Meaning) : Evaluating Argument := do
  let left ← e.evaluated
  chosen (fun c => return (← comparison s .equal e.source left c).getD false) items

/-- The first value that is not null. -/
def firstPresent : List Meaning → Evaluating Argument
  | [] => return .null
  | m :: rest => do
    let a ← m.value
    if a.cell.isNull then firstPresent rest else return a

/-- The value of a function. -/
def ofCall (v : View) (name : String) (args : List Meaning) : Meaning :=
  let sources := args.map (·.source)
  ofValue (.call name sources .plain) <|
    match Text.asciiLower name with
    | "coalesce" | "ifnull" => firstPresent args
    | "iif" => choice args
    | name =>
      if Routine.isHint name then firstPresent (args.take 1)
      else do
        Routine.call v.circumstances (known (argumentsCollation? v.scope sources)) name
          (← args.mapM (·.value))

/-- Several values at once. -/
def ofRow (items : List Meaning) : Meaning :=
  { ofCell (.row (items.map (·.source))) (return .null) with items := items.map (·.value) }

/-- The value of an expression without parts. -/
def leafCell (v : View) : Expression → Cell
  | .literal c => c
  | .integer n => .number (ofNat n)
  | .hexadecimal source => .int (hexInteger source)
  | .truth b => .ofTruth (some b)
  | .column name quoting =>
    if v.scope.hides name then v.cell name
    else if quoting == .doubleQuoted then .ofString name
    else .ofTruth (truthOf? name)
  | .qualified _ name => v.cell name
  | _ => .null

end Meaning

namespace Expression

open Meaning

mutual

def meaning (v : View) : Expression → Meaning
  | .unary op e => ofUnary v.scope op (e.meaning v)
  | .binary op a b => ofBinary v.scope op (a.meaning v) (b.meaning v)
  | .compare op a b => ofCompare v.scope op (a.meaning v) (b.meaning v)
  | .between e low high => ofBetween v.scope (e.meaning v) (low.meaning v) (high.meaning v)
  | .member e items => ofMember v.scope (e.meaning v) (meanings v items)
  | .choice items => ofValue (.choice items) (Meaning.choice (meanings v items))
  | .choiceOf e items =>
    ofValue (.choiceOf e items) (Meaning.choiceOf v.scope (e.meaning v) (meanings v items))
  | .call name args _ => ofCall v name (meanings v args)
  | .row items => ofRow (meanings v items)
  | e => ofCell e (return leafCell v e)

def meanings (v : View) : List Expression → List Meaning
  | [] => []
  | e :: rest => e.meaning v :: meanings v rest

end

/-- The value of an expression in a row. -/
def evaluate (v : View) (e : Expression) : Evaluating Cell := (e.meaning v).cell

/-- Whether an expression is not false in a row. -/
def holds (v : View) (e : Expression) : Evaluating Bool := (e.meaning v).holds true

end Expression

end Accrete
