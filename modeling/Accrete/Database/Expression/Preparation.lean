import Accrete.Database.Expression.Fault
import Accrete.Database.Expression.Scope
import Accrete.Database.Routine

/-!
# Preparing expressions

What an expression cannot contain and what comes up only when its values are asked for.

* `Preparing`            -- a task that looks at expressions before a row is there
* `Preparation`          -- the tasks for an expression, whatever is asked for
* `Expression.prepared`  -- the tasks for an expression

The last thing that is found is told.  Parts that are the same in every row and call no function
are looked at after everything else, and only if nothing is found until then.
-/

namespace Accrete

/-- What was found that expressions cannot contain: in what is computed row by row, and in what is
    computed once. -/
structure Findings where
  inRows : Option ExpressionFault
  once : Option ExpressionFault

/-- A task that looks at expressions and keeps what it finds. -/
abbrev Preparing := StateM Findings

/-- When an expression is looked at. -/
inductive Stage where
  /-- In its turn, but parts that are the same in every row may be put off. -/
  | usual
  /-- In its turn, and so are its parts. -/
  | inTurn
  /-- After everything else. -/
  | putOff
deriving DecidableEq, Repr

namespace Preparing

def found (stage : Stage) (fault : ExpressionFault) : Preparing Unit :=
  modify fun f => if stage = .putOff then { f with once := some fault }
    else { f with inRows := some fault }

/-- Whether something was found so far. -/
def failed (stage : Stage) : Preparing Bool := do
  let f ← get
  return f.inRows.isSome || (stage == .putOff && f.once.isSome)

def needs (stage : Stage) : Option Expression.Collating → Preparing Unit
  | some (.error name) => found stage (.noSuchCollation name)
  | _ => return

/-- What a task finds, if it finds anything. -/
def fault? (task : Preparing Unit) : Option ExpressionFault :=
  let f := (task.run ⟨none, none⟩).2
  f.inRows <|> f.once

end Preparing

namespace Expression

mutual

def calls : Expression → Bool
  | .call .. => true
  | .unary _ e => e.calls
  | .binary _ a b | .compare _ a b => a.calls || b.calls
  | .between e low high => e.calls || low.calls || high.calls
  | .member e items | .choiceOf e items => e.calls || someCalls items
  | .choice items | .row items => someCalls items
  | _ => false

def someCalls : List Expression → Bool
  | [] => false
  | e :: rest => e.calls || someCalls rest

end

/-- Whether a function is known to depend on nothing but its arguments. -/
def knowsSteady (s : Scope) (name : String) (count : Nat) : Bool :=
  s.place.isSome && Routine.isSteady name count

/-- Whether something is looked for among all items at once: if there are at least three that are
    the same in every row. -/
def areSet (s : Scope) (items : List Expression) : Bool :=
  3 ≤ items.length && areFixed (knowsSteady s) items

def stageOf (s : Scope) (e : Expression) : Stage → Stage
  | .usual =>
    if e.isFixed (knowsSteady s) then (if e.calls then .inTurn else .putOff) else .usual
  | stage => stage

def items : Expression → List Expression
  | .row items => items
  | e => [e]

end Expression

/-- The tasks for an expression, whatever is asked for. -/
structure Preparation where
  source : Expression
  /-- Its value is asked for. -/
  value : Stage → Preparing Unit
  /-- Only its truth is asked for. -/
  condition : Stage → Preparing Unit
  /-- Its values are asked for one by one. -/
  items : List (Stage → Preparing Unit)

namespace Preparation

open Expression Preparing

/-- The task for an expression that is a part of another one. -/
def part (s : Scope) (p : Preparation) (stage : Stage) : Preparing Unit :=
  p.value (stageOf s p.source stage)

def ofValue (s : Scope) (source : Expression) (value : Stage → Preparing Unit) : Preparation :=
  let part (stage : Stage) : Preparing Unit := value (stageOf s source stage)
  ⟨source, value, part, [part]⟩

/-- The tasks for an expression, given that for its value and for its truth. -/
def ofBoth (s : Scope) (source : Expression) (value condition : Stage → Preparing Unit) :
    Preparation :=
  { ofValue s source value with condition }

/-! ## Comparisons -/

/-- Looks at the items of two rows in turns, and at the collations under which they are compared. -/
def pairs (s : Scope) (stage : Stage) : List (Expression × Preparing Unit) →
    List (Expression × Preparing Unit) → Preparing Unit
  | (a, x) :: left, (b, y) :: right => do
    x
    y
    if !(← failed stage) then needs stage (collationWith? s a b)
    pairs s stage left right
  | _, _ => return

/-- Looks at a comparison, given the tasks for what is compared. -/
def comparison (s : Scope) (stage : Stage) (a : Expression) (left : List (Preparing Unit))
    (b : Preparation) : Preparing Unit := do
  if 1 < a.rowSize then
    if ← failed stage then return
    if a.rowSize != b.source.rowSize then found stage .row
    else pairs s stage (a.items.zip left) (b.source.items.zip (b.items.map (· stage)))
  else
    left.forM id
    b.part s stage
    if !(← failed stage) then needs stage (collationWith? s a b.source)

def ofCompare (s : Scope) (op : Comparison) (a b : Preparation) : Preparation :=
  let source : Expression := .compare op a.source b.source
  match testedTruth? s op b.source with
  | some _ => ofBoth s source (a.part s) a.condition
  | none =>
    let value (stage : Stage) : Preparing Unit :=
      comparison s stage a.source (a.items.map (· stage)) b
    if 1 < a.source.rowSize then ofValue s source value else ofBoth s source value value

/-- The tasks for a test of a range. -/
def ofBetween (s : Scope) (e low high : Preparation) : Preparation :=
  let task (stage : Stage) : Preparing Unit := do
    e.items.forM (· stage)
    -- The value is looked at once, although it is compared twice.
    let done : List (Preparing Unit) := e.items.map fun _ => return
    comparison s stage e.source done low
    comparison s stage e.source done high
  ofBoth s (.between e.source low.source high.source) task task

/-- The tasks for a search among values. -/
def ofMember (s : Scope) (e : Preparation) (items : List Preparation) : Preparation :=
  let task (stage : Stage) : Preparing Unit := do
    -- A set is made before the value that is looked for in it; otherwise the value is first.
    if areSet s (items.map (·.source)) then
      needs stage (e.source.collation? s)
      items.forM (·.value stage)
      e.part s stage
    else
      e.part s stage
      needs stage (e.source.collation? s)
      items.forM (·.part s stage)
  ofBoth s (.member e.source (items.map (·.source))) task task

/-! ## Operators -/

/-- Looks at the opposite of what hexadecimal digits write. -/
def opposite (stage : Stage) (digits : String) : Preparing Unit := do
  if isTooLong digits || hexInteger digits == Cell.leastInteger then
    found stage (.tooLarge ("-" ++ digits))

def ofUnary (s : Scope) (op : UnaryOperator) (e : Preparation) : Preparation :=
  let source : Expression := .unary op e.source
  match op with
  | .plus | .collate _ | .cast _ => ofValue s source e.value
  | .isNull | .notNull =>
    let value (stage : Stage) : Preparing Unit := do
      if s.place.isNone || e.source.canBeNull s then e.part s stage
    ofBoth s source value value
  | .not => ofBoth s source (e.part s) e.condition
  | .bitNot => ofValue s source (e.part s)
  | .negate => ofValue s source fun stage => match e.source with
    | .hexadecimal digits => opposite stage digits
    | _ => e.part s stage

def ofBinary (s : Scope) (op : BinaryOperator) (a b : Preparation) : Preparation :=
  let source : Expression := .binary op a.source b.source
  let value (stage : Stage) : Preparing Unit := do
    a.part s stage
    b.part s stage
  let truth? (p : Preparation) : Option Bool :=
    (p.source.simplified s.hides).plainTruth? s.hides
  if op = .and || op = .or then
    ofBoth s source value fun stage =>
      match kept (op = .and) (truth? a) (truth? b) with
      | .left => a.condition stage
      | .right => b.condition stage
      | .both => do
        a.condition stage
        b.condition stage
  else ofValue s source value

/-! ## Choices -/

/-- Looks at conditions and values in turns, and at a last value. -/
def turns (condition value : Preparation → Preparing Unit) : List Preparation → Preparing Unit
  | c :: v :: rest => do
    condition c
    value v
    turns condition value rest
  | [otherwise] => value otherwise
  | [] => return

/-- Looks at a choice by conditions. -/
def choice (stage : Stage) (items : List Preparation) : Preparing Unit :=
  turns (·.condition stage) (·.value stage) items

/-- Looks at a choice by comparisons with a value. -/
def choiceOf (s : Scope) (stage : Stage) (e : Preparation) (items : List Preparation) :
    Preparing Unit := do
  e.items.forM (· stage)
  let done : List (Preparing Unit) := e.items.map fun _ => return
  turns (comparison s stage e.source done) (·.value stage) items

/-! ## Functions -/

/-- Looks at a function apart from its arguments, and tells whether to look at these. -/
def function (s : Scope) (stage : Stage) (name : String) (args : List Expression) :
    Preparing Bool := do
  match Routine.find? name args.length with
  | none =>
    found stage (.unknownFunction name)
    return false
  | some r =>
    if r.kind == .aggregate || r.kind == .window then
      found stage (.unknownFunction name)
      return false
    if Routine.isUnsafe name && s.place.isNone then found stage (.unsafeFunction name)
    if Routine.compares name then needs stage (argumentsCollation? s args)
    return true

def arguments (s : Scope) (stage : Stage) (name : String) (args : List Preparation) :
    Preparing Unit :=
  match Text.asciiLower name with
  | "coalesce" | "ifnull" => args.forM (·.value stage)
  | "iif" => choice stage args
  | _ =>
    if Routine.isHint name then (args.take 1).forM (·.value stage)
    else args.forM (·.part s stage)

def ofCall (s : Scope) (name : String) (args : List Preparation) : Preparation :=
  let source : Expression := .call name (args.map (·.source)) .plain
  ofValue s source fun stage => do
    let stage := stageOf s source stage
    if ← function s stage name (args.map (·.source)) then arguments s stage name args

/-- The tasks for several values at once. -/
def ofRow (s : Scope) (items : List Preparation) : Preparation :=
  { ofValue s (.row (items.map (·.source))) fun stage => found stage .row with
    items := items.map fun p => p.part s }

/-- The tasks for an expression without parts. -/
def ofLeaf (s : Scope) (e : Expression) : Preparation :=
  ofValue s e fun stage => match e with
    | .hexadecimal digits => if isTooLong digits then found stage (.tooLarge digits) else return
    | .raise => found stage .raise
    | _ => return

end Preparation

namespace Expression

open Preparation

mutual

def prepared (s : Scope) : Expression → Preparation
  | .unary op e => ofUnary s op (e.prepared s)
  | .binary op a b => ofBinary s op (a.prepared s) (b.prepared s)
  | .compare op a b => ofCompare s op (a.prepared s) (b.prepared s)
  | .between e low high => ofBetween s (e.prepared s) (low.prepared s) (high.prepared s)
  | .member e items => ofMember s (e.prepared s) (preparedAll s items)
  | .choice items =>
    ofValue s (.choice items) fun stage => Preparation.choice stage (preparedAll s items)
  | .choiceOf e items =>
    ofValue s (.choiceOf e items) fun stage =>
      Preparation.choiceOf s stage (e.prepared s) (preparedAll s items)
  | .call name args _ => ofCall s name (preparedAll s args)
  | .row items => ofRow s (preparedAll s items)
  | e => ofLeaf s e

def preparedAll (s : Scope) : List Expression → List Preparation
  | [] => []
  | e :: rest => e.prepared s :: preparedAll s rest

end

/-- Looks at an expression that is computed row by row, or once if it is the same in every row. -/
def prepare (s : Scope) (e : Expression) : Preparing Unit := (e.prepared s).part s .usual

/-- Looks at a rule that holds or not. -/
def prepareRule (s : Scope) (e : Expression) : Preparing Unit := (e.prepared s).condition .usual

end Expression

end Accrete
