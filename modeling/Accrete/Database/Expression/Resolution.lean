import Accrete.Database.Expression
import Accrete.Database.Expression.Fault
import Accrete.Database.Routine

/-!
# Resolving expressions

What the names in an expression stand for, where it is a part of the definition of a table.

* `Setting`                -- where an expression stands, and the columns that it may name
* `Expression.resolve`     -- looks for what an expression cannot contain
* `Expression.resolveAll`  -- the same for several expressions

An expression may contain several things that it cannot; the last one that is found is told.  Once
something is found, most of what follows is not looked at, but the arguments of a function are.
-/

namespace Accrete

/-- Where an expression stands, with the table and the columns that it may name. -/
structure Setting where
  place : Place
  /-- Whether functions may be unknown until they are called. -/
  trusting : Bool
  table : String
  columns : List String
  /-- Whether rows have a key that usual names stand for. -/
  keyed : Bool

namespace Setting

/-- Whether a name stands for a column. -/
def knows (s : Setting) (name : String) : Bool :=
  let name := Text.asciiLower name
  (s.columns.any fun c => Text.asciiLower c == name) ||
    (s.place == .check && s.keyed && Expression.keyNames.contains name)

def isTruthWord (s : Setting) : Expression → Bool
  | .truth _ => true
  | .column name .plain => (Expression.truthOf? name).isSome && !s.knows name
  | _ => false

/-- Whether names in front of a column stand for its table.  The schema does not count in
    checks. -/
def isTable (s : Setting) : List String → Bool
  | [table] => Text.asciiLower table == Text.asciiLower s.table
  | [schema, table] =>
    (s.place == .check || Text.asciiLower schema == "main") &&
      Text.asciiLower table == Text.asciiLower s.table
  | _ => false

/-- The names in front of a column as they are told. -/
def shownTable (s : Setting) (names : List String) : List String :=
  if s.place == .check then names.drop (names.length - 1) else names

end Setting

/-- A task that looks at expressions and keeps the last thing found that they cannot contain. -/
abbrev Resolving := StateM (Option ExpressionFault)

namespace Resolving

def found (fault : ExpressionFault) : Resolving Unit := set (some fault)

/-- Whether anything was found so far. -/
def failed : Resolving Bool := return (← get).isSome

end Resolving

namespace Expression

open Resolving

/-- The share that an expression states, if it is a constant from 0 to 1. -/
def isShare : Expression → Bool
  | .literal (.number n) => !n.lt (.int 0) && !Number.lt (.int 1) n && !(n matches .int _)
  | _ => false

/-- Looks at a column, and tells whether it is none. -/
def resolveColumn (s : Setting) (name : String) (quoting : Quoting) : Resolving Bool := do
  if s.knows name || quoting == .doubleQuoted ||
      (quoting == .plain && (truthOf? name).isSome) then
    return false
  found (.noSuchColumn name)
  return true

/-- Looks at a column after the names of its table, and tells whether it is none. -/
def resolveQualified (s : Setting) (names : List String) (column : String) : Resolving Bool := do
  if s.place != .check then found (.dot s.place)
  if s.isTable names && s.knows column then return false
  found (.noSuchColumn (".".intercalate (s.shownTable names ++ [column])))
  return true

/-- Whether what a call names, with a window or without, is computed from its arguments. -/
def callsScalar (name : String) : Option Routine → Bool
  | some r => r.kind == .scalar
  | none => Routine.scalarFamilies.any fun f => f.names.contains (Text.asciiLower name)

/-- Looks at a function apart from its arguments. -/
def resolveFunction (s : Setting) (name : String) (args : List Expression) (tail : CallTail) :
    Resolving Unit := do
  let routine? := Routine.find? name args.length
  if let some r := routine? then
    if Routine.isHint r.name && !(args.drop 1).all isShare then found (.likelihood name)
    if !r.steady && s.place != .check then found (.unsteady s.place)
  let ofRows (r : Routine) : Bool := r.kind == .aggregate || r.kind == .window
  if tail == .windowed && callsScalar name routine? then found (.noWindow name)
  else match routine? with
    | some r =>
      if ofRows r then found (.misused (tail == .windowed || r.kind == .window) name)
      else if r.kind == .internal && !s.trusting then found (.noSuchFunction name)
      else if tail != .plain then found (.noFilter name)
    | none =>
      if Routine.isKnown name then found (.argumentCount name)
      else if !s.trusting then found (.noSuchFunction name)
      else if tail != .plain then found (.noFilter name)

/-- Finds that an expression has another number of values than those it is compared with. -/
def resolveSizes (e : Expression) (others : List Expression) : Resolving Unit := do
  if others.any fun o => o.rowSize != e.rowSize then found .row

/-- Looks at a name with which something is compared, and tells whether to look no further. -/
def resolveRight (s : Setting) : Expression → Resolving Bool
  | .column name quoting => resolveColumn s name quoting
  | .truth _ => failed
  | _ => return false

mutual

/-- Looks for what an expression cannot contain, and tells whether to look no further. -/
def resolve (s : Setting) : Expression → Resolving Bool
  | .literal _ | .integer _ | .hexadecimal _ | .truth _ | .raise => failed
  | .column name quoting => resolveColumn s name quoting
  | .qualified names name => resolveQualified s names name
  | .parameter => do
    found (.parameter s.place)
    return true
  | .subquery => do
    found (.subquery s.place)
    return true
  | .unary op e => do
    if op == .isNull || op == .notNull then
      -- A test for null looks at its value, but goes on whatever is found there.
      let _ ← e.resolve s
      return false
    if ← failed then return true
    e.resolve s
  | .binary _ a b => do
    if ← failed then return true
    if ← a.resolve s then return true
    b.resolve s
  | .compare op a b => do
    if op == .is || op == .isNot then
      if ← resolveRight s b.withoutCollations then return true
      -- With a word for a truth on the right this is a test of truth, and no comparison.
      if s.isTruthWord b.withoutCollations then
        if ← a.resolve s then return true
        return ← failed
    resolveSizes a [b]
    if ← failed then return true
    if ← a.resolve s then return true
    b.resolve s
  | .between e low high => do
    resolveSizes e (if low.rowSize == e.rowSize then [high] else [low])
    if ← failed then return true
    if ← e.resolve s then return true
    if ← low.resolve s then return true
    high.resolve s
  | .member e items | .choiceOf e items => do
    if ← failed then return true
    if ← e.resolve s then return true
    resolveAll s items
  | .choice items | .row items => do
    if ← failed then return true
    resolveAll s items
  | .call name args tail => do
    resolveFunction s name args tail
    let _ ← resolveAll s args
    return false

def resolveAll (s : Setting) : List Expression → Resolving Bool
  | [] => return false
  | e :: rest => do
    if ← e.resolve s then return true
    resolveAll s rest

end

end Expression

end Accrete
