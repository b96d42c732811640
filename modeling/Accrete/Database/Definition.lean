import Accrete.Database.Expression.Resolution
import Accrete.Database.Refusal
import Accrete.Database.Table
import Accrete.Database.Token

/-!
# Definitions of tables

What a statement that defines a table says, gathered part by part.

* `Definition`               -- what has been said so far
* `Definition.addColumn`     -- a further column
* `Definition.setKey`, `Definition.addUnique`, `Definition.addCheck` and the like -- a constraint
* `Definition.complete`      -- the whole, with the options at its end
* `Definition.typeText?`     -- the type that the source of a column states

A constraint without columns of its own is about the last column.
-/

namespace Accrete

/-- What a statement says about a table. -/
structure Definition where
  name : String
  columns : List StoredColumn
  /-- The columns of the primary key. -/
  keyColumns : List String
  /-- Whether a primary key is stated. -/
  hasKey : Bool
  rowKey : Option RowKey
  /-- The oldest first. -/
  guards : List Guard
  checks : List Check
  /-- The name that is given to constraints from here on. -/
  label : Option String
deriving Inhabited

/-- A part of a key as it is written. -/
structure KeyPart where
  rule : Expression
  /-- Where null is put, if that is stated. -/
  nulls : Option String

/-- What a table is like besides its columns and constraints. -/
structure TableOptions where
  keyless : Bool
  strict : Bool

/-- A table that is being defined may be referenced from a column. -/
structure ForeignTarget where
  /-- The table as it is written. -/
  table : Token
  columns : Option Nat

namespace Definition

/-- A table of which nothing is said yet. -/
def start (name : String) : Definition := ⟨name, [], [], false, none, [], [], none⟩

/-! ## Types -/

/-- A text without the blanks at its end. -/
def trimRight (cs : List Char) : List Char := (cs.reverse.dropWhile Token.isSpace).reverse

/-- A text without a word at its end and the blanks before that, if it ends in the word. -/
def withoutEnd? (word : String) (cs : List Char) : Option (List Char) :=
  let n := cs.length - word.length
  if word.length ≤ cs.length && String.ofList ((cs.drop n).map Char.toLower) == word then
    some (trimRight (cs.take n))
  else none

/-- The source of a type without the words that tell that a column is computed. -/
def withoutComputed (cs : List Char) : List Char :=
  if cs.length < 16 then cs
  else match withoutEnd? "always" cs with
    | none => cs
    | some cs => (withoutEnd? "generated" cs).getD cs

/-- Whether a character is a mark around a name or a text. -/
def isMark (c : Char) : Bool := c == '\'' || c == '"' || c == '[' || c == '\x60'

/-- A text without the marks at its ends, unless there are marks in it too. -/
def withoutMarks (cs : List Char) : List Char :=
  if 3 ≤ cs.length && cs.head?.any isMark && !((cs.drop 1).dropLast.any isMark) then
    (cs.drop 1).dropLast
  else cs

/-- The type that the source of a column states, if it states one. -/
def typeText? (source : List Char) : Option String :=
  let cs := withoutComputed source
  if cs.isEmpty then none else some (String.ofList (Token.dequoted (withoutMarks cs)))

/-- The types that tables know which are strict about them. -/
def strictTypes : List String := ["any", "blob", "int", "integer", "real", "text"]

/-! ## Columns -/

def plainColumn (name : String) (type : Option String) : StoredColumn where
  name
  type
  affinity := (type.map Affinity.ofType).getD .blob
  collation := .binary
  notNull := none
  default := none
  computed := none

/-- The number of columns that no table exceeds. -/
def columnLimit : Nat := 2000

def addColumn (d : Definition) (name : String) (type : Option String) :
    Except Refusal Definition :=
  if d.columns.length ≥ columnLimit then .error (.tooManyColumns d.name)
  else if d.columns.any fun c => sameName c.name name then .error (.duplicateColumn name)
  else .ok { d with columns := d.columns ++ [plainColumn name type], label := none }

def last (d : Definition) : StoredColumn := d.columns.getLast?.getD (plainColumn "" none)

def withLast (d : Definition) (f : StoredColumn → StoredColumn) : Definition :=
  { d with columns := d.columns.dropLast ++ [f d.last] }

def column? (d : Definition) (name : String) : Option StoredColumn :=
  d.columns.find? fun c => sameName c.name name

def columnNames (d : Definition) : List String := d.columns.map (·.name)

/-! ## Constraints of a column -/

def setDefault (d : Definition) (e : Expression) : Except Refusal Definition :=
  if !e.isConstant then .error (.defaultNotConstant d.last.name)
  else if d.last.computed.isSome then .error .defaultComputed
  else .ok (d.withLast fun c => { c with default := some e })

def setNotNull (d : Definition) (conflict : Option Conflict) : Definition :=
  d.withLast fun c => { c with notNull := some (conflict.getD .abort) }

/-- The last column compares texts by a collation.  So do the constraints that it has already. -/
def setCollation (d : Definition) (name : String) : Except Refusal Definition :=
  match Collation.ofName? name with
  | none => .error (.noSuchCollation name)
  | some collation =>
    let own (p : IndexPart) : Bool := p.column == some d.last.name
    let d := d.withLast fun c => { c with collation }
    .ok { d with guards := d.guards.map fun g =>
      { g with parts := g.parts.map fun p => if own p then { p with collation } else p } }

/-- The last column is computed.  `storage` is the word that tells how. -/
def setComputed (d : Definition) (e : Expression) (storage : Option Token) :
    Except Refusal Definition :=
  let word := storage.map Token.lowered
  if d.last.default.isSome || d.last.computed.isSome ||
      word.any fun w => w != "virtual" && w != "stored" then
    .error (.computedFault d.last.name)
  else if d.keyColumns.any (sameName d.last.name) then .error .keyComputed
  else .ok (d.withLast fun c => { c with
    computed := some (if word == some "stored" then .stored else .virtual, e) })

/-! ## Constraints of a table -/

/-- The column that a part of a key names, apart from its collations, and whether that is between
    double quotes. -/
def namedBy : Expression → Option (String × Bool)
  | .column name quoting => some (name, quoting == .doubleQuoted)
  | .literal (.text name) => some (name.decoded, false)
  | .unary (.collate _) e => namedBy e
  | _ => none

def statedCollation? : Expression → Option String
  | .unary (.collate name) _ => some name
  | _ => none

/-- Where an expression stands, with the columns that are there so far. -/
def setting (d : Definition) (place : Place) (trusting keyed : Bool) : Setting where
  place
  trusting
  table := d.name
  columns := d.columnNames
  keyed

def indexPart (d : Definition) (p : KeyPart) : Except Refusal IndexPart :=
  match namedBy p.rule with
  | none =>
    match (Expression.resolve (d.setting .index false true) p.rule |>.run none).2 with
    | some fault => .error (.badExpression fault)
    | none => .error .keyExpression
  | some (name, doubleQuoted) =>
    match d.column? name with
    | none =>
      .error (if doubleQuoted || (Expression.truthOf? name).isSome then .keyExpression
        else .badExpression (.noSuchColumn name))
    | some c =>
      match statedCollation? p.rule with
      | none => .ok ⟨some c.name, c.collation⟩
      | some name => match Collation.ofName? name with
        | some collation => .ok ⟨some c.name, collation⟩
        | none => .error (.noSuchCollation name)

/-- A group of values that never repeats.  One that is there already is not stated again. -/
def addGuard (d : Definition) (parts : List IndexPart) (conflict : Option Conflict) :
    Except Refusal Definition :=
  match d.guards.find? fun g => g.parts == parts with
  | none => .ok { d with guards := d.guards ++ [⟨parts, conflict⟩] }
  | some g =>
    -- A group that is stated twice may not ask for two ways out of a conflict.
    if g.conflict.isSome && conflict.isSome && g.conflict != conflict then
      .error .conflictsDiffer
    else
      .ok { d with guards := d.guards.map fun g =>
        if g.parts == parts then { g with conflict := g.conflict <|> conflict } else g }

def checkNulls (parts : List KeyPart) : Except Refusal Unit :=
  match parts.findSome? (·.nulls) with
  | some nulls => .error (.nullsPlaced nulls)
  | none => .ok ()

def partsOf (d : Definition) : Option (List KeyPart) → Except Refusal (List IndexPart)
  | none => .ok [⟨some d.last.name, d.last.collation⟩]
  | some parts => do
    checkNulls parts
    parts.mapM d.indexPart

def addUnique (d : Definition) (parts : Option (List KeyPart)) (conflict : Option Conflict) :
    Except Refusal Definition := do
  d.addGuard (← d.partsOf parts) conflict

def columnsOf (d : Definition) : Option (List KeyPart) → List StoredColumn
  | none => [d.last]
  | some parts => parts.filterMap fun p => (namedBy p.rule).bind fun (name, _) => d.column? name

/-- A primary key.  A single column of integers is the key of the rows. -/
def setKey (d : Definition) (parts : Option (List KeyPart)) (descending : Bool)
    (conflict : Option Conflict) (counting : Bool) : Except Refusal Definition := do
  if d.hasKey then throw (.severalKeys d.name)
  let columns : List StoredColumn := d.columnsOf parts
  let keyColumns := columns.map (·.name)
  let d := { d with hasKey := true, keyColumns }
  -- Only a single `integer` column in ascending order is the key of the rows.
  let single := (parts.map List.length).getD 1 == 1
  let isInteger (c : StoredColumn) : Bool := c.type.any (sameName "integer")
  let rowKey := columns.head?.filter fun c => single && isInteger c && !descending
  if counting && rowKey.isNone then throw .countingKey
  if columns.any (·.computed.isSome) then throw .keyComputed
  match rowKey with
  | some c =>
    checkNulls (parts.getD [])
    return { d with rowKey := some ⟨c.name, conflict, counting⟩ }
  | none => d.addUnique parts conflict

/-- A rule that every row keeps, under its own text unless it is named. -/
def addCheck (d : Definition) (rule : Expression) (source : List Char) : Definition :=
  let text := trimRight (source.dropWhile Token.isSpace)
  let name := d.label.getD (String.ofList (Token.dequoted text))
  { d with checks := d.checks ++ [⟨name, rule⟩] }

/-- Refuses a foreign key of the last column that points at several columns. -/
def checkTarget (d : Definition) (target : ForeignTarget) : Except Refusal Definition :=
  if target.columns.any (· != 1) then
    .error (.severalTargets d.last.name target.table.source)
  else .ok d

/-- Refuses a foreign key of columns that do not exist or that points at too few or too many. -/
def checkForeignKey (d : Definition) (columns : List String) (target : ForeignTarget) :
    Except Refusal Definition :=
  if target.columns.any (· != columns.length) then .error .targetCount
  else match columns.find? fun c => (d.column? c).isNone with
    | some c => .error (.foreignColumnUnknown c)
    | none => .ok d

/-! ## The whole -/

/-- Refuses columns of types that a strict table does not know. -/
def checkTypes (d : Definition) : Except Refusal Unit :=
  d.columns.forM fun c => match c.type with
    | none => .error (.typeMissing d.name c.name)
    | some type =>
      if strictTypes.contains (Text.asciiLower type) then .ok ()
      else .error (.typeUnknown d.name c.name type)

/-- The columns of the key reject null. -/
def withStrictKey (d : Definition) : Definition :=
  { d with columns := d.columns.map fun c =>
    if d.keyColumns.any (sameName c.name) then
      { c with notNull := c.notNull <|> some .abort }
    else c }

def withoutRowKey (d : Definition) : Except Refusal Definition := do
  if d.rowKey.any (·.counting) then throw .countingWithoutKey
  if !d.hasKey then throw (.keyMissing d.name)
  let d := d.withStrictKey
  match d.rowKey with
  | none => return d
  | some key =>
    let collation := ((d.column? key.column).map (·.collation)).getD .binary
    { d with rowKey := none }.addGuard [⟨some key.column, collation⟩] key.conflict

/-- Looks at rules one after the other, up to the first with something that it cannot contain. -/
def resolveRules (s : Setting) : List Expression → Resolving Unit
  | [] => return
  | e :: rest => do
    let _ ← e.resolve s
    if !(← Resolving.failed) then resolveRules s rest

/-- Looks at all checks and at all computed columns. -/
def resolveExpressions (d : Definition) (reread keyed : Bool) : Resolving Unit := do
  resolveRules (d.setting .check reread keyed) (d.checks.map (·.rule))
  (d.columns.filterMap (·.computed)).forM fun (_, e) =>
    discard (e.resolve (d.setting .computed reread keyed))

/-- Refuses expressions that cannot stand where they do, and a table of which all columns are
    computed. -/
def checkExpressions (d : Definition) (reread keyed : Bool) : Except Refusal Unit := do
  if d.columns.all (·.computed.isSome) then throw .allComputed
  if let some fault := (d.resolveExpressions reread keyed |>.run none).2 then
    throw (.badExpression fault)

/-- The rule of a column that is computed when it is read. -/
def virtualRule? (d : Definition) (name : String) : Option (StoredColumn × Expression) :=
  (d.column? name).bind fun c => match c.computed with
    | some (.virtual, e) => some (c, e)
    | _ => none

/-- The last column at which the computation of a column comes back to one that is being computed,
    on paths of bounded length. -/
def loopFrom (d : Definition) : Nat → List String → String → Option String
  | 0, _, _ => none
  | bound + 1, busy, name => match d.virtualRule? name with
    | none => none
    | some (c, e) =>
      if busy.contains c.name then some c.name
      else (e.names.filterMap (d.loopFrom bound (c.name :: busy))).getLast?

/-- Refuses columns that are computed from each other in a circle when they are read. -/
def checkLoops (d : Definition) : Except Refusal Unit :=
  match (d.columnNames.filterMap (d.loopFrom (d.columns.length + 1) [])).getLast? with
  | some name => .error (.badExpression (.loop name))
  | none => .ok ()

/-- The whole definition with the options at its end.  `reread` tells that it was accepted
    before. -/
def complete (d : Definition) (options : TableOptions) (reread : Bool) :
    Except Refusal Definition := do
  if options.strict then d.checkTypes
  let d := if options.strict && d.rowKey.isNone then d.withStrictKey else d
  let d ← if options.keyless then d.withoutRowKey else pure d
  d.checkExpressions reread !options.keyless
  return d

end Definition

end Accrete
