import Accrete.Database.Expression.Evaluation
import Accrete.Database.Refusal
import Accrete.Database.Table
import Accrete.Field

/-!
# Insertion of rows

What a table makes of a row that is put into it.

* `Cell.ofValue`            -- a value as it is handed to a database
* `StoredTable.view`        -- what the columns of a row hold
* `StoredTable.compute`     -- a row with its computed columns
* `StoredTable.agree`       -- whether two rows agree in the parts of an index
* `Obstacle`                -- why a row cannot join others
* `Database.insert`         -- a database with a further row

A row is refused by the first rule that it breaks: columns that reject null, checks, the key of the
row, then what never repeats.
-/

namespace Accrete

def Cell.ofValue (place : Nat) : Value → Except Refusal Cell
  | .null => .ok .null
  | .bool b => .ok (.int (if b then 1 else 0))
  | .number (.int n) => if Cell.fits n then .ok (.int n) else .error .tooLarge
  | .number n => .ok (.number n)
  | .text s => .ok (.ofString s)
  | v => .error (.notStored place v.kindName)

/-- Values as they are handed to a database, the first in a given place. -/
def Cell.ofValues (place : Nat) : List Value → Except Refusal (List Cell)
  | [] => .ok []
  | v :: rest => do return (← Cell.ofValue place v) :: (← Cell.ofValues (place + 1) rest)

/-- A task that may draw random numbers, which are counted, and may be refused. -/
abbrev Inserting := StateT Nat (Except Refusal)

/-- The value of a task, which may have none. -/
def Inserting.ofEvaluating {α : Type} (x : Evaluating α) : Inserting α :=
  fun n => (x n).mapError Refusal.badCall

namespace StoredTable

/-! ## Columns of a row -/

/-- Whether a name stands for the key of a row: one of its usual names, unless a column has it. -/
def namesKey (t : StoredTable) (name : String) : Bool :=
  !t.keyless && !t.hasColumn name && Expression.keyNames.contains (Text.asciiLower name)

def isRowKey (t : StoredTable) (name : String) : Bool :=
  t.rowKey.any fun k => sameName k.column name

/-- What is known about a column without a row. -/
def nature? (t : StoredTable) (name : String) : Option ColumnNature :=
  let ofKey : ColumnNature := ⟨.integer, none, true⟩
  match t.column? name with
  | some c => some (if t.isRowKey c.name then ofKey
      else ⟨c.affinity, some c.collation, c.notNull.isSome⟩)
  | none => if t.namesKey name then some ofKey else none

/-- What the columns of a row hold, for an expression in a place. -/
def view (t : StoredTable) (place : Place) (row : Row) (a : Activity) : View where
  scope := ⟨some place, t.nature?⟩
  cell name := if t.hasColumn name then t.cell row name else .int row.key
  circumstances := ⟨some place, a⟩

/-! ## Defaults -/

def defaultValue (e : Expression) (a : Activity) : Inserting Cell :=
  .ofEvaluating (e.evaluate ⟨.ofDefault, fun _ => .null, ⟨none, a⟩⟩)

def replacesNull (t : StoredTable) (c : StoredColumn) : Bool :=
  c.notNull == some .replace && c.default.isSome && !t.isRowKey c.name

/-! ## Computed columns -/

def computedColumns (t : StoredTable) : List (StoredColumn × Expression) :=
  t.columns.filterMap fun c => c.computed.map fun (_, e) => (c, e)

/-- The columns that a pass over those that wait can compute, as they depend on none that still
    waits, and those that wait after it. -/
def computePass (waiting : List (StoredColumn × Expression)) :
    List (StoredColumn × Expression) × List (StoredColumn × Expression) :=
  waiting.foldl (fun (done, waiting) (c, e) =>
    if e.names.any fun name => waiting.any fun (other, _) => sameName other.name name then
      (done, waiting)
    else (done ++ [(c, e)], waiting.filter fun (other, _) => !sameName other.name c.name))
    ([], waiting)

/-- The order in which columns are computed in as many passes as it takes, and the last column that
    waits for others without end. -/
def orderWithin : Nat → List (StoredColumn × Expression) →
    List (StoredColumn × Expression) × Option String
  | 0, _ => ([], none)
  | bound + 1, waiting =>
    let (done, left) := computePass waiting
    match left.getLast? with
    | none => (done, none)
    | some (c, _) =>
      if done.isEmpty then ([], some c.name)
      else
        let (rest, stuck) := orderWithin bound left
        (done ++ rest, stuck)

/-- The order in which columns are computed, and the last one that waits for others without end. -/
def computeOrder (t : StoredTable) : List (StoredColumn × Expression) × Option String :=
  orderWithin (t.columns.length + 1) t.computedColumns

def withComputed (t : StoredTable) (a : Activity) (row : Row) (c : StoredColumn)
    (e : Expression) : Evaluating Row := do
  match t.position? c.name with
  | some i =>
    let cell := c.affinity.apply (← e.evaluate (t.view .computed row a))
    return { row with cells := row.cells.set i cell }
  | none => return row

def compute (t : StoredTable) (a : Activity) (row : Row) : Evaluating Row :=
  t.computeOrder.1.foldlM (fun row (c, e) => t.withComputed a row c e) row

/-! ## Preparation -/

/-- Looks at the computed columns. -/
def prepareComputed (t : StoredTable) : Preparing Unit := do
  let (order, stuck) := t.computeOrder
  order.forM fun (_, e) => (e.prepared ⟨some .computed, t.nature?⟩).value .usual
  if let some column := stuck then Preparing.found .usual (.loop column)

def prepareChecks (t : StoredTable) (checks : List Check) : Preparing Unit :=
  checks.forM fun k => k.rule.prepareRule ⟨some .check, t.nature?⟩

/-- Looks at all expressions that are needed for a row in which some columns are given. -/
def prepareRow (t : StoredTable) (given : List String) : Preparing Unit := do
  t.columns.forM fun c =>
    if given.any (sameName c.name) || t.isRowKey c.name then return
    else c.default.forM (·.prepare .ofDefault)
  t.prepareComputed
  let replaced := (t.columns.filter t.replacesNull).filterMap (·.default)
  replaced.forM fun e => (e.prepared .ofDefault).value .usual
  if !replaced.isEmpty then t.prepareComputed
  t.prepareChecks t.checks

/-! ## What a row may not break -/

/-- Whether two rows agree in the parts of an index.  Null agrees with nothing. -/
def agree (t : StoredTable) (parts : List IndexPart) (a b : Row) : Bool :=
  parts.all fun p => match p.column with
    | none => true
    | some c => (t.cell a c).same p.collation (t.cell b c)

/-- Whether rows differ from each other in the parts of an index. -/
def areDistinct (t : StoredTable) (parts : List IndexPart) : List Row → Bool
  | [] => true
  | row :: rest => !(rest.any (t.agree parts row)) && t.areDistinct parts rest

/-- Why the values of an index cannot repeat. -/
def repetition (t : StoredTable) (index : String) (parts : List IndexPart) : Refusal :=
  match parts.mapM (·.column) with
  | some columns => .repeatedValue t.name columns
  | none => .repeatedInIndex index

/-- Puts defaults in the place of null in the columns that ask for it. -/
def replaceNulls (t : StoredTable) (a : Activity) (row : Row) : Inserting Row := do
  let cells ← (t.columns.zip row.cells).mapM fun (c, cell) => do
    match c.default with
    | some e =>
      if t.replacesNull c && cell.isNull then return c.affinity.apply (← defaultValue e a)
      else return cell
    | none => return cell
  return { row with cells }

/-- The first column that holds null although it rejects that, among those that pass a test. -/
def nullColumn? (t : StoredTable) (row : Row) (test : StoredColumn → Bool) :
    Option StoredColumn :=
  t.columns.find? fun c =>
    c.notNull.isSome && !t.isRowKey c.name && test c && (t.cell row c.name).isNull

/-- The row after its columns were asked whether they reject null, unless it is left out. -/
def checkNulls (t : StoredTable) (a : Activity) (row : Row) : Inserting (Option Row) := do
  -- Computed columns, and those with a default for null, are asked once defaults are in.
  match t.nullColumn? row fun c => c.computed.isNone && !t.replacesNull c with
  | some c =>
    if c.notNull == some .ignore then return none
    throw (.nullValue t.name c.name)
  | none =>
    let row ← if t.columns.any t.replacesNull then
        t.replaceNulls a row >>= fun row => .ofEvaluating (t.compute a row)
      else pure row
    match t.nullColumn? row fun _ => true with
    | some c =>
      if c.notNull == some .ignore then return none
      throw (.nullValue t.name c.name)
    | none => return some row

/-- The name of a value's kind in a strict table. -/
def strictKind : Cell → String
  | .null => "NULL"
  | .number (.int _) => "INT"
  | .number _ => "REAL"
  | .text _ => "TEXT"
  | .blob _ => "BLOB"

/-- Whether a strict column of a type holds a value. -/
def holds (type : String) (cell : Cell) : Bool :=
  match Text.asciiLower type, cell with
  | "any", _ | _, .null => true
  | "int", .number (.int _) | "integer", .number (.int _) => true
  | "real", .number _ => true
  | "text", .text _ => true
  | "blob", .blob _ => true
  | _, _ => false

/-- Refuses a value of the wrong kind in a strict table, among the columns that pass a test. -/
def checkKinds (t : StoredTable) (row : Row) (test : StoredColumn → Bool) :
    Except Refusal Unit :=
  if !t.strict then .ok ()
  else (t.columns.zip row.cells).forM fun (c, cell) =>
    let type := c.type.getD ""
    if !test c || holds type cell then .ok ()
    else .error (.kindRefused (strictKind cell) (Text.asciiUpper type) t.name c.name)

/-- Refuses a row in which a check does not hold. -/
def runChecks (t : StoredTable) (a : Activity) (row : Row) : Inserting Unit :=
  t.checks.forM fun k => do
    if !(← Inserting.ofEvaluating (k.rule.holds (t.view .check row a))) then
      throw (.checkFailed k.name)

end StoredTable

/-- Why a row cannot join others: those that are in its way, and what is done about them. -/
structure Obstacle where
  conflict : Option Conflict
  blocks : Row → Bool
  refusal : Refusal

namespace Obstacle

/-- The rows that a row can join after its obstacles are out of the way, unless it is left out. -/
def clear : List Obstacle → List Row → Except Refusal (Option (List Row))
  | [], rows => .ok (some rows)
  | o :: rest, rows =>
    if rows.any o.blocks then
      match o.conflict with
      | some .ignore => .ok none
      | some .replace => clear rest (rows.filter fun row => !o.blocks row)
      | _ => .error o.refusal
    else clear rest rows

/-- Obstacles with those at the end that rows make way for. -/
def inOrder (os : List Obstacle) : List Obstacle :=
  let (last, first) := os.partition fun o => o.conflict == some .replace
  first ++ last

end Obstacle

namespace Database

/-- What can be in the way of a row: the key of another one, and whatever never repeats, the
    youngest first. -/
def obstacles (db : Database) (t : StoredTable) (row : Row) : List Obstacle :=
  let ofParts (index : String) (parts : List IndexPart) (conflict : Option Conflict) : Obstacle :=
    ⟨conflict, t.agree parts row, t.repetition index parts⟩
  let named := (db.indexes.filter fun i => i.unique && sameName i.table t.name).map fun i =>
    ofParts i.name i.parts none
  let own := t.guards.map fun g => ofParts "" g.parts g.conflict
  let key : Obstacle :=
    ⟨t.rowKey.bind (·.conflict), fun other => other.key == row.key,
      .repeatedValue t.name [(t.rowKey.map (·.column)).getD "rowid"]⟩
  -- The key comes first, then named indexes, then the groups of the table.
  Obstacle.inOrder (key :: (named.reverse ++ own.reverse))

def checkColumn (t : StoredTable) (given column : String) : Except Refusal Unit :=
  match t.column? column with
  | some c => if c.computed.isSome then .error (.columnComputed c.name) else .ok ()
  | none => if t.namesKey column then .ok () else .error (.noSuchColumn given column)

/-- The key of a row that is given none: the one after the greatest. -/
def nextKey (t : StoredTable) : Except Refusal Int :=
  let greatest := (t.rows.map (·.key)).max?.getD 0
  -- A counted key starts at one, and there is none after the greatest integer.
  if t.rowKey.any (·.counting) then
    if Cell.fits (greatest + 1) then .ok (max greatest 0 + 1) else .error .full
  else .ok (greatest + 1)

def rowKey (t : StoredTable) : Cell → Except Refusal Int
  | .null => nextKey t
  | c => match Affinity.numeric.apply c with
    | .number (.int n) => .ok n
    | _ => .error .keyNotInteger

/-- The values of the columns of a row that are not computed, by the values that are given. -/
def givenCells (t : StoredTable) (a : Activity) (values : List (String × Cell)) :
    Inserting (List Cell) :=
  t.columns.mapM fun c => do
    if t.isRowKey c.name || c.computed.isSome then return .null
    match values.find? fun v => sameName v.1 c.name with
    | some (_, cell) => return c.affinity.apply cell
    | none => match c.default with
      | some e => return c.affinity.apply (← StoredTable.defaultValue e a)
      | none => return .null

/-- A row with the values of its columns, its key, and its computed columns. -/
def newRow (t : StoredTable) (a : Activity) (values : List (String × Cell)) : Inserting Row := do
  let cells ← givenCells t a values
  -- Of several values for the key the last one counts.
  let given := values.reverse.find? fun (name, _) => t.isRowKey name || t.namesKey name
  let key ← rowKey t ((given.map Prod.snd).getD .null)
  let row : Row := ⟨key, (t.columns.zip cells).map fun (c, cell) =>
    if t.isRowKey c.name then .int key else cell⟩
  if t.columns.any (·.computed.isSome) then t.checkKinds row (·.computed.isNone)
  .ofEvaluating (t.compute a row)

/-- The database after a row with given values joins a table, if it does. -/
def insertCells (db : Database) (t : StoredTable) (values : List (String × Cell)) :
    Inserting Database := do
  let row ← newRow t db.activity values
  match ← t.checkNulls db.activity row with
  | none => return { db with activity := db.activity.failed }
  | some row =>
    t.checkKinds row fun _ => true
    t.runChecks db.activity row
    match ← Obstacle.clear (db.obstacles t row) t.rows with
    | none => return { db with activity := db.activity.failed }
    | some rows =>
      let db := db.update t.name fun t => { t with rows := rows ++ [row] }
      return { db with
        activity := db.activity.inserted (if t.keyless then none else some row.key) }

/-- The table of a row and the values that are given for its columns. -/
def readRow (db : Database) (table : String) (values : List (String × Value)) :
    Except Refusal (StoredTable × List (String × Cell)) := do
  let columns := values.map Prod.fst
  if (table :: columns).any fun s => s.toList.contains '\x00' then throw .nullCharacter
  if values.isEmpty then throw (.notUnderstood ")")
  if let some own := schemaTable? table then throw (.protectedTable own "modified")
  match db.table? table with
  | none => throw (.noSuchTable table)
  | some t =>
    columns.forM (checkColumn t table)
    if let some fault := (t.prepareRow columns).fault? then throw (.badExpression fault)
    return (t, columns.zip (← Cell.ofValues 1 (values.map Prod.snd)))

/-- The database after a row is to be inserted, and why it is refused if it is.  Columns that are
    not given hold their defaults. -/
def insert (db : Database) (table : String) (values : List (String × Value)) :
    Database × Except Refusal Unit :=
  match db.readRow table values with
  | .error refusal => (db, .error refusal)
  | .ok (t, cells) =>
    match (db.insertCells t cells).run db.activity.draws with
    | .ok (db, draws) => ({ db with activity := { db.activity with draws } }, .ok ())
    | .error refusal => ({ db with activity := db.activity.failed }, .error refusal)

end Database

end Accrete
