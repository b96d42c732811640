import Accrete.Database.Definition.Statement
import Accrete.Database.Expression.PlainValue
import Accrete.Database.Insertion
import Accrete.Statement.Sql

/-!
# Databases

What statements do to an SQLite database.

* `Database.createTable`, `Database.addColumn`, `Database.createIndex` -- what a text does that
  defines a table, a column or an index
* `Database.dropTable`  -- a database without a table
* `Database.execute`    -- what a statement does, given its text

Each change takes effect as a whole or not at all.
-/

namespace Accrete

namespace Definition

/-- The table that a definition makes, without rows. -/
def table (d : Definition) (options : TableOptions) (source : List Char × List Char) :
    StoredTable where
  name := d.name
  columns := d.columns
  rowKey := d.rowKey
  guards := d.guards
  checks := d.checks
  keyless := options.keyless
  strict := options.strict
  definition := source
  rows := []

end Definition

namespace TableStatement

/-- The table that a statement makes, without rows.  `reread` tells that it was accepted before. -/
def table (reread : Bool) (s : TableStatement) : Except Refusal StoredTable := do
  let d ← s.definition.complete s.options reread
  if let some fault := s.fault then throw fault
  return d.table s.options s.source

end TableStatement

namespace StoredTable

def definitionWith (t : StoredTable) (column : List Char) : String :=
  String.ofList ("CREATE TABLE ".toList ++ t.definition.1 ++ ", ".toList ++ column ++
    t.definition.2)

end StoredTable

namespace Database

/-- Refuses a text that holds the character zero. -/
def checkText (text : String) : Except Refusal Unit :=
  if text.toList.contains '\x00' then .error .nullCharacter else .ok ()

/-! ## Tables -/

/-- What speaks against a new table of a name. -/
def nameFault? (db : Database) (name : Token) : Option Refusal :=
  if isReserved name.value then some (.reservedName name.value)
  else if (db.table? name.value).isSome then some (.tableExists name.source)
  else if db.hasIndex name.value then some (.nameIsIndex name.value)
  else none

/-- The table in which a database counts keys that are never used again. -/
def sequenceTable : StoredTable :=
  let columns := ["name", "seq"].map fun name => Definition.plainColumn name none
  { Definition.start "sqlite_sequence" with columns : Definition }.table ⟨false, false⟩ ([], [])

/-- A database with a further table, and with the one that counts its keys if it needs that. -/
def withTable (db : Database) (t : StoredTable) : Database :=
  let counts := t.rowKey.any (·.counting) && (db.table? sequenceTable.name).isNone
  { db with tables := db.tables ++ (if counts then [sequenceTable] else []) ++ [t] }

def createTable (db : Database) (text : String) : Except Refusal Database := do
  checkText text
  let s ← (TableStatement.reader false db.nameFault?).run text
  let t ← s.table false
  -- The faults of the statement itself come before the one that another follows it.
  if s.followed then throw .severalStatements
  s.definition.checkLoops
  return db.withTable t

/-! ## Columns -/

/-- The columns of a table to which a column is to be added.  Until then it goes by another
    name. -/
def columnsBefore (db : Database) (name : Token) : Except Refusal Definition :=
  match db.ownTable? name.value with
  | some own => .error (.protectedTable own "altered")
  | none => match db.table? name.value with
    | none => .error (.noSuchTable name.value)
    | some t => .ok { Definition.start ("sqlite_altertab_" ++ t.name) with columns := t.columns }

/-- Refuses an added column that rows cannot have that are there already. -/
def checkAddedRows (c : StoredColumn) : Except Refusal Unit :=
  match c.computed with
  | some (.stored, _) => .error .addedColumnStored
  | some (.virtual, _) => .ok ()
  | none =>
    let default := c.default.filter fun e => !(e matches .literal .null)
    if c.notNull.isSome && default.isNone then .error .addedColumnNotNull
    else if default.any fun e => (e.plainValue? .blob).isNone then .error .addedColumnNotConstant
    else .ok ()

/-- A row of a table with the default of an added column, and with what is computed. -/
def extendRow (t : StoredTable) (a : Activity) (c : StoredColumn) (row : Row) : Row :=
  let value := (c.default.bind (·.plainValue? c.affinity)).getD .null
  let row := { row with cells := row.cells ++ [value] }
  match (t.compute a row).run a.draws with
  | .ok (row, _) => row
  | .error _ => row

/-- Refuses rows that break the rules of a table, of which the last check comes first. -/
def checkRow (t : StoredTable) (a : Activity) (row : Row) : Inserting Unit := do
  if (t.nullColumn? row fun _ => true).isSome then throw .addedColumnNull
  t.checks.reverse.forM fun k => do
    if !(← Inserting.ofEvaluating (k.rule.holds (t.view .check row a))) then
      throw .addedColumnCheck

/-- Refuses an added column that comes with rules of its own if a row breaks a rule. -/
def checkExtended (t : StoredTable) (a : Activity) (added : Definition) :
    Except Refusal Unit := do
  if !added.checks.isEmpty || (added.last.computed.isSome && added.last.notNull.isSome) then
    if let some fault := (t.prepareChecks t.checks.reverse).fault? then
      throw (.badExpression fault)
    let _ ← (t.rows.forM (checkRow t a)).run a.draws

/-- The table of a statement that adds a column, read again as a whole. -/
def rereadTable (t : StoredTable) (column : List Char) : Except Refusal StoredTable :=
  let read := (TableStatement.reader true fun _ => none).run (t.definitionWith column)
  (read >>= TableStatement.table true).mapError fun refusal =>
    .addedColumnSpoils ("table " ++ t.name) refusal.message

/-- Refuses a table that has lost unique constraints, so that nothing explains their indexes. -/
def checkGuards (before after : StoredTable) : Except Refusal Unit :=
  let count := after.guards.length
  if count < before.guards.length then
    .error (.addedColumnSpoils
      ("index sqlite_autoindex_" ++ before.name ++ "_" ++ toString (count + 1)) "orphan index")
  else .ok ()

/-- The database after a column is added to a table, which is read again as a whole.  It keeps its
    name and its columns, with the added one after them. -/
def addColumn (db : Database) (text : String) : Except Refusal Database := do
  checkText text
  let s ← (ColumnStatement.reader db.columnsBefore).run text
  let added := s.definition
  match db.table? s.table.value with
  | none => throw (.noSuchTable s.table.value)
  | some t =>
    if !added.keyColumns.isEmpty then throw .addedColumnPrimary
    if !added.guards.isEmpty then throw .addedColumnUnique
    if s.followed then throw .severalStatements
    if s.parameters != 0 then throw (.valuesMissing s.parameters)
    if !t.rows.isEmpty then checkAddedRows added.last
    -- From here on the text of the whole table counts, with the new column in it.
    let whole ← rereadTable t s.source
    checkGuards t whole
    let whole := { whole with name := t.name, columns := added.columns }
    -- Rows are extended before they are checked, since rules may name the new column.
    let whole := { whole with rows := t.rows.map (extendRow whole db.activity added.last) }
    checkExtended whole db.activity added
    return db.update t.name fun _ => whole

/-! ## Indexes -/

/-- A part of an index: a column, or a constant text if no column has the name and it is written
    between double quotes. -/
def indexPart (t : StoredTable) (p : KeyPart) : Except Refusal IndexPart :=
  match Definition.namedBy p.rule with
  | none => .ok ⟨none, .binary⟩
  | some (name, doubleQuoted) => match t.column? name with
    | some c => .ok ⟨some c.name, c.collation⟩
    | none => if doubleQuoted then .ok ⟨none, .binary⟩ else .error (.noIndexedColumn name)

def indexedTable (db : Database) (name : String) : Except Refusal StoredTable :=
  match db.ownTable? name with
  | some own => .error (.protectedTable own "indexed")
  | none => match db.table? name with
    | some t => .ok t
    | none => .error (.noSuchTable ("main." ++ name))

def checkIndexName (db : Database) (name : String) : Except Refusal Unit :=
  if isReserved name then .error (.reservedName name)
  else if (db.table? name).isSome then .error (.nameIsTable name)
  else if db.hasIndex name then .error (.indexExists name)
  else .ok ()

def createIndex (db : Database) (text : String) : Except Refusal Database := do
  checkText text
  let s ← IndexStatement.reader.run text
  let t ← db.indexedTable s.table.value
  db.checkIndexName s.name.value
  let parts ← s.parts.mapM (indexPart t)
  if s.followed then throw .severalStatements
  if s.unique && !t.areDistinct parts t.rows then throw (t.repetition s.name.value parts)
  return { db with indexes := db.indexes ++ [⟨s.name.value, t.name, parts, s.unique⟩] }

/-! ## Statements -/

def dropTable (db : Database) (name : String) : Except Refusal Database := do
  checkText name
  if let some own := db.ownTable? name then throw (.protectedTable own "dropped")
  if (db.table? name).isNone then throw (.noSuchTable name)
  return { db with
    tables := db.tables.filter fun t => !sameName t.name name
    indexes := db.indexes.filter fun i => !sameName i.table name }

def execute (db : Database) (s : Statement) (text : String) : Except Refusal Database :=
  match s with
  | .createTable .. => db.createTable text
  | .addColumn .. | .addForeignKey .. => db.addColumn text
  | .createIndex .. => db.createIndex text

end Database

end Accrete
