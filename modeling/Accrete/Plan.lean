import Accrete.Draft
import Accrete.Statement.Sql

/-!
# Plans

A difference turned into operations.

* `Table.creation`     -- the operation that creates a table
* `Extension.addition` -- the operation that adds columns to one
* `Plan.build`         -- all additions, then all creations

Every created table has a generated primary key `id` before its declared columns, so no table
may declare a column of that name itself.
-/

namespace Accrete

def primaryKeyName : String := "id"

/-- The column of a field.  `covered` lists the columns that some index or constraint of the
    operation names. -/
def Field.column (f : Field) (name : Value) (d : Dialect) (covered : Columns) : Column :=
  ⟨name, f.columnType d (name.isIn covered), !f.isRequired, false, f.unique, f.references⟩

def Column.addedEvent (table : String) (c : Column) : Event :=
  .columnAdded table c.name.plain c.type

def unknownColumns (known group : Columns) : Columns := group.filter fun c => !c.isIn known

/-- Refuses the first group of columns that names unknown ones. -/
def checkGroups (table : String) (known : Columns) (groups : List Columns) : Except Error Unit := do
  if let some columns := (groups.map (unknownColumns known)).find? (!·.isEmpty) then
    let listed ← (Value.join ", " columns).mapError Error.misused
    throw (.declaration (.refused ⟨some table, none, .columnsUnknown listed⟩))

/-- Refuses groups in which a column is named by something that is no key. -/
def checkGroupKeys (groups : List Columns) : Except Error Unit :=
  (Value.checkKeys groups.flatten).mapError Error.misused

namespace Extension

/-- The groups of columns that the indexes of an extension name. -/
def groups (e : Extension) : List Columns := e.indexes.map (·.columns)

/-- The operation that adds the fields of an extension. -/
def addition (e : Extension) (d : Dialect) : ColumnAddition :=
  let columns := e.fields.map fun f => f.2.column f.1 d e.groups.flatten
  ⟨e.table, columns, e.order, e.indexes⟩

/-- Plans an extension.  Its indexes may only name columns that it adds. -/
def plan (e : Extension) (d : Dialect) : Logged Operation := do
  let a := e.addition d
  Logged.ofExcept (checkGroupKeys e.groups)
  Logged.ofExcept (checkGroups e.table a.columnNames e.groups)
  Logged.report (a.columns.map (Column.addedEvent e.table))
  return .add a

end Extension

namespace Table

/-- The groups of columns that the constraints and indexes of a table name. -/
def groups (t : Table) : List Columns :=
  t.uniqueConstraints ++ t.indexes.map (·.columns)

def keyColumn (d : Dialect) : Column :=
  ⟨.text primaryKeyName, d.idType, false, true, .bool false, .null⟩

def declaredColumns (t : Table) (d : Dialect) : List Column :=
  t.fields.map fun f => f.2.column f.1 d t.groups.flatten

def creation (t : Table) (d : Dialect) : TableCreation :=
  ⟨t.name, keyColumn d :: t.declaredColumns d, t.order, t.uniqueConstraints, t.indexes⟩

/-- Plans the creation of a table.  Its constraints and indexes may only name its columns, and
    its statements have to be writable. -/
def plan (t : Table) (d : Dialect) : Logged Operation := do
  -- The table is announced before anything but its names can be refused.
  let listed ← Logged.ofExcept ((Value.join ", " (Bag.names t.fields)).mapError Error.misused)
  Logged.report [.tableCreated t.name listed]
  Logged.ofExcept (checkGroupKeys t.groups)
  let c := t.creation d
  Logged.report ((t.declaredColumns d).map (Column.addedEvent t.name))
  Logged.ofExcept (checkGroups t.name c.columnNames t.groups)
  let sql ← Logged.ofExcept (((Operation.create c).sql d).mapError Error.statement)
  Logged.report [.tableWritten t.name sql]
  return .create c

/-- Whether a field declares the generated primary key, by its key or by its physical name. -/
def declaresKey (e : Value × Field) : Bool :=
  e.1.sameKey (.text primaryKeyName) || e.2.fieldName.sameKey (.text primaryKeyName)

/-- The key of the first field that declares the generated primary key. -/
def reservedField? (t : Table) : Option Value := (t.fields.find? declaresKey).map Prod.fst

/-- Refuses a table that declares the generated primary key.  The refusal is placed at the table
    and the key, which has to be a text for that. -/
def checkReserved (t : Table) : Except Error Unit := do
  if let some key := t.reservedField? then
    let _ ← (Value.join "." ([.text t.name, key].filter Value.isTruthy)).mapError Error.misused
    throw (.reservedColumn t.name key)

end Table

/-- The operations of one migration, for one dialect. -/
structure Plan where
  dialect : Dialect
  operations : List Operation

namespace Plan

/-- Whether there is nothing to do. -/
def isEmpty (p : Plan) : Bool := p.operations.isEmpty

/-- The plan of tables in creation order and of additions.  Reserved columns are refused before
    anything is planned. -/
def ofOrdered (tables : List Table) (additions : Logged (List Operation)) (d : Dialect) :
    Logged Plan := do
  Logged.ofExcept (tables.forM Table.checkReserved)
  let additions ← additions
  let creations ← tables.mapM (·.plan d)
  return ⟨d, additions ++ creations⟩

/-- The plan that makes up for a difference.  Columns are added before tables are created, both
    in ascending order. -/
def build (toCreate : List Table) (toAdd : List Extension) (d : Dialect) : Logged Plan := do
  let tables ← creationOrder toCreate
  ofOrdered tables ((extensionsByOrder toAdd).mapM (·.plan d)) d

/-- The plan of drafts, in the order of a plan that makes up for a difference. -/
def ofDrafts (toCreate : List TableDraft) (toAdd : List ExtensionDraft) (d : Dialect) :
    Logged Plan := do
  let tables ← TableDraft.inCreationOrder toCreate
  let additions := byOrderAndName ExtensionDraft.order ExtensionDraft.table toAdd
  ofOrdered tables (additions.mapM fun e => do
    (← Logged.ofExcept (e.read.mapError Error.misused)).plan d) d

def document (p : Plan) : Except StatementError String := Accrete.document p.dialect p.operations

end Plan

end Accrete
