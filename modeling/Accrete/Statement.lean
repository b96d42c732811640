import Accrete.Operation
import Accrete.Statement.Error
import Accrete.Statement.Known

/-!
# Statements

The statements of SQL that define tables, as data.

* `Statement`               -- a statement
* `TableCreation.statements`, `ColumnAddition.statements` -- the statements of an operation

What cannot be built at all is refused here; a foreign key whose target cannot be found is kept
as a `Target.missing`, and a name that cannot be written as a `Written.unwritable`, and both are
refused when the statement is written.
-/

namespace Accrete

/-- A column as a statement defines it. -/
structure ColumnSpec where
  name : String
  type : String
  notNull : Bool
deriving DecidableEq, Repr

/-- A foreign key of one column. -/
structure ForeignKey where
  column : String
  target : Target
  onDelete : Option OnDelete

/-- A constraint of a table that is being created. -/
inductive Constraint where
  | primaryKey (columns : List String)
  | unique (columns : List String)
  | foreignKey (key : ForeignKey)

/-- How a value is written as a name. -/
inductive Written where
  | name (s : String)
  /-- A name that is always quoted. -/
  | quoted (s : String)
  /-- A value of a kind that no name has. -/
  | unwritable (kind : String)
deriving DecidableEq, Repr

namespace Written

/-- How a value is written as a name.  A computed kind is written by its spelling. -/
def ofValue : Value → Written
  | .text s => name s
  | .computedKind k => quoted k.spelling
  | v => unwritable v.kindName

end Written

/-- The reference of a column that is being added. -/
structure InlineReference where
  table : Written
  column : Written
  onDelete : Option OnDelete
deriving DecidableEq

/-- A statement that defines part of a table. -/
inductive Statement where
  | createTable (table : String) (columns : List ColumnSpec) (constraints : List Constraint)
  | addColumn (table : String) (column : ColumnSpec) (unique : Bool)
      (references : Option InlineReference)
  | addForeignKey (table : String) (key : ForeignKey)
  | createIndex (index table : String) (columns : List String) (unique : Bool)

namespace Column

/-- A column as a statement defines it under a name.  A primary key rejects null. -/
def spec (c : Column) (name : String) : ColumnSpec := ⟨name, c.type, !c.nullable || c.primaryKey⟩

def bringsUnique (c : Column) : Bool := c.isUnique && !c.primaryKey

end Column

def Index.statementName (i : Index) (table : String) : Except StatementError String :=
  (i.nameOn table).mapError StatementError.misused

/-- The statement that creates an index of a table with the given columns.  A column may be named
    by its position. -/
def Index.statement (i : Index) (table : String) (known : List String) :
    Except StatementError Statement := do
  let name ← i.statementName table
  let columns ← i.columns.mapM (columnOf known)
  return .createIndex name table columns i.unique

namespace TableCreation

def columnNames (c : TableCreation) : Columns := c.columns.map (·.name)

/-- Refuses a unique constraint that names a column by a value that is no text. -/
def checkGroup (group : Columns) : Except StatementError Unit :=
  match group.find? fun v => v.text?.isNone with
  | some v => .error (.constraintNotText v)
  | none => .ok ()

def uniqueConstraint (table : String) (known : List String) (group : Columns) :
    Except StatementError Constraint := do
  let columns ← group.mapM fun v => match v.text?.filter known.contains with
    | some name => .ok name
    | none => .error (.constraintColumnUnknown table v.plain)
  return .unique columns.eraseDups

/-- The constraints that a column of a given name brings: its uniqueness and its foreign key. -/
def columnConstraints (known : KnownTables) (table name : String) (col : Column) :
    List Constraint :=
  (if col.bringsUnique then [.unique [name]] else []) ++
    (col.reference?.toList.map fun r =>
      .foreignKey ⟨name, known.resolve table name r, r.onDelete⟩)

/-- The primary-key constraint, if any column is part of the key. -/
def keyConstraint (columns : List (String × Column)) : List Constraint :=
  match (columns.filter (·.2.primaryKey)).map Prod.fst with
  | [] => []
  | names => [.primaryKey names]

/-- The statements of a table creation: the table, then its indexes. -/
def statements (c : TableCreation) : Except StatementError (List Statement) := do
  -- Faults come in the order of these steps, those of other tables first.
  let others ← KnownTables.ofColumns c.table c.columns
  let names ← c.columnNames.mapM columnNamed
  c.uniqueConstraints.forM checkGroup
  checkNames c.table [] names
  let uniques ← c.uniqueConstraints.mapM (uniqueConstraint c.table names)
  let known := KnownTables.own c.table names :: others
  let columns := names.zip c.columns
  let constraints := keyConstraint columns ++ uniques ++
    columns.flatMap fun (name, col) => columnConstraints known c.table name col
  let indexes ← c.indexes.mapM fun i => i.statement c.table names
  return .createTable c.table (columns.map fun (name, col) => col.spec name) constraints :: indexes

end TableCreation

namespace ColumnAddition

def columnNames (a : ColumnAddition) : Columns := a.columns.map (·.name)

/-- The columns of the table itself that the added ones reference and that are not added, in
    ascending order. -/
def selfTargets (a : ColumnAddition) : Except Misuse Columns := do
  Value.checkKeys a.columnNames
  let own := (a.columns.filterMap (·.reference?)).filter fun r => r.model.sameKey (.text a.table)
  Value.checkKeys (own.map (·.column))
  Value.sort ((own.map (·.column)).filter fun v => !v.isIn a.columnNames)

/-- Whether uniqueness can be stated while a column is added. -/
def inlinesUnique : Dialect → Bool
  | .sqlite => false
  | _ => true

/-- Whether a reference can be stated while a column is added. -/
def inlinesReference : Dialect → Bool
  | .mysql => false
  | _ => true

/-- The statement that adds a column, and where its reference is not stated inline the one that
    adds the foreign key.  `specs` are the columns of the table. -/
def columnStatements (a : ColumnAddition) (d : Dialect) (known : KnownTables)
    (specs : List ColumnSpec) (col : Column) : Except StatementError (List Statement) := do
  let name ← columnOf (specs.map (·.name)) col.name
  -- A number counts a position, and then the column that stands there is added.
  let spec := (specs.find? fun s => s.name == name).getD (col.spec name)
  let inlined := if inlinesReference d then
      col.reference?.map fun r => ⟨.ofValue r.model, .ofValue r.column, r.onDelete⟩
    else none
  let keys := if inlinesReference d then [] else
    col.reference?.toList.map fun r =>
      .addForeignKey a.table ⟨name, known.resolve a.table name r, r.onDelete⟩
  return .addColumn a.table spec (col.isUnique && inlinesUnique d) inlined :: keys

/-- The unique indexes that stand for uniqueness which cannot be stated inline. -/
def uniqueIndexes (a : ColumnAddition) (d : Dialect) (known : List String) :
    Except StatementError (List Statement) :=
  if inlinesUnique d then .ok [] else
    (a.columns.filter (·.isUnique)).mapM fun col =>
      (Index.uniqueOn [col.name]).statement a.table known

/-- The statements of a column addition: each column in order, then the indexes. -/
def statements (a : ColumnAddition) (d : Dialect) : Except StatementError (List Statement) := do
  let others ← KnownTables.ofColumns a.table a.columns
  let targets ← a.selfTargets.mapError StatementError.misused
  let own ← a.columnNames.mapM columnNamed
  let names := own ++ (← targets.mapM columnNamed)
  checkNames a.table [] names
  let specs := (own.zip a.columns).map (fun (name, col) => col.spec name) ++
    (names.drop own.length).map fun name => ⟨name, d.idType, false⟩
  let known := KnownTables.own a.table names :: others
  let columns ← a.columns.mapM (a.columnStatements d known specs)
  let uniques ← a.uniqueIndexes d names
  let indexes ← a.indexes.mapM fun i => i.statement a.table names
  return columns.flatten ++ uniques ++ indexes

end ColumnAddition

def Operation.statements (d : Dialect) : Operation → Except StatementError (List Statement)
  | .create c => c.statements
  | .add a => a.statements d

end Accrete
