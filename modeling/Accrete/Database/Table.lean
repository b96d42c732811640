import Accrete.Database.Activity
import Accrete.Database.Expression

/-!
# Stored tables

The tables of a database and their indexes.

* `StoredColumn`, `StoredTable`  -- a table with its rules and rows
* `StoredIndex`                  -- an index that was created by name
* `Guard`                        -- values that never repeat together, and what is done if they do
* `Database.ownTable?`           -- the tables that a database keeps for itself
* `sameName`                     -- how names are compared

Names are compared without regard to the case of ASCII letters.
-/

namespace Accrete

/-- What is done with a row that breaks a rule: the first three refuse it and differ in what
    happens to earlier rows, the next leaves it out, and the last puts it in the place of the rows
    in its way. -/
inductive Conflict where
  | rollback | abort | fail | ignore | replace
deriving DecidableEq, Repr, Inhabited

/-- How a column is computed: when it is read, or when a row is written. -/
inductive Storage where
  | virtual | stored
deriving DecidableEq, Repr

/-- A column of a stored table. -/
structure StoredColumn where
  name : String
  /-- The declared type, if there is one. -/
  type : Option String
  affinity : Affinity
  collation : Collation
  /-- What is done with null, unless it is allowed. -/
  notNull : Option Conflict
  default : Option Expression
  computed : Option (Storage × Expression)
deriving Repr, Inhabited

/-- A part of an index: a column, or a text that is the same in every row, with the collation under
    which its values are compared. -/
structure IndexPart where
  column : Option String
  collation : Collation
deriving DecidableEq, Repr

/-- Parts of a row that never repeat together in a table, and what is done if they do, where that
    is stated. -/
structure Guard where
  parts : List IndexPart
  conflict : Option Conflict
deriving DecidableEq, Repr

/-- The column that is the key of a row, and what is done if it repeats. -/
structure RowKey where
  column : String
  conflict : Option Conflict
  /-- Whether keys are never used again. -/
  counting : Bool
deriving DecidableEq, Repr

/-- A rule that every row keeps, under the name by which it is reported. -/
structure Check where
  name : String
  rule : Expression
deriving Repr

/-- A row: its key, and its values in column order. -/
structure Row where
  key : Int
  cells : List Cell
deriving DecidableEq, Repr, Inhabited

/-- A stored table.  Its definition is kept as it was written, cut where added columns go. -/
structure StoredTable where
  name : String
  columns : List StoredColumn
  rowKey : Option RowKey
  guards : List Guard
  checks : List Check
  /-- Whether rows have no key of their own. -/
  keyless : Bool
  /-- Whether columns hold only values of their types. -/
  strict : Bool
  definition : List Char × List Char
  rows : List Row
deriving Repr, Inhabited

/-- An index that was created by name. -/
structure StoredIndex where
  name : String
  table : String
  parts : List IndexPart
  unique : Bool
deriving DecidableEq, Repr

/-- Whether two names are the same to a database. -/
def sameName (a b : String) : Bool := Text.asciiLower a == Text.asciiLower b

namespace StoredTable

def position? (t : StoredTable) (column : String) : Option Nat :=
  t.columns.findIdx? fun c => sameName c.name column

def column? (t : StoredTable) (name : String) : Option StoredColumn :=
  t.columns.find? fun c => sameName c.name name

def hasColumn (t : StoredTable) (column : String) : Bool := (t.position? column).isSome

def columnNames (t : StoredTable) : List String := t.columns.map (·.name)

/-- The value of a column in a row, null if there is no such column. -/
def cell (t : StoredTable) (row : Row) (column : String) : Cell :=
  ((t.position? column).bind (row.cells[·]?)).getD .null

end StoredTable

/-- The tables and the indexes of a database, the oldest first. -/
structure Database where
  tables : List StoredTable
  indexes : List StoredIndex
  activity : Activity
deriving Repr, Inhabited

namespace Database

def empty : Database := ⟨[], [], .none⟩

def isBlank (db : Database) : Bool := db.tables.isEmpty && db.indexes.isEmpty

def table? (db : Database) (name : String) : Option StoredTable :=
  db.tables.find? fun t => sameName t.name name

def hasIndex (db : Database) (name : String) : Bool := db.indexes.any fun i => sameName i.name name

def update (db : Database) (name : String) (f : StoredTable → StoredTable) : Database :=
  { db with tables := db.tables.map fun t => if sameName t.name name then f t else t }

/-- Whether a name is kept for the database itself. -/
def isReserved (name : String) : Bool :=
  "sqlite_".toList.isPrefixOf (Text.asciiLower name).toList

/-- The name of the table in which a database describes itself, if a name stands for one. -/
def schemaTable? (name : String) : Option String :=
  match Text.asciiLower name with
  | "sqlite_master" | "sqlite_schema" => some "sqlite_master"
  | "sqlite_temp_master" | "sqlite_temp_schema" => some "sqlite_temp_master"
  | _ => none

/-- The name of a table that the database keeps for itself, if a name stands for one. -/
def ownTable? (db : Database) (name : String) : Option String :=
  schemaTable? name <|> ((db.table? name).map (·.name)).filter isReserved

end Database

end Accrete
