import Accrete.Dialect.ColumnType
import Accrete.Schema

/-!
# Operations

The steps of a migration, with their columns resolved to native types.

* `Column`      -- a column of an operation
* `Operation`   -- create a table, or add columns to one
-/

namespace Accrete

/-- A column of an operation.  Uniqueness counts by whether it is present, and null stands for no
    reference. -/
structure Column where
  name : Value
  type : String
  nullable : Bool
  primaryKey : Bool
  unique : Value
  references : Value

namespace Column

def isUnique (c : Column) : Bool := c.unique.isTruthy

def reference? (c : Column) : Option Reference :=
  match c.references with
  | .reference r => some r
  | _ => none

end Column

/-- A table to create, with its indexes. -/
structure TableCreation where
  table : String
  columns : List Column
  order : Number
  uniqueConstraints : List Columns
  indexes : List Index

/-- Columns to add to an existing table, with the indexes over them. -/
structure ColumnAddition where
  table : String
  columns : List Column
  order : Number
  indexes : List Index

/-- One step of a migration. -/
inductive Operation where
  | create (c : TableCreation)
  | add (a : ColumnAddition)

namespace Operation

def table : Operation → String
  | .create c => c.table
  | .add a => a.table

/-- The creation order of an operation's table. -/
def order : Operation → Number
  | .create c => c.order
  | .add a => a.order

def columns : Operation → List Column
  | .create c => c.columns
  | .add a => a.columns

def kindName : Operation → String
  | .create _ => "create_table"
  | .add _ => "add_columns"

end Operation

end Accrete
