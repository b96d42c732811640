import Accrete.Bag
import Accrete.Logged

/-!
# Schemas

Tables, and the fragments they are assembled from.

* `Index`             -- an index over columns of one table
* `Fragment`          -- a contribution to one logical table
* `Table`             -- the canonical definition of a table
* `Table.allIndexes`  -- its declared indexes and one for each `indexed` field
* `Schema`            -- tables with distinct names, in order of first contribution
-/

namespace Accrete

/-- A group of columns, by name. -/
abbrev Columns := List Value

/-- An index over one or more columns of a table. -/
structure Index where
  columns : Columns
  unique : Bool
  name : Option String

namespace Index

/-- The name of an index: the one stated, or one made of the table and the columns, whose names
    have to be texts then. -/
def nameOn (i : Index) (table : String) : Except Misuse String :=
  match i.name.filter (!·.isEmpty) with
  | some name => .ok name
  | none => do
    return (if i.unique then "uq" else "ix") ++ "_" ++ table ++ "_" ++ (← Value.join "_" i.columns)

def onColumn (column : Value) : Index := ⟨[column], false, none⟩

def uniqueOn (columns : Columns) : Index := ⟨columns, true, none⟩

end Index

/-- A possibly partial definition of one logical table.  Its fields are loose, since they may
    come from anywhere. -/
structure Fragment where
  key : String
  fields : Value
  order : Option Number
  entityName : Option String
  uniqueConstraints : List Columns
  indexes : List Index

namespace Fragment

def tableName (f : Fragment) : String :=
  match f.entityName with
  | some name => if name.isEmpty then f.key else name
  | none => f.key

/-- When a fragment wants its table created; a fragment that states nothing comes last. -/
def creationOrder (f : Fragment) : Number := f.order.getD Number.infinity

end Fragment

/-- The canonical definition of a table. -/
structure Table where
  name : String
  fields : Bag
  order : Number
  uniqueConstraints : List Columns
  indexes : List Index

namespace Table

/-- Whether a field asks for an index of its own.  A unique column has one already. -/
def wantsIndex (declared : List Index) (entry : Value × Field) : Bool :=
  entry.2.isIndexed && !entry.2.isUnique &&
    !declared.any fun i => Value.sameKeys i.columns [entry.1]

/-- The declared indexes of a table and one for each field that asks for it. -/
def allIndexes (t : Table) : List Index :=
  t.indexes ++ (t.fields.filter (wantsIndex t.indexes)).map fun e => Index.onColumn e.1

/-- Refuses a table of which a declared index names a column by something that is no key. -/
def checkIndexes (t : Table) : Except Misuse Unit :=
  t.indexes.forM fun i => Value.checkKeys i.columns

end Table

/-- Tables with distinct names, in order of first contribution. -/
abbrev Schema := List Table

namespace Schema

def find? (s : Schema) (name : String) : Option Table := List.find? (fun t => t.name = name) s

/-- Sets the table of a name, which keeps its place if it has one. -/
def put (s : Schema) (t : Table) : Schema :=
  match s with
  | [] => [t]
  | u :: rest => if u.name = t.name then t :: rest else u :: put rest t

end Schema

end Accrete
