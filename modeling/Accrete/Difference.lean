import Accrete.CreationOrder
import Accrete.Dialect.ColumnType

/-!
# Differences

What a live database lacks of a schema.  Nothing is ever dropped or retyped: a column of another
type is reported and left alone.

* `LiveTable`      -- a table as a database reports it
* `SchemaEntry`    -- a schema table, or the name of one whose fields are malformed
* `Extension`      -- the fields that an existing table lacks
* `Difference`     -- tables to create and columns to add
* `difference`     -- the comparison
-/

namespace Accrete

/-- A column as a database reports it. -/
structure LiveColumn where
  name : String
  type : String
  nullable : Bool
deriving DecidableEq, Repr

/-- A table as a database reports it. -/
structure LiveTable where
  name : String
  columns : List LiveColumn
deriving DecidableEq, Repr

namespace LiveTable

def column? (t : LiveTable) (name : Value) : Option LiveColumn :=
  name.text?.bind fun s => t.columns.find? fun c => c.name = s

/-- A table from the types of its columns.  Of several types for one column the last counts. -/
def ofTypes (name : String) (types : List (String × String)) : LiveTable :=
  let put (cs : List LiveColumn) (e : String × String) : List LiveColumn :=
    if cs.any (·.name == e.1) then
      cs.map fun c => if c.name = e.1 then { c with type := e.2 } else c
    else cs ++ [⟨e.1, e.2, true⟩]
  ⟨name, types.foldl put []⟩

end LiveTable

/-- A table of a schema, or the name of one whose fields are malformed. -/
inductive SchemaEntry where
  | table (t : Table)
  | malformed (name : String)

namespace SchemaEntry

def name : SchemaEntry → String
  | .table t => t.name
  | .malformed name => name

end SchemaEntry

/-- The fields that an existing table lacks, and the indexes over them. -/
structure Extension where
  table : String
  fields : Bag
  order : Number
  indexes : List Index

/-- What a live database lacks. -/
structure Difference where
  toCreate : List Table
  toAdd : List Extension

namespace Difference

/-- Whether nothing is lacking. -/
def isEmpty (d : Difference) : Bool := d.toCreate.isEmpty && d.toAdd.isEmpty

end Difference

/-- Extensions sorted by order, then by table. -/
def extensionsByOrder (es : List Extension) : List Extension :=
  byOrderAndName Extension.order Extension.table es

def liveTable? (live : List LiveTable) (name : String) : Option LiveTable :=
  live.reverse.find? fun t => t.name = name

namespace Table

def missingFields (t : Table) (live : LiveTable) : Bag :=
  t.fields.filter fun e => (live.column? e.1).isNone

/-- A warning for each field whose live column has a type that is not compatible with it. -/
def typeWarnings (t : Table) (live : LiveTable) (d : Dialect) : List Event :=
  t.fields.filterMap fun e => do
    let c ← live.column? e.1
    if e.2.acceptsType d c.type then none
    else some (.typeDiffers t.name e.1.plain e.2.type c.type)

def isWithin (columns group : Columns) : Bool := group.all fun c => c.isIn columns

/-- The indexes and unique constraints that lie within a set of columns.  A unique constraint
    becomes a unique index, since it cannot be added to an existing table. -/
def indexesWithin (t : Table) (columns : Columns) : List Index :=
  (t.allIndexes.filter fun i => isWithin columns i.columns) ++
    (t.uniqueConstraints.filter (isWithin columns)).map Index.uniqueOn

/-- What an existing table lacks, if anything. -/
def extension? (t : Table) (live : LiveTable) : Option Extension :=
  match t.missingFields live with
  | [] => none
  | missing => some ⟨t.name, missing, t.order, t.indexesWithin (Bag.names missing)⟩

/-- A table as it is to be created: its indexes include the implied ones. -/
def complete (t : Table) : Table := { t with indexes := t.allIndexes }

/-- Refuses a table of which an index or a unique constraint names a column by something that is
    no key. -/
def checkColumnKeys (t : Table) : Except Misuse Unit := do
  t.checkIndexes
  t.uniqueConstraints.forM Value.checkKeys

end Table

/-- What a live database lacks of one table: the table to create if it has none of the name, or
    else the columns to add if it lacks some. -/
structure Lack where
  creation? : Option Table
  extension? : Option Extension

namespace SchemaEntry

/-- What a live database lacks of an entry.  A live table of another type is reported. -/
def compare (live : List LiveTable) (d : Dialect) : SchemaEntry → Logged Lack
  | .malformed name => do
    Logged.report [.tableMalformed name]
    return ⟨none, none⟩
  | .table t => match liveTable? live t.name with
    | none => do
      Logged.ofExcept (t.checkIndexes.mapError Error.misused)
      return ⟨some t.complete, none⟩
    | some l => do
      Logged.report (t.typeWarnings l d)
      let extension := t.extension? l
      -- The names of columns are looked up only for what is to be added.
      if extension.isSome then Logged.ofExcept (t.checkColumnKeys.mapError Error.misused)
      return ⟨none, extension⟩

end SchemaEntry

def difference (entries : List SchemaEntry) (live : List LiveTable) (d : Dialect) :
    Logged Difference := do
  let lacks ← entries.mapM (·.compare live d)
  let toCreate ← creationOrder (lacks.filterMap (·.creation?))
  return ⟨toCreate, extensionsByOrder (lacks.filterMap (·.extension?))⟩

def Schema.entries (s : Schema) : List SchemaEntry := s.map .table

end Accrete
