import Accrete.Difference

/-!
# Drafts

Tables to create and columns to add that were made by hand, with fields taken as they are.

* `TableDraft`       -- a table to create
* `ExtensionDraft`   -- columns to add to an existing table
* `TableDraft.read`, `ExtensionDraft.read` -- the same with fields, or why there are none

Nothing is validated: a draft is refused only where its fields are of no use as fields.
-/

namespace Accrete

/-- A table to create, its fields as they were given. -/
structure TableDraft where
  name : String
  fields : Value
  order : Number
  uniqueConstraints : List Columns
  indexes : List Index

/-- Columns to add to an existing table, their fields as they were given. -/
structure ExtensionDraft where
  table : String
  fields : Value
  order : Number
  indexes : List Index

/-- The fields in a mapping that holds nothing else. -/
def Value.fields? : Value → Option Bag
  | .mapping entries => entries.mapM fun e => match e.2 with
    | .field f => some (e.1, f)
    | _ => none
  | _ => none

namespace TableDraft

/-- The field of an entry, whose reference has to name a table. -/
def readEntry (e : Value × Value) : Except Misuse (Value × Field) :=
  match e.2 with
  | .field f => do
    f.checkReference
    return (e.1, f)
  | v => .error (v.lacks "references")

def readFields : Value → Except Misuse Bag
  | .mapping entries => entries.mapM readEntry
  | v => .error (v.lacks "values")

def read (t : TableDraft) : Except Misuse Table := do
  return ⟨t.name, ← readFields t.fields, t.order, t.uniqueConstraints, t.indexes⟩

/-- A draft as a table of a schema.  It is malformed unless all its fields are fields. -/
def entry (t : TableDraft) : SchemaEntry :=
  match t.fields.fields? with
  | some fields => .table ⟨t.name, fields, t.order, t.uniqueConstraints, t.indexes⟩
  | none => .malformed t.name

def inCreationOrder (ts : List TableDraft) : Logged (List Table) :=
  creationOrderBy TableDraft.order TableDraft.name read ts

end TableDraft

namespace ExtensionDraft

def readEntry (e : Value × Value) : Except Misuse (Value × Field) :=
  match e.2 with
  | .field f => .ok (e.1, f)
  | v => .error (v.lacks "type")

def readFields : Value → Except Misuse Bag
  | .mapping entries => entries.mapM readEntry
  | v => .error (v.lacks "items")

/-- The extension that a draft describes.  Its indexes name columns by keys. -/
def read (e : ExtensionDraft) : Except Misuse Extension := do
  e.indexes.forM fun i => Value.checkKeys i.columns
  return ⟨e.table, ← readFields e.fields, e.order, e.indexes⟩

end ExtensionDraft

end Accrete
