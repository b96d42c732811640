import Accrete.Operation
import Accrete.Statement.Error
import Accrete.Value.Order

/-!
# What an operation knows

The tables and columns that an operation can point at: those of its own table, and those that its
references name in other tables.

* `columnNamed`             -- the name that a value gives to a column
* `columnOf`                -- the column of a table that a value names
* `checkNames`              -- refuses columns without names and columns that share one
* `KnownTables.ofColumns`   -- the other tables that columns reference
* `KnownTables.resolve`     -- what a reference points at
-/

namespace Accrete

/-- What a foreign key points at, or why that cannot be told. -/
inductive Target where
  | found (table column : String)
  | missing (cause : StatementError)

/-- The name that a value gives to a column.  A computed kind gives its label, and null none. -/
def columnNamed : Value → Except StatementError String
  | .null => .ok ""
  | v => if v.text?.isSome then .ok v.plain else .error (.notColumn v)

/-- Refuses columns of a table without a name, and those whose name an earlier one has. -/
def checkNames (table : String) : List String → List String → Except StatementError Unit
  | _, [] => .ok ()
  | seen, c :: rest =>
    if c.isEmpty then .error .blankColumn
    else if seen.contains c then .error (.duplicateColumn table c)
    else checkNames table (c :: seen) rest

/-- The column, of those given, at the position that a number counts. -/
def columnAt? (columns : List String) (n : Number) : Option String :=
  (columns.zipIdx.find? fun c => n.same (.int c.2)).map Prod.fst

/-- The column, of those given, that a value names by its text or counts by its position. -/
def columnOf (columns : List String) (v : Value) : Except StatementError String :=
  match v.notKey? with
  | some kind => .error (.misused (.notKey kind))
  | none =>
    match (v.numeral?.bind (columnAt? columns)) <|> (v.text?.filter columns.contains), v with
    | some name, _ => .ok name
    | none, .bool _ | none, .number (.int _) => .error (.indexPositionUnknown v)
    | none, _ => .error (.indexColumnUnknown v)

/-- A table that an operation knows: the value it is looked up by, and the columns that it is known
    to have. -/
structure KnownTable where
  key : Value
  columns : List String

namespace KnownTable

def name (t : KnownTable) : String := t.key.plain

end KnownTable

abbrev KnownTables := List KnownTable

namespace KnownTables

/-- The table that an operation acts on. -/
def own (table : String) (columns : List String) : KnownTable := ⟨.text table, columns⟩

/-- The columns that references to other tables name, by table in order of first mention. -/
abbrev Mentions := List (Value × List Value)

def mention (mentions : Mentions) (table column : Value) : Mentions :=
  match mentions with
  | [] => [(table, [column])]
  | e :: rest =>
    if e.1.sameKey table then (e.1, e.2 ++ [column]) :: rest else e :: mention rest table column

/-- Adds what a column references in other tables than the given one. -/
def mentionTarget (table : String) (mentions : Mentions) (col : Column) :
    Except Misuse Mentions :=
  match col.references with
  | .null => .ok mentions
  | .reference r =>
    -- The own table is known by all its columns already.
    if r.model.sameKey (.text table) then .ok mentions
    else do
      r.model.checkKey
      r.column.checkKey
      return mention mentions r.model r.column
  | v => .error (v.lacks "model")

def ofMention (m : Value × List Value) : Except StatementError KnownTable := do
  let sorted ← (Value.sort m.2).mapError StatementError.misused
  let columns ← sorted.mapM columnNamed
  checkNames m.1.plain [] columns
  return ⟨m.1, columns⟩

/-- The other tables that the columns of an operation on a table reference. -/
def ofColumns (table : String) (columns : List Column) : Except StatementError KnownTables := do
  let mentions ← (columns.foldlM (mentionTarget table) []).mapError StatementError.misused
  mentions.mapM ofMention

/-- A text cut at its last point; without one, all of it is the second part. -/
def splitAtLastPoint (s : String) : String × String :=
  let back := s.toList.reverse
  (String.ofList ((back.dropWhile (· != '.')).drop 1).reverse,
   String.ofList (back.takeWhile (· != '.')).reverse)

def find? (known : KnownTables) (name : String) : Option KnownTable :=
  List.find? (fun t => t.key.sameKey (.text name)) known

/-- What a reference points at.  Its target is written as `model.column` and read by its last
    point; the table has to be known, and to have the column. -/
def resolve (known : KnownTables) (table column : String) (r : Reference) : Target :=
  let (targetTable, targetColumn) := splitAtLastPoint r.target
  match known.find? targetTable with
  | none => .missing (.targetTableUnknown table column targetTable targetColumn)
  | some t =>
    if t.columns.contains targetColumn then .found t.name targetColumn
    else .missing (.targetColumnUnknown r.target table targetTable targetColumn)

end KnownTables

end Accrete
