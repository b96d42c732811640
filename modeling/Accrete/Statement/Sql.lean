import Accrete.Dialect.Identifier
import Accrete.Statement

/-!
# SQL text

Statements written for a dialect.

* `Statement.sent`       -- the text that is sent to a database
* `Statement.sql`        -- the same without blanks around it
* `Operation.sql`        -- the text of an operation
* `document`             -- the text of several operations
-/

namespace Accrete

namespace OnDelete

/-- Whether the spelling is one of SQL's phrases character by character, and not only by its
    upper-case form. -/
def isPhrase (o : OnDelete) : Bool := o.spelling.toList.length == o.action.toList.length

end OnDelete

namespace Statement

def columnText (d : Dialect) (c : ColumnSpec) : String :=
  d.identifier c.name ++ " " ++ c.type ++
    (if c.notNull then " NOT NULL" else if d = .mssql then " NULL" else "")

/-- The delete action of a foreign key, spelled as given. -/
def actionText : Option OnDelete → Except StatementError String
  | none => .ok ""
  | some o =>
    if o.isPhrase then .ok (" ON DELETE " ++ o.spelling)
    else .error (.actionUnexpected o.spelling)

def foreignKeyText (d : Dialect) (k : ForeignKey) : Except StatementError String :=
  match k.target with
  | .missing cause => .error cause
  | .found table column => do
    return "FOREIGN KEY(" ++ d.identifier k.column ++ ") REFERENCES " ++ d.identifier table ++
      " (" ++ d.identifier column ++ ")" ++ (← actionText k.onDelete)

/-- A constraint.  A unique constraint over no columns is empty. -/
def constraintText (d : Dialect) : Constraint → Except StatementError String
  | .primaryKey columns => .ok ("PRIMARY KEY (" ++ d.identifiers columns ++ ")")
  | .unique [] => .ok ""
  | .unique columns => .ok ("UNIQUE (" ++ d.identifiers columns ++ ")")
  | .foreignKey k => foreignKeyText d k

def itemSeparator : String := ", \n\t"

def writtenText (d : Dialect) : Written → Except StatementError String
  | .name s => .ok (d.identifier s)
  | .quoted s => .ok (d.quoted s)
  | .unwritable kind => .error (.misused (.lacks kind "lower"))

/-- The reference of a column that is being added, its delete action in upper case. -/
def inlineText (d : Dialect) : Option InlineReference → Except StatementError String
  | none => .ok ""
  | some r => do
    return " REFERENCES " ++ (← writtenText d r.table) ++ " (" ++ (← writtenText d r.column) ++
      ")" ++ match r.onDelete with
        | none => ""
        | some o => " ON DELETE " ++ o.action

def addWords : Dialect → String
  | .mssql => " ADD "
  | _ => " ADD COLUMN "

/-- The text that is sent to a database that speaks a dialect. -/
def sent (d : Dialect) : Statement → Except StatementError String
  | .createTable table columns constraints => do
    let written ← constraints.mapM (constraintText d)
    let constraintItems := itemSeparator.intercalate written
    -- An empty constraint keeps its separators; only if nothing is left is there no item.
    let items := columns.map (columnText d) ++
      (if constraintItems.isEmpty then [] else [constraintItems])
    let body := if items.isEmpty then "" else "\n\t" ++ itemSeparator.intercalate items
    return "\nCREATE TABLE " ++ d.identifier table ++ " (" ++ body ++ "\n)\n\n"
  | .addColumn table column unique references => do
    return "ALTER TABLE " ++ d.identifier table ++ addWords d ++ columnText d column ++
      (if unique then " UNIQUE" else "") ++ (← inlineText d references)
  | .addForeignKey table key => do
    return "ALTER TABLE " ++ d.identifier table ++ " ADD " ++ (← foreignKeyText d key)
  | .createIndex index table columns unique =>
    if columns.isEmpty then .error (.indexWithoutColumns index)
    else if d.maxIndexName < index.length then .error (.indexNameTooLong index d.maxIndexName)
    else .ok ("CREATE " ++ (if unique then "UNIQUE " else "") ++ "INDEX " ++ d.identifier index ++
      " ON " ++ d.identifier table ++ " (" ++ d.identifiers columns ++ ")")

/-- The text of a statement without blanks around it. -/
def sql (d : Dialect) (s : Statement) : Except StatementError String := Text.trim <$> s.sent d

end Statement

def statementSeparator : String := ";\n\n"

namespace Operation

def sqlTexts (d : Dialect) (o : Operation) : Except StatementError (List String) := do
  (← o.statements d).mapM (Statement.sql d)

def sql (d : Dialect) (o : Operation) : Except StatementError String :=
  statementSeparator.intercalate <$> o.sqlTexts d

end Operation

/-- The text of several operations: their statements separated by blank lines, each ended by a
    semicolon.  No operations at all make a lone semicolon. -/
def document (d : Dialect) (operations : List Operation) : Except StatementError String := do
  return statementSeparator.intercalate (← operations.mapM (Operation.sql d)) ++ ";"

end Accrete
