import Accrete.Value.Misuse
import Accrete.Value.Shown

/-!
# Statement errors

Why a statement can be neither built nor written.
-/

namespace Accrete

/-- What keeps an operation from becoming SQL. -/
inductive StatementError where
  /-- A value is of no use where it stands. -/
  | misused (cause : Misuse)
  | notColumn (given : Value)
  | blankColumn
  /-- Two columns of one table share a name. -/
  | duplicateColumn (table column : String)
  /-- A unique constraint names a column by a value that is no text. -/
  | constraintNotText (given : Value)
  | constraintColumnUnknown (table column : String)
  /-- An index names a column that its table lacks. -/
  | indexColumnUnknown (given : Value)
  /-- An index names a column by a number, and the table has fewer columns. -/
  | indexPositionUnknown (given : Value)
  | indexWithoutColumns (index : String)
  | indexNameTooLong (index : String) (limit : Nat)
  /-- A foreign key points at a table the operation does not know. -/
  | targetTableUnknown (table column targetTable targetColumn : String)
  /-- A foreign key points at a column that its target table does not define. -/
  | targetColumnUnknown (target table targetTable targetColumn : String)
  /-- A delete action is not one of the phrases of SQL, whatever its upper-case form. -/
  | actionUnexpected (phrase : String)

namespace StatementError

/-- The pattern that the delete actions of SQL match. -/
def actionPattern : String := "^(?:RESTRICT|CASCADE|SET NULL|NO ACTION|SET DEFAULT)$"

def message : StatementError → String
  | .misused cause => cause.message
  | .notColumn given =>
    "'SchemaItem' object, such as a 'Column' or a 'Constraint' expected, got " ++ given.shown
  | .blankColumn =>
    "Column must be constructed with a non-blank name or assign a non-blank .name " ++
      "before adding to a Table."
  | .duplicateColumn table column =>
    "A column with name '" ++ column ++ "' is already present in table '" ++ table ++ "'."
  | .constraintNotText given =>
    "String column name or column expression for DDL constraint expected, got " ++
      given.shown ++ "."
  | .constraintColumnUnknown table column =>
    "Can't create UniqueConstraint on table '" ++ table ++ "': no column named '" ++ column ++
      "' is present."
  | .indexColumnUnknown given => given.shown
  | .indexPositionUnknown given => given.plain
  | .indexWithoutColumns index => "Index '" ++ index ++ "' is not associated with any table."
  | .indexNameTooLong index limit =>
    "Identifier '" ++ index ++ "' exceeds maximum length of " ++ toString limit ++ " characters"
  | .targetTableUnknown table column targetTable targetColumn =>
    "Foreign key associated with column '" ++ table ++ "." ++ column ++
      "' could not find table '" ++ targetTable ++
      "' with which to generate a foreign key to target column '" ++ targetColumn ++ "'"
  | .targetColumnUnknown target table targetTable targetColumn =>
    "Could not initialize target column for ForeignKey '" ++ target ++ "' on table '" ++ table ++
      "': table '" ++ targetTable ++ "' has no column named '" ++ targetColumn ++ "'"
  | .actionUnexpected phrase =>
    "Unexpected SQL phrase: " ++ Text.quote phrase ++ " (matching against " ++
      Text.quote actionPattern ++ ")"

end StatementError

end Accrete
