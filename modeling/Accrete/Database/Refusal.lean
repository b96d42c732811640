import Accrete.Database.CallFault
import Accrete.Database.Expression.Fault

/-!
# Refusals

Why a database refuses a statement.

* `Refusal`          -- the reasons
* `RefusalKind`      -- what a reason is about, with its name in reports
* `Refusal.message`  -- the wording
-/

namespace Accrete

/-- What a refusal is about. -/
inductive RefusalKind where
  /-- The statement or the shape of the database. -/
  | operational
  /-- The rows of a table. -/
  | integrity
  /-- The way the statement was handed over. -/
  | programming
  /-- A number that is too large. -/
  | overflow
  /-- The size of a value. -/
  | data
  | database
deriving DecidableEq, Repr

/-- The name of what a refusal is about, as reports show it with the statement. -/
def RefusalKind.name? : RefusalKind → Option String
  | .operational => some "OperationalError"
  | .integrity => some "IntegrityError"
  | .programming => some "ProgrammingError"
  | .data => some "DataError"
  | .database => some "DatabaseError"
  | .overflow => none

/-- What a database objects to. -/
inductive Refusal where
  /-- A token does not fit. -/
  | notUnderstood (near : String)
  | unrecognized (token : String)
  /-- The text ends before the statement does. -/
  | incomplete
  /-- The text holds the character zero. -/
  | nullCharacter
  /-- Something follows the statement. -/
  | severalStatements
  | noSuchTable (name : String)
  | tableExists (name : String)
  | indexExists (name : String)
  | nameIsTable (name : String)
  | nameIsIndex (name : String)
  /-- A table's name is kept for the database itself. -/
  | reservedName (name : String)
  /-- A table of the database itself is to be changed in a way that is named. -/
  | protectedTable (name change : String)
  | duplicateColumn (name : String)
  | tooManyColumns (table : String)
  | severalKeys (table : String)
  | keyMissing (table : String)
  /-- Two equal constraints state different ways to deal with a conflict. -/
  | conflictsDiffer
  /-- A table without keys of its rows cannot count them. -/
  | countingWithoutKey
  /-- Only a key that is an integer counts by itself. -/
  | countingKey
  /-- A key or a unique constraint is over something else than columns. -/
  | keyExpression
  | defaultNotConstant (column : String)
  | defaultComputed
  | computedFault (column : String)
  | keyComputed
  | allComputed
  | noSuchCollation (name : String)
  /-- A key tells where null is put. -/
  | nullsPlaced (place : String)
  | columnNameSpoilt (name : String)
  /-- A foreign key of one column points at several. -/
  | severalTargets (column table : String)
  /-- A foreign key points at more or fewer columns than it has. -/
  | targetCount
  | foreignColumnUnknown (name : String)
  | optionUnknown (given : String)
  | typeMissing (table column : String)
  | typeUnknown (table column type : String)
  /-- An expression contains what it cannot. -/
  | badExpression (fault : ExpressionFault)
  /-- A function has no value for its arguments. -/
  | badCall (fault : CallFault)
  /-- What is open at a time in a statement is more than can be kept. -/
  | tooNested
  | tooDeep
  | tooManyArguments (function : String)
  /-- The number of a parameter is too small or too large. -/
  | parameterNumber
  /-- Several values are sought among values, or among other numbers of them. -/
  | elementSize (found expected : Nat)
  /-- A function of the different values in a window. -/
  | distinctWindow
  /-- A window ends before it starts. -/
  | windowFrame
  /-- An index names a column that its table lacks. -/
  | noIndexedColumn (column : String)
  /-- A column that rejects null is added to a table that has rows. -/
  | addedColumnNotNull
  | addedColumnUnique
  | addedColumnPrimary
  /-- A column with a default that depends on time is added to a table that has rows. -/
  | addedColumnNotConstant
  /-- A computed column that is stored is added to a table that has rows. -/
  | addedColumnStored
  /-- A part of the database can no longer be read after a column was added. -/
  | addedColumnSpoils (part message : String)
  | addedColumnCheck
  /-- An added column is computed as null in a row, which it rejects. -/
  | addedColumnNull
  /-- A row names a column that its table lacks. -/
  | noSuchColumn (table column : String)
  /-- A row gives a value to a column that is computed. -/
  | columnComputed (column : String)
  /-- A row leaves a column empty that rejects null. -/
  | nullValue (table column : String)
  | repeatedValue (table : String) (columns : List String)
  /-- A row repeats the values of an index that is not only over columns. -/
  | repeatedInIndex (index : String)
  | checkFailed (check : String)
  | keyNotInteger
  /-- A value is of a kind that its column does not hold. -/
  | kindRefused (kind type table column : String)
  /-- Values are left open that nobody gives. -/
  | valuesMissing (count : Nat)
  | notStored (parameter : Nat) (kind : String)
  /-- An integer has more than 64 bits. -/
  | tooLarge
  /-- No key is left for a row. -/
  | full
  /-- The file of a database cannot be opened. -/
  | notOpened
  /-- A file of a database, or one that it needs, cannot be read. -/
  | notRead
  | notDatabase
  | readOnly
  /-- The URI of a database names a computer. -/
  | authorityUnknown (name : String)
  /-- The URI of a database asks for what there is not. -/
  | modeUnknown (kind value : String)
  | storageUnknown (name : String)
deriving DecidableEq, Repr

namespace Refusal

def kind : Refusal → RefusalKind
  | .nullValue .. | .repeatedValue .. | .repeatedInIndex _ | .checkFailed _ | .keyNotInteger
  | .kindRefused .. =>
    .integrity
  | .nullCharacter | .severalStatements | .valuesMissing _ | .notStored .. => .programming
  | .tooLarge => .overflow
  | .badCall .tooBig => .data
  | .notDatabase => .database
  | _ => .operational

def message : Refusal → String
  | .notUnderstood near => "near \"" ++ near ++ "\": syntax error"
  | .unrecognized token => "unrecognized token: \"" ++ token ++ "\""
  | .incomplete => "incomplete input"
  | .nullCharacter => "the query contains a null character"
  | .severalStatements => "You can only execute one statement at a time."
  | .noSuchTable name => "no such table: " ++ name
  | .tableExists name => "table " ++ name ++ " already exists"
  | .indexExists name => "index " ++ name ++ " already exists"
  | .nameIsTable name => "there is already a table named " ++ name
  | .nameIsIndex name => "there is already an index named " ++ name
  | .reservedName name => "object name reserved for internal use: " ++ name
  | .protectedTable name change => "table " ++ name ++ " may not be " ++ change
  | .duplicateColumn name => "duplicate column name: " ++ name
  | .tooManyColumns table => "too many columns on " ++ table
  | .severalKeys table => "table \"" ++ table ++ "\" has more than one primary key"
  | .keyMissing table => "PRIMARY KEY missing on table " ++ table
  | .conflictsDiffer => "conflicting ON CONFLICT clauses specified"
  | .countingWithoutKey => "AUTOINCREMENT not allowed on WITHOUT ROWID tables"
  | .countingKey => "AUTOINCREMENT is only allowed on an INTEGER PRIMARY KEY"
  | .keyExpression => "expressions prohibited in PRIMARY KEY and UNIQUE constraints"
  | .defaultNotConstant column => "default value of column [" ++ column ++ "] is not constant"
  | .defaultComputed => "cannot use DEFAULT on a generated column"
  | .computedFault column => "error in generated column \"" ++ column ++ "\""
  | .keyComputed => "generated columns cannot be part of the PRIMARY KEY"
  | .allComputed => "must have at least one non-generated column"
  | .nullsPlaced place => "unsupported use of NULLS " ++ place
  | .noSuchCollation name => "no such collation sequence: " ++ name
  | .columnNameSpoilt name => "syntax error after column name \"" ++ name ++ "\""
  | .severalTargets column table =>
    "foreign key on " ++ column ++ " should reference only one column of table " ++ table
  | .targetCount =>
    "number of columns in foreign key does not match the number of columns in the referenced table"
  | .foreignColumnUnknown name => "unknown column \"" ++ name ++ "\" in foreign key definition"
  | .optionUnknown given => "unknown table option: " ++ given
  | .typeMissing table column => "missing datatype for " ++ table ++ "." ++ column
  | .typeUnknown table column type =>
    "unknown datatype for " ++ table ++ "." ++ column ++ ": \"" ++ type ++ "\""
  | .badExpression fault => fault.message
  | .badCall fault => fault.message
  | .tooNested => "parser stack overflow"
  | .tooDeep => "Expression tree is too large (maximum depth 1000)"
  | .tooManyArguments function => "too many arguments on function " ++ function
  | .parameterNumber => "variable number must be between ?1 and ?250000"
  | .elementSize found expected =>
    "IN(...) element has " ++ toString found ++ " term" ++ (if found = 1 then "" else "s") ++
      " - expected " ++ toString expected
  | .distinctWindow => "DISTINCT is not supported for window functions"
  | .windowFrame => "unsupported frame specification"
  | .noIndexedColumn column => "no such column: " ++ column
  | .addedColumnNotNull => "Cannot add a NOT NULL column with default value NULL"
  | .addedColumnUnique => "Cannot add a UNIQUE column"
  | .addedColumnPrimary => "Cannot add a PRIMARY KEY column"
  | .addedColumnNotConstant => "Cannot add a column with non-constant default"
  | .addedColumnStored => "cannot add a STORED column"
  | .addedColumnSpoils part message => "error in " ++ part ++ " after add column: " ++ message
  | .addedColumnCheck => "CHECK constraint failed"
  | .addedColumnNull => "NOT NULL constraint failed"
  | .noSuchColumn table column => "table " ++ table ++ " has no column named " ++ column
  | .columnComputed column => "cannot INSERT into generated column \"" ++ column ++ "\""
  | .nullValue table column => "NOT NULL constraint failed: " ++ table ++ "." ++ column
  | .repeatedValue table columns =>
    "UNIQUE constraint failed: " ++ ", ".intercalate (columns.map fun c => table ++ "." ++ c)
  | .repeatedInIndex index => "UNIQUE constraint failed: index '" ++ index ++ "'"
  | .checkFailed check => "CHECK constraint failed: " ++ check
  | .keyNotInteger => "datatype mismatch"
  | .kindRefused kind type table column =>
    "cannot store " ++ kind ++ " value in " ++ type ++ " column " ++ table ++ "." ++ column
  | .valuesMissing count =>
    "Incorrect number of bindings supplied. The current statement uses " ++ toString count ++
      ", and there are 0 supplied."
  | .notStored parameter kind =>
    "Error binding parameter " ++ toString parameter ++ ": type '" ++ kind ++ "' is not supported"
  | .tooLarge => "Python int too large to convert to SQLite INTEGER"
  | .full => "database or disk is full"
  | .notOpened => "unable to open database file"
  | .notRead => "disk I/O error"
  | .notDatabase => "file is not a database"
  | .readOnly => "attempt to write a readonly database"
  | .authorityUnknown name => "invalid uri authority: " ++ name
  | .modeUnknown kind value => "no such " ++ kind ++ " mode: " ++ value
  | .storageUnknown name => "no such vfs: " ++ name

end Refusal

end Accrete
