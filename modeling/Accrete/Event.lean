import Accrete.Error

/-!
# Events

What a task reports while it runs.

* `Level`   -- how serious an event is
* `Source`  -- which part of the library reports it
* `Event`   -- what happened, with its level, source and wording
-/

namespace Accrete

/-- How serious an event is. -/
inductive Level where
  | debug | info | warning | error | critical
deriving DecidableEq, Repr, Inhabited

namespace Level

def name : Level → String
  | .debug => "DEBUG"
  | .info => "INFO"
  | .warning => "WARNING"
  | .error => "ERROR"
  | .critical => "CRITICAL"

/-- The weight of a level; a threshold lets through what weighs at least as much. -/
def weight : Level → Nat
  | .debug => 10
  | .info => 20
  | .warning => 30
  | .error => 40
  | .critical => 50

end Level

/-- The part of the library that reports an event. -/
inductive Source where
  | assembly | comparison | planning | running
deriving DecidableEq, Repr

namespace Source

def name : Source → String
  | .assembly => "schemakit.schema"
  | .comparison => "schemakit.migrations.autogen"
  | .planning => "schemakit.migrations.operations"
  | .running => "schemakit.migrations.runner"

end Source

/-- What happened. -/
inductive Event where
  /-- A fragment was left out because its fields are malformed. -/
  | fragmentSkipped (table : String) (fault : Fault)
  /-- A table references one that is created later. -/
  | orderViolated (table : String) (order : Number) (target : String) (targetOrder : Number)
      (column : String)
  /-- A table was left out of a comparison because its fields are malformed. -/
  | tableMalformed (table : String)
  /-- A live column has a type that is not compatible with its field. -/
  | typeDiffers (table column : String) (expected : LogicalType) (found : String)
  /-- A live column has a declared type that the dialect does not know. -/
  | typeUnnamed
  /-- A bind speaks a dialect that is not supported. -/
  | dialectAssumed (name : String)
  | cycleBroken (tables : List String) (order : Number)
  | columnAdded (table column type : String)
  | tableCreated (table listed : String)
  /-- The statements that create a table. -/
  | tableWritten (table sql : String)
  | upToDate
  | statementFailed (table sql : String)

namespace Event

def level : Event → Level
  | .fragmentSkipped .. | .orderViolated .. | .typeDiffers .. | .dialectAssumed ..
  | .cycleBroken .. => .warning
  | .tableMalformed .. | .statementFailed .. => .error
  | .typeUnnamed | .tableWritten .. => .debug
  | .columnAdded .. | .tableCreated .. | .upToDate => .info

def source : Event → Source
  | .fragmentSkipped .. | .orderViolated .. => .assembly
  | .tableMalformed .. | .typeDiffers .. | .typeUnnamed | .dialectAssumed .. => .comparison
  | .cycleBroken .. | .columnAdded .. | .tableCreated .. | .tableWritten .. => .planning
  | .upToDate | .statementFailed .. => .running

def message : Event → String
  | .fragmentSkipped table fault =>
    "Skipping fields contributed to table " ++ table ++ ": " ++ fault.message
  | .orderViolated table order target targetOrder column =>
    "Table " ++ table ++ " (order " ++ order.text ++ ") references " ++ target ++ " (order " ++
      targetOrder.text ++ ") through " ++ column ++
      "; the referenced table should be created first"
  | .tableMalformed table =>
    "Table " ++ table ++ " has a malformed field definition; skipping it"
  | .typeDiffers table column expected found =>
    "Field " ++ column ++ " in table " ++ table ++
      " has a different type in the database. Expected " ++ expected.spelling ++ " but got " ++
      found ++ "."
  | .typeUnnamed => "Could not render reflected type NullType()"
  | .dialectAssumed name =>
    "Could not determine database type from " ++ Text.quote name ++
      ", defaulting to sqlite. Set the dialect explicitly to avoid this."
  | .cycleBroken tables order =>
    "Tables " ++ ", ".intercalate tables ++ " reference each other at order " ++ order.text ++
      "; creating them in name order"
  | .columnAdded table column type =>
    "Adding column " ++ column ++ " (" ++ type ++ ") to table " ++ table
  | .tableCreated table listed =>
    "Creating table " ++ table ++ " with fields: " ++
      (if listed.isEmpty then "(none)" else listed)
  | .tableWritten table sql => "SQL for table " ++ table ++ ":\n" ++ sql
  | .upToDate => "Database is up to date"
  | .statementFailed table sql =>
    "Migration failed on table " ++ table ++ "! SQL:\n" ++ sql

end Event

end Accrete
