import Accrete.Database.Refusal
import Accrete.Database.Url.Fault
import Accrete.Dialect
import Accrete.Fault
import Accrete.Ini.Error
import Accrete.Path
import Accrete.Statement.Error

/-!
# Errors

Everything that can stop a task, as causes, with the wording of each in one place.
-/

namespace Accrete

/-- What a bind is needed for. -/
inductive BindUse where
  | planning | running
deriving DecidableEq, Repr

/-- Why a task stopped. -/
inductive Error where
  /-- A declaration could not be read. -/
  | declaration (cause : DeclarationError)
  /-- A table declares the generated primary key itself. -/
  | reservedColumn (table : String) (key : Value)
  | dialectUnsupported (name : String)
  /-- There is neither an engine nor a connection. -/
  | bindMissing (use : BindUse)
  /-- A field is defined with a type that does not exist. -/
  | typeUnknown (given : Value)
  /-- A computed default is asked for that does not exist. -/
  | computedKindUnknown (given : Value)
  /-- A field is defined without a part that it needs. -/
  | partMissing (name : String)
  /-- A field is defined with a part that fields do not have. -/
  | partUnknown (name : String)
  /-- A field is defined with a part by name that only has a place. -/
  | partUnnamed (name : String)
  /-- A value is of no use where it stands. -/
  | misused (cause : Misuse)
  | statement (cause : StatementError)
  /-- The database refused a statement, which is kept as it was sent. -/
  | refused (cause : Refusal) (statement : String)
  /-- A statement was made to fail on purpose, by its place in the run. -/
  | interrupted (statement : Nat)
  | settings (cause : Ini.Error)
  | settingsMissing (path : String)
  | settingsExist (path : String)
  | sectionMissing (sectionName path : String)
  | logLevelInvalid (level path : String)
  | logLevelUnknown (name : String)
  | urlMissing
  /-- A database URL that no database can be reached by. -/
  | urlUnusable (cause : UrlFault)
  | pathUnusable (fault : PathFault) (path : String)
  | moduleRelative (name : String)

namespace Error

def message : Error → String
  | .declaration (.refused fault) => fault.message
  | .declaration (.misused cause) => cause.message
  | .reservedColumn table key =>
    Fault.atPlace (some table) key.text?
      "'id' is the generated primary key and cannot be declared"
  | .dialectUnsupported name =>
    "Unsupported dialect " ++ Text.quote name ++ " (supported: " ++ Dialect.supported ++ ")"
  | .bindMissing .planning => "A database engine or connection is required to plan migrations"
  | .bindMissing .running => "A database engine or connection is required to run migrations"
  | .typeUnknown given => given.shown ++ " is not a valid LogicalType"
  | .computedKindUnknown given => given.shown ++ " is not a valid DefaultKind"
  | .partMissing name => Text.quote name
  | .partUnknown name => "field() got an unexpected keyword argument '" ++ name ++ "'"
  | .partUnnamed name =>
    "field() got some positional-only arguments passed as keyword arguments: '" ++ name ++ "'"
  | .misused cause => cause.message
  | .statement cause => cause.message
  | .refused cause _ => cause.message
  | .interrupted n => "statement " ++ toString n ++ " failed"
  | .settings cause => cause.message
  | .settingsMissing path => "Config file not found: " ++ path
  | .settingsExist path => "Config file already exists: " ++ path
  | .sectionMissing sectionName path => "No [" ++ sectionName ++ "] section in " ++ path
  | .logLevelInvalid level path => "Invalid log_level " ++ Text.quote level ++ " in " ++ path
  | .logLevelUnknown name => "Unknown level: " ++ Text.quote name
  | .urlMissing => "No database URL configured"
  | .urlUnusable cause => cause.message
  | .pathUnusable fault path => fault.message path
  | .moduleRelative name =>
    "the 'package' argument is required to perform a relative import for " ++ Text.quote name

end Error

namespace Dialect

/-- The dialect that a name stands for, or the refusal of the name. -/
def parse (name : String) : Except Error Dialect :=
  match ofName? name with
  | some d => .ok d
  | none => .error (.dialectUnsupported name)

end Dialect

end Accrete
