import Accrete.FileTree
import Accrete.Event
import Accrete.Ini.Reference

/-!
# Settings

What a settings file says about migrations.

* `Settings.ofIni`     -- the settings in a read file
* `Settings.load`      -- the settings in the file at a path
* `Settings.discover`  -- the settings nearest above a directory
* `Settings.databaseUrl?` -- the URL of the database to use
* `Settings.create`    -- writes a new settings file

Options are read in a fixed order, and the first that cannot be read is the one that is reported:
the dialect, the log level, all options in the order of the file, and at last the name of the
dialect.
-/

namespace Accrete

/-- What a settings file says. -/
structure Settings where
  url : Option String
  dialect : Option Dialect
  schemaModule : Option String
  dbSchema : Option String
  logLevel : Level
  /-- Options that are not known. -/
  extra : Ini.Options
  path : Option Path

namespace Level

def ofName? (s : String) : Option Level :=
  [debug, info, warning, error, critical].find? fun level => level.name = s

end Level

namespace Settings

def fileName : String := "schemakit.ini"

def sectionName : String := "schemakit"

def knownOptions : List String :=
  ["sqlalchemy.url", "dialect", "schema_module", "db_schema", "log_level"]

/-- Settings without a file. -/
def none : Settings := ⟨.none, .none, .none, .none, .info, [], .none⟩

/-- A text, unless it is empty. -/
def nonempty? (s : Option String) : Option String := s.filter (!·.isEmpty)

def logLevelIn (file : Ini.File) (path : String) : Except Error Level := do
  let stated ← (file.get? sectionName "log_level").mapError Error.settings
  let name := Text.upper (stated.getD Level.info.name)
  match Level.ofName? name with
  | some level => return level
  | .none => throw (.logLevelInvalid name path)

def ofIni (file : Ini.File) (path : Path) : Except Error Settings := do
  if !file.hasSection sectionName then throw (.sectionMissing sectionName path.text)
  let dialect ← (file.get? sectionName "dialect").mapError Error.settings
  let logLevel ← logLevelIn file path.text
  let options ← (file.filledOptions sectionName).mapError Error.settings
  return {
    url := options.lookup "sqlalchemy.url"
    dialect := ← (nonempty? dialect).mapM Dialect.parse
    schemaModule := options.lookup "schema_module"
    dbSchema := options.lookup "db_schema"
    logLevel
    extra := options.filter fun o => !knownOptions.contains o.1
    path := some path }

def load (t : FileTree) (path : Path) : Except Error Settings := do
  match ← t.find? path with
  | .none => throw (.settingsMissing path.text)
  | some node =>
    let text := node.text?.getD ""
    ofIni (← (Ini.File.parse path.text text).mapError Error.settings) path

def firstTaken? (t : FileTree) : List Path → Except Error (Option Path)
  | [] => return .none
  | path :: rest => do if ← t.contains path then return some path else firstTaken? t rest

/-- The nearest settings file in a directory and those above it.  The root is not searched. -/
def nearest? (t : FileTree) (start : Path) : Except Error (Option Path) :=
  firstTaken? t (start.withParents.map (·.child fileName))

/-- The settings nearest above a directory, if there are any. -/
def discover (t : FileTree) (start : Path) : Except Error (Option Settings) := do
  (← nearest? t start).mapM (load t)

/-- The URL of the database to use: the one that is asked for, or the one of the environment, or
    the one of the settings. -/
def databaseUrl? (s : Settings) (asked environment : Option String) : Except Error String :=
  match [asked, environment, s.url].findSome? nonempty? with
  | some url => .ok url
  | .none => .error .urlMissing

/-- The line of a new settings file that states a URL, or a comment in its place. -/
def urlLine (url : Option String) : String :=
  match nonempty? url with
  | some url => "sqlalchemy.url = " ++ url
  | .none => "# sqlalchemy.url = sqlite+aiosqlite:///app.db"

def newText (url : Option String) : String :=
  "# SchemaKit configuration\n\n[" ++ sectionName ++ "]\n" ++ urlLine url ++ "\n\n" ++
    "# Target dialect: postgresql, mysql, sqlite or mssql (inferred from the URL if unset)\n" ++
    "# dialect =\n\n" ++
    "# Module holding TableFragment definitions, e.g. app.schema\n" ++
    "# schema_module =\n\n" ++
    "# Database schema to inspect (default schema if unset)\n" ++
    "# db_schema =\n\n" ++
    "log_level = " ++ Level.info.name ++ "\n"

/-- Writes a new settings file into a directory, which is made if it is not there.  A file that
    is there is kept. -/
def create (t : FileTree) (directory : Path) (url : Option String) :
    Except Error (Path × FileTree) := do
  let path := directory.child fileName
  if ← t.contains path then throw (.settingsExist path.text)
  -- Nothing is made for a file that is there already.
  let t ← t.makeDirectories directory
  return (path, ← t.write path (newText url))

end Settings

end Accrete
