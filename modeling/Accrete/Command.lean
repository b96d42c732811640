import Accrete.CommandLine
import Accrete.FileTree.Opening
import Accrete.Migration
import Accrete.SchemaModule
import Accrete.Settings

/-!
# Commands

What a request does to the files it can see, what it prints, and how it ends.

* `World`           -- what a command can see
* `Outcome`         -- what a command leaves
* `Threshold.ofName` -- which events a log level lets through
* `Invocation.run`  -- carries out a request

A planning command finds its settings, the URL of its database and its fragments, in this order;
whatever is missing ends it with a message.  Then it plans a migration and shows it, writes its
SQL, or applies it.
-/

namespace Accrete

/-- What a command can see. -/
structure World where
  files : FileTree
  /-- The database URL of the environment. -/
  environment : Option String
  modules : List SchemaModule

/-- What a command leaves: the files, what it printed, the events that its log level lets
    through, and its exit code unless an error stopped it. -/
structure Outcome where
  files : FileTree
  printed : String
  events : List Event
  exit : Except Error Nat

/-- How a command ends before it has planned anything: with a message and the exit code 1, or by
    an error. -/
inductive Ending where
  | message (printed : String)
  | error (cause : Error)

namespace Error

/-- Whether an error is about the schema or the way it is put to use, and not about statements or
    files. -/
def isPlanningError : Error → Bool
  | .declaration (.refused _) | .reservedColumn .. | .dialectUnsupported _ | .bindMissing _ => true
  | _ => false

/-- The wording of an error that ends a migration.  A refused statement is shown as it was
    sent. -/
def report : Error → String
  | .refused cause sent => match cause.kind.name? with
    | some name =>
      "(sqlite3." ++ name ++ ") " ++ cause.message ++ "\n[SQL: " ++ sent ++ "]"
    | none => cause.message
  | e => e.message

end Error

namespace Threshold

/-- The least weight that each log level lets through, by its names. -/
def known : List (String × Nat) :=
  [("NOTSET", 0), ("DEBUG", Level.debug.weight), ("INFO", Level.info.weight),
   ("WARN", Level.warning.weight), ("WARNING", Level.warning.weight),
   ("ERROR", Level.error.weight), ("FATAL", Level.critical.weight),
   ("CRITICAL", Level.critical.weight)]

/-- The least weight that a log level lets through.  Unknown names count as `INFO`, but the name
    of the log format is taken for the format. -/
def ofName (name : String) : Except Error Nat :=
  let name := Text.upper name
  if name == "BASIC_FORMAT" then .error (.logLevelUnknown "%(levelname)s:%(name)s:%(message)s")
  else .ok ((known.lookup name).getD Level.info.weight)

def letThrough (least : Nat) (events : List Event) : List Event :=
  events.filter fun e => least ≤ e.level.weight

end Threshold

namespace World

/-- The settings of a planning command: from the file it names, or from the nearest one.  Without
    any file there are none. -/
def settings (w : World) (config : Option String) : Except Ending Settings :=
  match Settings.nonempty? config with
  | some name =>
    let path := Path.ofString name
    match w.files.contains path with
    | .error e => .error (.error e)
    | .ok true => (Settings.load w.files path).mapError .error
    | .ok false => .error (.message ("Error: Config file not found: " ++ path.text ++ "\n"))
  | none =>
    -- The working directory is asked first, since the search upwards leaves out the root.
    let here := w.files.workingDirectory
    match w.files.contains (here.child Settings.fileName) with
    | .error e => .error (.error e)
    | .ok true => (Settings.load w.files (here.child Settings.fileName)).mapError .error
    | .ok false => do
      let found ← (Settings.discover w.files here).mapError .error
      return found.getD Settings.none

def noFragments : String :=
  "Error: No table fragments found. Use --schema to specify the schema module.\n"

def fragments (w : World) (moduleName : Option String) : Except Ending (List Fragment) :=
  match Settings.nonempty? moduleName with
  | none => .error (.message noFragments)
  | some name =>
    if name.toList.head? == some '.' then .error (.error (.moduleRelative name))
    else match SchemaModule.locate w.modules name with
      | .error fault =>
        .error (.message ("Error importing schema: " ++ fault.message ++ "\n" ++ noFragments))
      | .ok m => if m.fragments.isEmpty then .error (.message noFragments) else .ok m.fragments

def databaseUrl (w : World) (s : Settings) (asked : Option String) : Except Ending String :=
  match s.databaseUrl? asked w.environment with
  | .ok url => .ok url
  | .error _ => .error (.message
      "Error: No database URL configured. Use --url or set sqlalchemy.url in schemakit.ini\n")

end World

/-- What a planning command has found before it plans. -/
structure Inputs where
  threshold : Nat
  database : DatabaseName
  fragments : List Fragment
  dialect : Option String
  dbSchema : Option String

namespace Inputs

def find (w : World) (logLevel : Option String) (s : Sources) : Except Ending Inputs := do
  let settings ← w.settings s.config
  let levelName := (Settings.nonempty? logLevel).getD settings.logLevel.name
  let threshold ← (Threshold.ofName levelName).mapError .error
  let url ← w.databaseUrl settings s.url
  let fragments ← w.fragments ((Settings.nonempty? s.schema) <|> settings.schemaModule)
  let dialect := (Settings.nonempty? s.dialect) <|> settings.dialect.map (·.name)
  let database ← (DatabaseUrl.read url >>= DatabaseUrl.name).mapError fun cause =>
    .error (.urlUnusable cause)
  return ⟨threshold, database, fragments, dialect, settings.dbSchema⟩

end Inputs

/-- A planned migration with the database that it was planned for, and the files since it is
    open. -/
structure Prepared where
  migration : Migration
  opened : OpenDatabase
  files : FileTree

namespace Prepared

/-- Plans a migration.  The database is opened when the schema and the dialect are known, which
    may change the files even if it fails. -/
def ofInputs (w : World) (i : Inputs) : Logged Prepared × FileTree :=
  let target := Migration.target i.fragments i.dialect
  let (opened, files) := (FileTree.openNamed i.database).run.run w.files
  let prepared : Logged Prepared := do
    let (schema, d) ← target
    let opened ← Logged.ofExcept opened
    return ⟨← Migration.against schema d opened.database i.dbSchema, opened, files⟩
  -- Without a schema and a dialect the database was never opened.
  (prepared, if target.outcome matches .ok _ then files else w.files)

/-- Where the migration is to run. -/
def backend (p : Prepared) : Backend Database :=
  match p.opened.writeFault with
  | some fault => Database.refusingBackend fault
  | none => Database.backend

def keep (p : Prepared) (db : Database) : FileTree := p.files.keep p.opened db

end Prepared

namespace Migration

def creationLine (t : Table) : Except Misuse String := do
  return "  + Table " ++ t.name ++ ": Create with fields [" ++
    (← Value.join ", " (.text primaryKeyName :: Bag.names t.fields)) ++ "]"

def additionLine (e : Extension) : Except Misuse String := do
  return "  + Table " ++ e.table ++ ": Add fields [" ++
    (← Value.join ", " (Bag.names e.fields)) ++ "]"

/-- The lines that tell what a migration changes: tables to create, then columns to add. -/
def lines (m : Migration) : Except Misuse (List String) := do
  return (← m.difference.toCreate.mapM creationLine) ++ (← m.difference.toAdd.mapM additionLine)

/-- The line that announces a migration. -/
def headline : String := "The following migrations will be applied:\n"

end Migration

namespace Outcome

def ended (files : FileTree) (printed : String) (code : Nat) : Outcome :=
  ⟨files, printed, [], .ok code⟩

def stopped (files : FileTree) (e : Error) : Outcome := ⟨files, "", [], .error e⟩

/-- A command that ends before it has planned anything. -/
def ofEnding (files : FileTree) : Ending → Outcome
  | .message printed => ended files printed 1
  | .error e => stopped files e

def after (events : List Event) (o : Outcome) : Outcome := { o with events := events ++ o.events }

def letThrough (least : Nat) (o : Outcome) : Outcome :=
  { o with events := Threshold.letThrough least o.events }

end Outcome

/-- Announces a planned migration and goes on from there with what was printed. -/
def announce (p : Prepared) (next : String → Outcome) : Outcome :=
  match p.migration.lines with
  | .ok lines => next (Migration.headline ++ CommandLine.paragraph lines)
  | .error cause => ⟨p.files, Migration.headline, [], .error (.misused cause)⟩

def showPlan (p : Prepared) : Outcome := announce p fun announced => .ended p.files announced 0

/-- Prints the SQL of a planned migration, or writes it to a file. -/
def showSql (output : Option String) (p : Prepared) : Outcome :=
  match p.migration.document with
  | .error e => .stopped p.files e
  | .ok sql =>
    match Settings.nonempty? output with
    | none => .ended p.files (sql ++ "\n") 0
    | some name =>
      match p.files.write (Path.ofString name) (sql ++ "\n") with
      | .error e => .stopped p.files e
      | .ok files =>
        .ended files ("Wrote " ++ toString p.migration.plan.operations.length ++
          " operation(s) to " ++ name ++ "\n") 0

def question : String := "Apply these migrations to the database? [y/N] "

def saysYes (input : String) : Bool :=
  match Text.firstLine? input with
  | none => false
  | some line => ["y", "yes"].contains (Text.lower (Text.trim line))

def apply (p : Prepared) (announced : String) : Outcome :=
  let r := p.migration.plan.run p.backend .engine p.opened.database
  let (ending, code) := match r.failure with
    | none => ("Applied " ++ toString p.migration.plan.operations.length ++ " operation(s).\n", 0)
    | some e => ("Error: Migration failed: " ++ e.report ++ "\n", 1)
  ⟨p.keep r.state, announced ++ ending, r.events, .ok code⟩

/-- Announces a planned migration and applies it, if that is confirmed. -/
def applyIfConfirmed (confirmed : Bool) (input : String) (p : Prepared) : Outcome :=
  announce p fun announced =>
    if confirmed then apply p announced
    else if saysYes input then apply p (announced ++ question)
    else .ended p.files (announced ++ question ++ "Migration cancelled.\n") 1

/-- Carries out a planning command, given what it does with a migration that is not empty. -/
def runPlanning (w : World) (logLevel : Option String) (s : Sources)
    (finish : Prepared → Outcome) : Outcome :=
  match Inputs.find w logLevel s with
  | .error ending => .ofEnding w.files ending
  | .ok inputs =>
    let (prepared, files) := Prepared.ofInputs w inputs
    let outcome : Outcome := match prepared.outcome with
      | .ok p =>
        if p.migration.isEmpty then .ended p.files "Database is up to date.\n" 0 else finish p
      | .error e =>
        if e.isPlanningError then
          .ended files ("Error: Migration planning failed: " ++ e.message ++ "\n") 1
        else .stopped files e
    (outcome.after prepared.events).letThrough inputs.threshold

def runInit (w : World) (directory : String) (url : Option String) : Outcome :=
  match Settings.create w.files (w.files.resolve (Path.ofString directory)) url with
  | .ok (path, files) =>
    .ended files ("Created " ++ path.text ++
      "\n\nEdit schemakit.ini to configure your database URL and schema module.\n") 0
  | .error e =>
    match e with
    | .settingsExist _ | .pathUnusable .taken _ =>
      .ended w.files ("Error: " ++ e.message ++ "\n") 1
    | _ => .stopped w.files e

namespace Invocation

/-- Carries out a request.  `input` is what the user types. -/
def run (w : World) (i : Invocation) (input : String) : Outcome :=
  match i.request with
  | .nothing => .ended w.files CommandLine.Topic.overview.page 1
  | .unspecified => .ended w.files "Unknown migrate subcommand. Use --help for usage.\n" 1
  | .init directory url => runInit w directory url
  | .plan s => runPlanning w i.logLevel s showPlan
  | .sql s output => runPlanning w i.logLevel s (showSql output)
  | .up s confirmed => runPlanning w i.logLevel s (applyIfConfirmed confirmed input)

end Invocation

namespace World

/-- Carries out arguments.  Asking for help succeeds, and arguments that cannot be read have an
    exit code of their own. -/
def run (w : World) (args : List String) (input : String) : Outcome :=
  match Invocation.ofArgs args with
  | .ok i => i.run w input
  | .error (.help topic) => .ended w.files topic.page 0
  | .error .refused => .ended w.files "" 2

end World

end Accrete
