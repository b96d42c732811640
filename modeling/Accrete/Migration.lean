import Accrete.Database.ReportedType
import Accrete.Runner
import Accrete.Schema.Assembly

/-!
# Migrations

Fragments, a database and a dialect put together.

* `bindDialect`         -- the dialect of a bind, stated or inferred
* `Migration.target`    -- the schema and the dialect to plan for
* `Migration.against`   -- the plan that brings a database up to a schema
* `Migration.prepare`   -- both in sequence
* `Database.backend`, `Database.refusingBackend` -- an SQLite database as a place to run plans
* `Migration.run`       -- a prepared migration applied to a database, which may have changed

A migration is planned afresh from the database each time; nothing is remembered between runs.
-/

namespace Accrete

/-- The dialect of a bind whose own dialect has a given name.  An unsupported name counts as
    SQLite, with a warning. -/
def inferDialect (name : String) : List Event × Dialect :=
  match Dialect.ofName? name with
  | some d => ([], d)
  | none => ([.dialectAssumed name], .sqlite)

/-- The dialect to plan for: the one stated, or else the one of the bind.  `bind` is the name of
    the bind's own dialect, if there is a bind. -/
def bindDialect (bind : Option String) (stated : Option String) : Logged Dialect :=
  match bind with
  | none => Logged.fail (.bindMissing .planning)
  | some own => match stated with
    | some name => Logged.ofExcept (Dialect.parse name)
    | none => Logged.ofPair (inferDialect own)

/-- A comparison and the plan that makes up for it. -/
structure Migration where
  difference : Difference
  plan : Plan

namespace Database

def dialectName : String := Dialect.sqlite.name

/-- An SQLite database as a place to run plans.  Definitions take effect at once, so the ends of
    a transaction change nothing. -/
def backend : Backend Database where
  dialect := .sqlite
  execute s text db := match db.execute s text with
    | .ok db' => (db', none)
    | .error cause => (db, some (.refused cause text))
  start := id
  commit := id
  rollback := id

/-- A database that cannot be written to.  A statement that could be executed is refused for that
    fault. -/
def refusingBackend (fault : Refusal) : Backend Database :=
  { backend with execute := fun s text db =>
      (db, some (.refused (match db.execute s text with
        | .ok _ => fault
        | .error cause => cause) text)) }

end Database

namespace Migration

def isEmpty (m : Migration) : Bool := m.plan.isEmpty

/-- The schema and the dialect that fragments and a stated dialect lead to. -/
def target (fragments : List Fragment) (stated : Option String) : Logged (Schema × Dialect) := do
  let schema ← Schema.assemble fragments
  let d ← bindDialect (some Database.dialectName) stated
  return (schema, d)

/-- What makes up for the difference between a schema and a database. -/
def against (schema : Schema) (d : Dialect) (db : Database) (schemaName : Option String) :
    Logged Migration := do
  let live ← db.introspect schemaName
  let found ← Accrete.difference schema.entries live d
  let plan ← Plan.build found.toCreate found.toAdd d
  return ⟨found, plan⟩

def prepare (db : Database) (fragments : List Fragment) (stated : Option String)
    (schemaName : Option String) : Logged Migration := do
  let (schema, d) ← target fragments stated
  against schema d db schemaName

def document (m : Migration) : Except Error String := m.plan.document.mapError Error.statement

def run (m : Migration) (bind : BindKind) (db : Database) : Run Database :=
  m.plan.run Database.backend bind db

end Migration

end Accrete
