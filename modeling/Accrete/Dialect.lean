import Accrete.Text.Blank
import Accrete.Text.Case

/-!
# Dialects

The four databases whose SQL is written.

* `Dialect.ofName?`          -- a dialect from its name or a common alias
* `Dialect.idType`           -- the type of the generated primary key
* `Dialect.maxIndexName`     -- how long the name of an index may be
-/

namespace Accrete

/-- A target database's variant of SQL. -/
inductive Dialect where
  | postgresql | mysql | sqlite | mssql
deriving DecidableEq, Repr, Inhabited

namespace Dialect

def all : List Dialect := [.postgresql, .mysql, .sqlite, .mssql]

def name : Dialect → String
  | .postgresql => "postgresql"
  | .mysql => "mysql"
  | .sqlite => "sqlite"
  | .mssql => "mssql"

/-- The names a dialect goes by, the canonical ones first. -/
def aliases : List (String × Dialect) :=
  [("postgresql", .postgresql), ("postgres", .postgresql), ("pg", .postgresql),
   ("mysql", .mysql), ("mariadb", .mysql),
   ("sqlite", .sqlite), ("sqlite3", .sqlite),
   ("mssql", .mssql), ("sqlserver", .mssql)]

/-- The part of a dialect name that counts: trimmed, in lower case, and without the driver that
    follows a plus sign. -/
def nameKey (s : String) : String :=
  String.ofList ((Text.lower (Text.trim s)).toList.takeWhile (· != '+'))

def ofName? (s : String) : Option Dialect := aliases.lookup (nameKey s)

/-- The names of all dialects, as a message lists them. -/
def supported : String := ", ".intercalate (all.map name)

/-- The type of the generated primary key, and of text columns that reference one. -/
def idType : Dialect → String
  | .postgresql | .sqlite => "text"
  | .mysql | .mssql => "varchar(36)"

/-- The greatest number of characters in the name of an index. -/
def maxIndexName : Dialect → Nat
  | .postgresql => 63
  | .mysql => 255
  | .sqlite => 9999
  | .mssql => 128

end Dialect

end Accrete
