import Accrete.Database.Url.Fault

/-!
# Drivers

What the driver that a URL names stands for.

* `Driver`        -- what a driver can do
* `Driver.named`  -- the driver of a name, which is that of a package and maybe one in it
* `DriverPackage` -- what a package holds besides drivers

A name in a package that is no driver is refused by what it is instead.
-/

namespace Accrete

/-- What a driver can do. -/
inductive Driver where
  /-- It opens files, and others can work while it waits. -/
  | waiting
  /-- It opens files, and nobody works while it waits. -/
  | blocking
  | missing (moduleName : String)
deriving DecidableEq, Repr

/-- A package of drivers, and what it holds besides them. -/
structure DriverPackage where
  name : String
  types : List String
  /-- Types under names that are not their own, with their own. -/
  renamedTypes : List (String × String)
  /-- Types of a choice, which tell no more than what they lack. -/
  choices : List String
  functions : List String
  modules : List String
  /-- Modules under names that are not their own, with their own. -/
  renamedModules : List (String × String)

namespace DriverPackage

def words (text : String) : List String := text.splitOn " "

def files : DriverPackage where
  name := "sqlite"
  types := words ("BLOB BOOLEAN CHAR DATE DATETIME DECIMAL FLOAT INTEGER JSON NUMERIC REAL " ++
    "SMALLINT TEXT TIME TIMESTAMP VARCHAR Insert")
  renamedTypes := [("dialect", "SQLiteDialect_pysqlite")]
  choices := []
  functions := ["insert"]
  modules := ["dml", "json"]
  renamedModules := []

def servers : List DriverPackage :=
  [{ name := "mysql"
     types := words ("BIGINT BINARY BIT BLOB BOOLEAN CHAR DATE DATETIME DECIMAL DOUBLE ENUM " ++
       "FLOAT INTEGER JSON LONGBLOB LONGTEXT MEDIUMBLOB MEDIUMINT MEDIUMTEXT NCHAR NUMERIC " ++
       "NVARCHAR REAL SET SMALLINT TEXT TIME TIMESTAMP TINYBLOB TINYINT TINYTEXT VARBINARY " ++
       "VARCHAR YEAR INET4 INET6 Insert match")
     renamedTypes := [("dialect", "MySQLDialect_mysqldb")]
     choices := []
     functions := ["insert", "limit"]
     modules := words ("dml enumerated expression json mariadb reflection reserved_words types " ++
       "_mariadb_shim")
     renamedModules := [] },
   { name := "postgresql"
     types := words ("ARRAY array BIGINT BIT BOOLEAN BYTEA CHAR CIDR CITEXT DATE " ++
       "DATEMULTIRANGE DATERANGE DOMAIN DOUBLE_PRECISION ENUM FLOAT HSTORE hstore INET " ++
       "INT4MULTIRANGE INT4RANGE INT8MULTIRANGE INT8RANGE INTEGER INTERVAL JSON JSONB JSONPATH " ++
       "MACADDR MACADDR8 MONEY NUMERIC NUMMULTIRANGE NUMRANGE OID REAL REGCLASS REGCONFIG " ++
       "SMALLINT TEXT TIME TIMESTAMP TSMULTIRANGE TSQUERY TSRANGE TSTZMULTIRANGE TSTZRANGE " ++
       "TSVECTOR UUID VARCHAR Insert aggregate_order_by ExcludeConstraint phraseto_tsquery " ++
       "plainto_tsquery to_tsquery to_tsvector ts_headline websearch_to_tsquery " ++
       "CreateDomainType CreateEnumType DropDomainType DropEnumType NamedType " ++
       "AbstractMultiRange AbstractRange AbstractSingleRange MultiRange Range BitString")
     renamedTypes := [("dialect", "PGDialect_psycopg"), ("ModuleType", "module")]
     choices := []
     functions := words "insert Any All array_agg distinct_on"
     modules := words ("_psycopg_common bitstring dml ext json named_types operators pg_catalog " ++
       "ranges types")
     renamedModules := [("arraylib", "array")] },
   { name := "mssql"
     types := words ("BIGINT BINARY BIT CHAR DATE DATETIME DATETIME2 DATETIMEOFFSET DECIMAL " ++
       "DOUBLE_PRECISION FLOAT IMAGE INTEGER JSON MONEY NCHAR NTEXT NUMERIC NVARCHAR REAL " ++
       "ROWVERSION SMALLDATETIME SMALLINT SMALLMONEY SQL_VARIANT TEXT TIME TIMESTAMP TINYINT " ++
       "UNIQUEIDENTIFIER VARBINARY VARCHAR XML")
     renamedTypes := [("dialect", "MSDialect_pyodbc")]
     choices := []
     functions := ["try_cast"]
     modules := ["information_schema", "json"]
     renamedModules := [] },
   { name := "oracle"
     types := words ("BFILE BINARY_DOUBLE BINARY_FLOAT BLOB CHAR CLOB DATE DOUBLE_PRECISION " ++
       "FLOAT INTERVAL JSON LONG NCHAR NCLOB NUMBER NVARCHAR RAW REAL ROWID TIMESTAMP VARCHAR " ++
       "VARCHAR2 VECTOR VectorIndexConfig SparseVector")
     renamedTypes := [("dialect", "OracleDialect_oracledb"), ("NVARCHAR2", "NVARCHAR"),
       ("ModuleType", "module")]
     choices := words "VectorDistanceType VectorIndexType VectorStorageFormat VectorStorageType"
     functions := []
     modules := words "dictionary json types vector"
     renamedModules := [] }]

/-- The kinds of the values that every package holds, by their names. -/
def standing : List (String × String) :=
  [("__name__", "str"), ("__file__", "str"), ("__package__", "str"), ("__cached__", "str"),
   ("__doc__", "NoneType"), ("__all__", "tuple"), ("__path__", "list"), ("__spec__", "ModuleSpec"),
   ("__loader__", "SourceFileLoader"), ("__builtins__", "dict"), ("__dict__", "dict"),
   ("__annotations__", "dict")]

/-- What a name stands for in a package, unless it is that of a driver or of nothing. -/
def mismatch? (p : DriverPackage) (name : String) : Option DriverMismatch :=
  let moduleNamed (own : String) : DriverMismatch :=
    .module ("sqlalchemy.dialects." ++ p.name ++ "." ++ own)
  if p.types.contains name then some (.type name)
  else if p.functions.contains name then some (.value "function")
  else if p.modules.contains name then some (moduleNamed name)
  else if p.choices.contains name then some .choice
  else if name == "__class__" then some (.type "module")
  else (p.renamedTypes.lookup name).map .type <|> (p.renamedModules.lookup name).map moduleNamed <|>
    (standing.lookup name).map .value

/-- The package of a family whose drivers share the modules of the first package for servers. -/
def family : String := "mariadb"

def familyModules : List String :=
  words "dml enumerated expression json mariadb provision reflection reserved_words types"

def mismatchIn? (package name : String) : Option DriverMismatch :=
  if package == family then
    if familyModules.contains name then some (.module ("sqlalchemy.dialects.mysql." ++ name))
    else none
  else (files :: servers).findSome? fun p =>
    if p.name == package then p.mismatch? name else none

end DriverPackage

namespace Driver

/-- The drivers by their names. -/
def known : List (String × Driver) :=
  [("sqlite+aiosqlite", .waiting), ("sqlite", .blocking), ("sqlite+pysqlite", .blocking),
   ("sqlite+base", .blocking), ("sqlite+pysqlcipher", .missing "pysqlcipher3"),
   ("postgresql", .missing "psycopg"), ("postgresql+base", .missing "psycopg"),
   ("postgresql+psycopg", .missing "psycopg"), ("postgresql+psycopg_async", .missing "psycopg"),
   ("postgresql+psycopg2", .missing "psycopg2"), ("postgresql+asyncpg", .missing "asyncpg"),
   ("postgresql+pg8000", .missing "pg8000"), ("postgresql+psycopg2cffi", .missing "psycopg2cffi"),
   ("mysql", .missing "MySQLdb"), ("mysql+base", .missing "MySQLdb"),
   ("mysql+mysqldb", .missing "MySQLdb"), ("mysql+aiomysql", .missing "aiomysql"),
   ("mysql+asyncmy", .missing "asyncmy"), ("mysql+pymysql", .missing "pymysql"),
   ("mysql+mysqlconnector", .missing "mysql"), ("mysql+mariadbconnector", .missing "mariadb"),
   ("mysql+cymysql", .missing "cymysql"), ("mysql+pyodbc", .missing "pyodbc"),
   ("mariadb", .missing "MySQLdb"), ("mariadb+base", .missing "MySQLdb"),
   ("mariadb+mysqldb", .missing "MySQLdb"), ("mariadb+aiomysql", .missing "aiomysql"),
   ("mariadb+asyncmy", .missing "asyncmy"), ("mariadb+pymysql", .missing "pymysql"),
   ("mariadb+mysqlconnector", .missing "mysql"), ("mariadb+mariadbconnector", .missing "mariadb"),
   ("mariadb+cymysql", .missing "cymysql"), ("mariadb+pyodbc", .missing "pyodbc"),
   ("mssql", .missing "pyodbc"), ("mssql+base", .missing "pyodbc"),
   ("mssql+pyodbc", .missing "pyodbc"), ("mssql+aioodbc", .missing "aioodbc"),
   ("mssql+pymssql", .missing "pymssql"), ("mssql+mssqlpython", .missing "mssql_python"),
   ("oracle", .missing "oracledb"), ("oracle+base", .missing "oracledb"),
   ("oracle+oracledb", .missing "oracledb"), ("oracle+oracledb_async", .missing "oracledb"),
   ("oracle+cx_oracle", .missing "cx_Oracle")]

/-- The mark between the two parts of a name. -/
def mark : Char := '+'

def mismatch? (name : String) : Option DriverMismatch :=
  match name.toList.span (· != mark) with
  | (package, _ :: part) => DriverPackage.mismatchIn? (String.ofList package) (String.ofList part)
  | _ => none

def named (name : String) : Except UrlFault Driver :=
  if name.toList.count mark > 1 then .error .driverParts
  else match known.lookup name, mismatch? name with
    | some d, _ => .ok d
    | none, some found => .error (.driverMismatch found)
    | none, none => .error (.driverUnknown (name.map fun c => if c == mark then '.' else c))

end Driver

end Accrete
