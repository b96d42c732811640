import Accrete.Dialect
import Accrete.Field
import Accrete.Text.Part

/-!
# Column types

How a dialect spells the type of a column, and which spellings of an existing column count as
the same type.

* `Field.columnType`    -- the native type of a field
* `Field.acceptsType`   -- whether a live column's type is compatible with a field
-/

namespace Accrete

namespace Dialect

/-- The type of a text column that an index covers.  Two of the databases cannot index
    unbounded text. -/
def indexedTextType : Dialect → String
  | .postgresql | .sqlite => "text"
  | .mysql | .mssql => "varchar(255)"

def jsonType : Dialect → String
  | .postgresql => "jsonb"
  | .mysql => "json"
  | .sqlite => "text"
  | .mssql => "nvarchar(max)"

def booleanType : Dialect → String
  | .postgresql | .mysql => "boolean"
  | .sqlite => "integer"
  | .mssql => "bit"

def dateType : Dialect → String
  | .postgresql => "timestamp"
  | .mysql | .mssql => "datetime"
  | .sqlite => "date"

def timezoneType : Dialect → String
  | .postgresql | .mysql => "varchar(50)"
  | .sqlite => "text"
  | .mssql => "nvarchar(50)"

def textSpellings : Dialect → List String
  | .postgresql => ["character varying", "varchar", "text"]
  | .mysql => ["varchar(255)", "varchar(36)", "varchar", "text", "mediumtext", "longtext"]
  | .sqlite => ["text", "varchar"]
  | .mssql => ["text", "varchar", "nvarchar", "varchar(255)", "varchar(36)"]

def numberSpellings : Dialect → List String
  | .postgresql =>
    ["int2", "int4", "int8", "integer", "bigint", "smallint", "numeric", "real",
     "double precision"]
  | .mysql => ["integer", "int", "bigint", "smallint", "decimal", "float", "double"]
  | .sqlite => ["integer", "bigint", "real"]
  | .mssql =>
    ["int", "integer", "bigint", "smallint", "decimal", "float", "float(53)", "float(24)"]

/-- The spellings that a live truth-value column may have. -/
def booleanSpellings : Dialect → List String
  | .postgresql => ["bool", "boolean"]
  | .mysql => ["boolean", "bool", "tinyint", "tinyint(1)"]
  | .sqlite => ["integer", "boolean"]
  | .mssql => ["bit", "smallint"]

def dateSpellings : Dialect → List String
  | .postgresql =>
    ["timestamp", "timestamp without time zone", "timestamp with time zone", "timestamptz",
     "date"]
  | .mysql => ["timestamp", "datetime", "date"]
  | .sqlite => ["date", "datetime", "timestamp", "integer"]
  | .mssql => ["datetime", "datetime2", "date"]

def timezoneSpellings : Dialect → List String
  | .postgresql => ["text", "character varying", "varchar"]
  | .mysql => ["varchar(50)", "varchar"]
  | .sqlite => ["text", "varchar"]
  | .mssql => ["nvarchar(50)", "nvarchar", "varchar", "text"]

def jsonSpellings : Dialect → List String
  | .postgresql => ["json", "jsonb"]
  | .mysql => ["json", "longtext"]
  | .sqlite => ["text", "json"]
  | .mssql => ["nvarchar(max)", "nvarchar"]

/-- The spellings that a live column of a logical type may have.  Arrays are stored as JSON. -/
def acceptedSpellings (d : Dialect) : LogicalType → List String
  | .string => d.textSpellings
  | .number => d.numberSpellings
  | .boolean => d.booleanSpellings
  | .date => d.dateSpellings
  | .timezone => d.timezoneSpellings
  | .json | .stringArray | .numberArray => d.jsonSpellings

end Dialect

/-- Whether a text begins with blanks and an argument list in parentheses that ends the text and
    has no line feed. -/
def startsArguments (cs : List Char) : Bool :=
  match Text.trimLeft cs with
  | '(' :: rest => rest.getLast? == some ')' && !rest.contains '\n'
  | _ => false

/-- A trimmed type spelling without its arguments: all from the first place where an argument
    list starts is dropped. -/
def dropArguments : List Char → List Char
  | [] => []
  | c :: rest => if startsArguments (c :: rest) then [] else c :: dropArguments rest

namespace Field

/-- The native type of a field.  A text that references another table has the type of the key it
    points at, and one that is unique or covered by an index has the type that can be indexed.
    `covered` tells whether an index or a constraint of the table names the column. -/
def columnType (f : Field) (d : Dialect) (covered : Bool) : String :=
  match f.type with
  | .string =>
    if f.hasReference then d.idType
    else if f.isUnique || f.isIndexed || covered then d.indexedTextType
    else "text"
  | .number => if f.isBigint then "bigint" else "integer"
  | .boolean => d.booleanType
  | .date => d.dateType
  | .timezone => d.timezoneType
  | .json | .stringArray | .numberArray => d.jsonType

/-- Whether a live column's type is compatible with a field.  The spelling is trimmed, lowered
    and looked up as it is and without its arguments; JSON and arrays accept every spelling that
    mentions JSON. -/
def acceptsType (f : Field) (d : Dialect) (liveType : String) : Bool :=
  let spelling := Text.lower (Text.trim liveType)
  let base := String.ofList (dropArguments spelling.toList)
  let accepted := d.acceptedSpellings f.type
  let storedAsJson := f.type.isArray || f.type == .json
  (storedAsJson && Text.occursIn ['j', 's', 'o', 'n'] spelling.toList) ||
    accepted.contains spelling || accepted.contains base

end Field

end Accrete
