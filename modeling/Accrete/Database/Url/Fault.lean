import Accrete.Text.Numeral
import Accrete.Text.Quoted

/-!
# URL faults

Why a database URL cannot be used.

* `UrlFault`         -- the reasons
* `UrlFault.message` -- the wording
-/

namespace Accrete

/-- What the name of a driver may stand for instead. -/
inductive DriverMismatch where
  | type (name : String)
  | module (path : String)
  | value (kind : String)
  | choice
deriving DecidableEq, Repr

namespace DriverMismatch

def message (m : DriverMismatch) : String :=
  let lacks (what : String) : String := what ++ " has no attribute 'dialect'"
  match m with
  | .type name => lacks ("type object '" ++ name ++ "'")
  | .module path => lacks ("module '" ++ path ++ "'")
  | .value kind => lacks ("'" ++ kind ++ "' object")
  | .choice => "dialect"

end DriverMismatch

/-- What is wrong with a database URL. -/
inductive UrlFault where
  /-- The text is no URL. -/
  | unreadable
  /-- Digits are expected. -/
  | notInteger (given : String)
  /-- An integer has more digits than are read. -/
  | tooManyDigits (digits : Nat)
  /-- An integer does not fit in 32 bits. -/
  | integerTooLarge
  | notReal (given : String)
  /-- Yes or no is expected. -/
  | notTruth (given : String)
  | severalIntegers
  | severalReals
  | severalLevels
  | portEmpty
  | extensionUnknown (name : String)
  /-- The name of a driver has more than two parts. -/
  | driverParts
  | driverUnknown (name : String)
  /-- The name of a driver is that of something else. -/
  | driverMismatch (found : DriverMismatch)
  | driverMissing (moduleName : String)
  /-- A driver does not let others work while it waits. -/
  | driverBlocking
  /-- A URL names a server, but its driver only opens files. -/
  | notFile (url : String)
  /-- Options are given for a file that is not named. -/
  | fileMissing
deriving DecidableEq, Repr

namespace UrlFault

/-- Why a text is no integer. -/
def ofNumeral (given : String) : Text.Numeral.Fault → UrlFault
  | .malformed => .notInteger given
  | .tooLong digits => .tooManyDigits digits

/-- The number of characters that are shown of a text in the place of an integer. -/
def shownLength : Nat := 200

def message : UrlFault → String
  | .unreadable => "Could not parse SQLAlchemy URL from given URL string"
  | .notInteger given => "invalid literal for int() with base 10: " ++
      String.ofList ((Text.quote given).toList.take shownLength)
  | .tooManyDigits digits => Text.Numeral.tooLongMessage digits
  | .integerTooLarge => "Python int too large to convert to C int"
  | .notReal given => "could not convert string to float: " ++ Text.quote given
  | .notTruth given => "String is not true/false: " ++ Text.quote given
  | .severalIntegers =>
    "int() argument must be a string, a bytes-like object or a real number, not 'tuple'"
  | .severalReals => "float() argument must be a string or a real number, not 'tuple'"
  | .severalLevels =>
    "isolation_level string must be '', 'DEFERRED', 'IMMEDIATE', or 'EXCLUSIVE'"
  | .portEmpty => "Port argument must be an integer or None"
  | .extensionUnknown name => "Can't load plugin: sqlalchemy.plugins:" ++ name
  | .driverParts => "too many values to unpack (expected 2)"
  | .driverUnknown name => "Can't load plugin: sqlalchemy.dialects:" ++ name
  | .driverMismatch found => found.message
  | .driverMissing moduleName => "No module named " ++ Text.quote moduleName
  | .driverBlocking =>
    "The asyncio extension requires an async driver to be used. The loaded 'pysqlite' is not async."
  | .notFile url =>
    "Invalid SQLite URL: " ++ url ++ "\nValid SQLite URL forms are:\n" ++
      " sqlite:///:memory: (or, sqlite://)\n sqlite:///relative/path/to/file.db\n" ++
      " sqlite:////absolute/path/to/file.db"
  | .fileMissing => "unsupported operand type(s) for +=: 'NoneType' and 'str'"

end UrlFault

end Accrete
