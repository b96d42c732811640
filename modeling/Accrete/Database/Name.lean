import Accrete.Database.Driver
import Accrete.Database.Url

/-!
# Database names

The name by which a URL lets a database be opened.

* `DatabaseName`      -- the name, and what is known to be wrong with it
* `DatabaseUrl.name`  -- the name of the database of a URL

Only SQLite databases can be opened, and only by a driver that does not block.
-/

namespace Accrete

/-- The name by which a database is opened, which may be a URI. -/
structure DatabaseName where
  text : String
  isUri : Bool
  /-- Why the database cannot be opened, whatever its name. -/
  fault : Option UrlFault
deriving DecidableEq, Repr

namespace DatabaseUrl

/-- The value that a text of yes or no has. -/
def truth (given : String) : Except UrlFault Bool :=
  let word := Text.lower (Text.trim given)
  if ["true", "yes", "on", "y", "t", "1"].contains word then .ok true
  else if ["false", "no", "off", "n", "f", "0"].contains word then .ok false
  else .error (.notTruth word)

/-- Whether an option is switched on.  One that is given several times is. -/
def flag (u : DatabaseUrl) (key : String) : Except UrlFault Bool :=
  match u.query.lookup key with
  | some [given] => truth given
  | some _ => .ok true
  | none => .ok false

/-- The only value of an option.  Several are refused. -/
def single (u : DatabaseUrl) (key : String) (several : UrlFault) :
    Except UrlFault (Option String) :=
  match u.query.lookup key with
  | some [given] => .ok (some given)
  | some _ => .error several
  | none => .ok none

def integer (u : DatabaseUrl) (key : String) : Except UrlFault (Option Int) := do
  (← u.single key .severalIntegers).mapM fun given =>
    (Text.readInteger given).mapError (.ofNumeral given)

/-- Refuses an option that is to be a number, unless it is one. -/
def checkReal (u : DatabaseUrl) (key : String) : Except UrlFault Unit := do
  if let some given ← u.single key .severalReals then
    if !Text.isReal given then throw (.notReal given)

/-- The option that makes the name of a database a URI. -/
def uriKey : String := "uri"

/-- The options that are about how a database is used. -/
def useKeys : List String :=
  [uriKey, "timeout", "isolation_level", "detect_types", "check_same_thread",
   "cached_statements"]

/-- What is wrong with an integer that does not fit in 32 bits. -/
def wordFault? (given : Option Int) : Option UrlFault :=
  if given.any fun n => n < -0x80000000 || 0x80000000 ≤ n then some .integerTooLarge else none

/-- What is wrong with several levels of isolation.  A single one does not count. -/
def levelFault? (u : DatabaseUrl) : Option UrlFault :=
  match u.query.lookup "isolation_level" with
  | none | some [_] => none
  | some _ => some .severalLevels

/-- Reads the options that are about how a database is used: whether its name is a URI, and what
    is wrong with those that only count when it is opened. -/
def readUse (u : DatabaseUrl) : Except UrlFault (Bool × Option UrlFault) := do
  let isUri ← u.flag uriKey
  u.checkReal "timeout"
  let detected ← u.integer "detect_types"
  let _ ← u.flag "check_same_thread"
  let kept ← u.integer "cached_statements"
  return (isUri, wordFault? detected <|> u.levelFault? <|> wordFault? kept)

def namesServer (u : DatabaseUrl) : Bool :=
  [u.user, u.password, u.host].any (fun part => part.any (!·.isEmpty)) || u.port.any (· != 0)

/-- The values of an option as they are handed over. -/
def handedOver : List String → String
  | [value] => value
  | values => "(" ++ ", ".intercalate (values.map Text.quote) ++ ")"

/-- The URI of a database: its name and the options that are not about its use. -/
def uri (u : DatabaseUrl) : Except UrlFault String :=
  let options := sortedQuery (u.query.filter fun q => !useKeys.contains q.1)
  if options.isEmpty then .ok (u.database.getD "None")
  else match u.database with
    | none => .error .fileMissing
    | some database => .ok (database ++ "?" ++ "&".intercalate
        (options.map fun (key, values) => key ++ "=" ++ handedOver values))

/-- Refuses a URL that asks for an extension, and leaves the names of extensions out. -/
def withoutExtensions (u : DatabaseUrl) : Except UrlFault DatabaseUrl :=
  match u.query.lookup "plugin" with
  | some (name :: _) => .error (.extensionUnknown name)
  | _ => .ok { u with query := u.query.filter fun q => q.1 != "plugins" }

/-- The name of the database of a URL that an SQLite driver opens. -/
def fileName (u : DatabaseUrl) : Except UrlFault DatabaseName := do
  if u.namesServer then throw (.notFile u.text)
  let (isUri, fault) ← u.readUse
  return ⟨← if isUri then u.uri else .ok (u.database.getD ""), isUri, fault⟩

def name (u : DatabaseUrl) : Except UrlFault DatabaseName := do
  let u ← u.withoutExtensions
  match ← Driver.named u.driver with
  | .missing moduleName => throw (.driverMissing moduleName)
  | .waiting => u.fileName
  | .blocking =>
    let _ ← u.fileName
    throw .driverBlocking

end DatabaseUrl

end Accrete
