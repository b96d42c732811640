import Accrete.Database
import Accrete.Difference
import Accrete.Text.Digit
import Accrete.Text.Part
import Accrete.Text.Word

/-!
# Reported types

How the declared types of a database's columns are reported.

* `ReportedType.read`      -- the type that a declaration is taken for
* `ReportedType.shown?`    -- its text
* `Database.introspect`    -- the tables of a database as they are reported
-/

namespace Accrete

/-- The type names that are reported as they are, some under another name. -/
def knownTypes : List (String × String) :=
  [("BIGINT", "BIGINT"), ("BLOB", "BLOB"), ("BOOL", "BOOLEAN"), ("BOOLEAN", "BOOLEAN"),
   ("CHAR", "CHAR"), ("DATE", "DATE"), ("DATE_CHAR", "DATE"), ("DATETIME", "DATETIME"),
   ("DATETIME_CHAR", "DATETIME"), ("DOUBLE", "DOUBLE"), ("DECIMAL", "DECIMAL"),
   ("FLOAT", "FLOAT"), ("INT", "INTEGER"), ("INTEGER", "INTEGER"), ("JSON", "JSON"),
   ("JSONB", "JSONB"), ("NUMERIC", "NUMERIC"), ("REAL", "REAL"), ("SMALLINT", "SMALLINT"),
   ("TEXT", "TEXT"), ("TIME", "TIME"), ("TIME_CHAR", "TIME"), ("TIMESTAMP", "TIMESTAMP"),
   ("VARCHAR", "VARCHAR"), ("NVARCHAR", "NVARCHAR"), ("NCHAR", "NCHAR")]

/-- The type that a name belongs to by the words it contains, or nothing. -/
def affinity? (name : String) : Option String :=
  let has (word : String) : Bool := Text.occursIn word.toList name.toList
  if has "INT" then some "INTEGER"
  else if has "CHAR" || has "CLOB" || has "TEXT" then some "TEXT"
  else if has "BLOB" || name.isEmpty then none
  else if has "REAL" || has "FLOA" || has "DOUB" then some "REAL"
  else some "NUMERIC"

def digitRuns : List Char → List (List Char)
  | [] => []
  | c :: rest =>
    if Text.isDigit c then
      match rest, digitRuns rest with
      | d :: _, run :: runs => if Text.isDigit d then (c :: run) :: runs else [c] :: run :: runs
      | _, runs => [c] :: runs
    else digitRuns rest

/-- The number of a run of digits. -/
def argument (run : List Char) : Except Misuse Nat :=
  if Text.Numeral.digitLimit < run.length then .error (.tooManyDigits run.length)
  else .ok (Text.digitsValue run)

/-- The arguments at the start of a text: the digit runs up to the first closing parenthesis,
    which has to stand in the same line. -/
def typeArguments : List Char → Except Misuse (List Nat)
  | '(' :: rest =>
    let inner := rest.takeWhile (· != ')')
    if (rest.dropWhile (· != ')')).isEmpty || inner.contains '\n' then .ok []
    else (digitRuns inner).mapM argument
  | _ => .ok []

/-- How the length and the collation of a text are reported.  A length of zero is none, and a
    collation has to be a text. -/
def reportedLength (length collation : Nat) : Except Misuse String :=
  if collation != 0 then .error ((Value.number (.int collation)).lacks "lower")
  else .ok (if length == 0 then "" else "(" ++ toString length ++ ")")

/-- How the arguments of a type are reported.  Texts have a length and maybe a collation, exact
    numbers a precision and maybe a scale, and all others nothing. -/
def reportedArguments (type : String) (args : List Nat) : Except Misuse String :=
  if ["CHAR", "VARCHAR", "NCHAR", "NVARCHAR", "TEXT"].contains type then
    match args with
    | [n] => reportedLength n 0
    | [n, collation] => reportedLength n collation
    | _ => .ok ""
  else if ["NUMERIC", "DECIMAL"].contains type then
    match args with
    | [p] => .ok ("(" ++ toString p ++ ")")
    | p :: s :: rest =>
      .ok (if 2 < rest.length then "" else "(" ++ toString p ++ ", " ++ toString s ++ ")")
    | _ => .ok ""
  else .ok ""

/-- The type that a declaration is taken for. -/
structure ReportedType where
  /-- The name of the type, if the dialect knows it. -/
  name : Option String
  arguments : List Nat

namespace ReportedType

/-- The type that a declaration is taken for.  It is read in upper case: a run of word characters
    and spaces, then arguments. -/
def read (declared : String) : Except Misuse ReportedType := do
  let cs := (Text.upper declared).toList
  let isNamePart (c : Char) : Bool := Text.isWord c || c == ' '
  let name := String.ofList (cs.takeWhile isNamePart)
  let arguments ← if name.isEmpty then .ok [] else typeArguments (cs.dropWhile isNamePart)
  return ⟨knownTypes.lookup name <|> affinity? name, arguments⟩

/-- The text of a type, or nothing when the dialect does not know it. -/
def shown? (t : ReportedType) : Except Misuse (Option String) :=
  t.name.mapM fun name => do return name ++ (← reportedArguments name t.arguments)

end ReportedType

/-- How a type is reported that the dialect does not know. -/
def unknownType : String := "NullType"

/-- A text without the places where a word occurs in it, in whatever case. -/
def withoutWord (word : List Char) : List Char → List Char
  | [] => []
  | c :: rest =>
    if word.isPrefixOf ((c :: rest).map Char.toLower) then
      withoutWord word (rest.drop (word.length - 1))
    else c :: withoutWord word rest
termination_by cs => cs.length
decreasing_by
  all_goals simp only [List.length_drop, List.length_cons]; omega

namespace StoredColumn

/-- The type that is reported of a column.  That of a computed one leaves out the words that tell
    so. -/
def declaredType (c : StoredColumn) : String :=
  let type := c.type.getD ""
  if c.computed.isNone then type
  else String.ofList (withoutWord "always".toList (withoutWord "generated".toList type.toList))

/-- A column of a type as it is reported, with an event if the type is not known. -/
def report (c : StoredColumn) (type : ReportedType) : Logged LiveColumn := do
  match ← Logged.ofExcept (type.shown?.mapError Error.misused) with
  | some type => return ⟨c.name, type, c.notNull.isNone⟩
  | none =>
    Logged.report [.typeUnnamed]
    return ⟨c.name, unknownType, c.notNull.isNone⟩

end StoredColumn

namespace StoredTable

/-- A table as it is reported.  The types of all its columns are read before any is shown. -/
def report (t : StoredTable) : Logged LiveTable := do
  let types ← Logged.ofExcept
    ((t.columns.mapM fun c => ReportedType.read c.declaredType).mapError Error.misused)
  return ⟨t.name, ← (t.columns.zip types).mapM fun (c, type) => c.report type⟩

end StoredTable

namespace Database

/-- The tables of a database by name, without those that it keeps for itself. -/
def tablesByName (db : Database) : List StoredTable :=
  (db.tables.filter fun t => !isReserved t.name).mergeSort fun a b => decide (a.name ≤ b.name)

/-- The tables that stand in a schema of a database: all of them in the main one, and none in the
    one for temporary tables. -/
def tablesIn (db : Database) : Option String → Except Error (List StoredTable)
  | none => .ok db.tablesByName
  | some schema =>
    if schema.toList.contains '\x00' then .error (.refused .nullCharacter "")
    else if sameName schema "main" then .ok db.tablesByName
    else if sameName schema "temp" then .ok []
    else .error (.refused (.noSuchTable (schema ++ ".sqlite_master")) "")

def introspect (db : Database) (schema : Option String) : Logged (List LiveTable) := do
  (← Logged.ofExcept (db.tablesIn schema)).mapM StoredTable.report

end Database

end Accrete
