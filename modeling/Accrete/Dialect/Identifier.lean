import Accrete.Dialect.Reserved

/-!
# Identifiers

How names are written in SQL.

* `Dialect.needsQuotes`   -- whether a name has to be quoted
* `Dialect.quoted`        -- a name between the dialect's quotation marks
* `Dialect.identifier`    -- a name, quoted only when it has to be
-/

namespace Accrete.Dialect

/-- Whether a character may stand in an unquoted name.  Letters are compared without regard to
    case, which takes in four characters that fold to an ASCII letter. -/
def isNameChar (c : Char) : Bool :=
  c.isAlphanum || c == '_' || c == '$' || c == 'ſ' || c == 'ı' || c == 'İ' || c == '\u212a'

/-- Whether all characters of a name may stand unquoted; a final line feed is overlooked. -/
def isPlainName (cs : List Char) : Bool :=
  let body := if cs.getLast? == some '\n' then cs.dropLast else cs
  !body.isEmpty && body.all isNameChar

/-- Whether a name has to be quoted: it is empty or reserved, starts with a digit or a dollar
    sign, has other characters than letters, digits, underscores and dollar signs, or is not in
    lower case. -/
def needsQuotes (d : Dialect) (name : String) : Bool :=
  let cs := name.toList
  let lowered := Text.lower name
  d.reserved.contains lowered ||
    cs.head?.any (fun c => c.isDigit || c == '$') ||
    !isPlainName cs || lowered != name

def marks : Dialect → Char × Char
  | .postgresql | .sqlite => ('"', '"')
  | .mysql => ('\x60', '\x60')
  | .mssql => ('[', ']')

/-- Whether a percent sign inside a quoted name is doubled. -/
def doublesPercent : Dialect → Bool
  | .postgresql | .mysql => true
  | .sqlite | .mssql => false

/-- A character of a quoted name; the closing mark is doubled. -/
def quotedChar (d : Dialect) (c : Char) : List Char :=
  if c == d.marks.2 || (c == '%' && d.doublesPercent) then [c, c] else [c]

def quoted (d : Dialect) (name : String) : String :=
  String.ofList (d.marks.1 :: (name.toList.flatMap d.quotedChar ++ [d.marks.2]))

/-- A name as SQL, quoted only when it has to be. -/
def identifier (d : Dialect) (name : String) : String :=
  if d.needsQuotes name then d.quoted name else name

def identifiers (d : Dialect) (names : List String) : String :=
  ", ".intercalate (names.map d.identifier)

end Accrete.Dialect
