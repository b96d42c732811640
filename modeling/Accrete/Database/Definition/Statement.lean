import Accrete.Database.Definition.Reader

/-!
# Reading statements that define

* `TableStatement.reader`   -- takes a statement that creates a table
* `ColumnStatement.reader`  -- takes a statement that adds a column to a table
* `IndexStatement.reader`   -- takes a statement that creates an index

The source of a definition is kept, so that columns can be put into it later and the whole be read
again.
-/

namespace Accrete

/-- What a statement that creates a table says. -/
structure TableStatement where
  definition : Definition
  options : TableOptions
  /-- What speaks against the options. -/
  fault : Option Refusal
  /-- The definition as it is written, cut where the columns end. -/
  source : List Char × List Char
  /-- Whether something follows the statement. -/
  followed : Bool

namespace TableStatement

open Reader

/-- The parts of a source before and after a cut, given the tokens that are left at its start, at
    the cut, and at its end. -/
def cut (start middle finish : List Token) : List Char × List Char :=
  let head := start.take (start.length - middle.length)
  let tail := middle.take (middle.length - finish.length)
  (Token.sourceOf head ++ (middle.take 1).flatMap (·.before), Token.sourceOf tail)

/-- Takes a statement that creates a table.  `fault?` tells what speaks against its name, and
    `reread` that the definition was accepted before. -/
def reader (reread : Bool) (fault? : Token → Option Refusal) : Reader TableStatement := do
  let (start, table) ← asOne do
    expectWord "create"
    expectWord "table"
    return ((← get).tokens, ← nameToken)
  if let some refusal := fault? table then note refusal
  expectSymbol "("
  let (definition, middle) ← Definition.body reread (.start table.value)
  expectSymbol ")"
  let options ← Definition.tableOptions
  let source := cut start middle (← get).tokens
  let fault ← takeNote
  return ⟨definition, options, fault, source, ← finish⟩

end TableStatement

/-- What a statement that adds a column says. -/
structure ColumnStatement where
  /-- The table as it is written. -/
  table : Token
  definition : Definition
  /-- The definition of the column as it is written. -/
  source : List Char
  /-- How many values are left open. -/
  parameters : Nat
  /-- Whether something follows the statement. -/
  followed : Bool

namespace ColumnStatement

open Reader

/-- A text without blanks and semicolons at its end. -/
def trimEnd (cs : List Char) : List Char :=
  (cs.reverse.dropWhile fun c => c == ';' || Token.isSpace c).reverse

/-- How many parameters tokens name.  Those without a name are all different. -/
def parameterCount (tokens : List Token) : Nat :=
  let given := (tokens.filter (·.kind == .variable)).map (·.text)
  let (unnamed, named) := given.partition (· == ['?'])
  unnamed.length + named.eraseDups.length

/-- Takes a statement that adds a column.  `columns` tells the columns that a table has, or what
    speaks against changing it. -/
def reader (columns : Token → Except Refusal Definition) : Reader ColumnStatement := do
  expectWord "alter"
  expectWord "table"
  let table ← nameToken
  let before ← orNote (.start table.value) (columns table)
  expectWord "add"
  if !(← takeWord "column") then deepen
  let (definition, tokens) ← spanned (Definition.column false before)
  let source := trimEnd (Token.sourceOf tokens ++ (← peek).before)
  return ⟨table, definition, source, parameterCount tokens, ← finish⟩

end ColumnStatement

/-- What a statement that creates an index says. -/
structure IndexStatement where
  unique : Bool
  name : Token
  table : Token
  parts : List KeyPart
  /-- Whether something follows the statement. -/
  followed : Bool

namespace IndexStatement

open Reader

def reader : Reader IndexStatement := do
  expectWord "create"
  let unique ← takeWord "unique"
  if !unique then deepen
  expectWord "index"
  deepen
  let name ← nameToken
  deepen
  expectWord "on"
  let table ← nameToken
  let (parts, _) ← Definition.keyParts ""
  return ⟨unique, name, table, parts, ← finish⟩

end IndexStatement

end Accrete
