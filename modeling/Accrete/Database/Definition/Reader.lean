import Accrete.Database.Definition
import Accrete.Database.Expression.Reader

/-!
# Reading definitions

What stands between the parentheses of a statement that creates a table.

* `Definition.column`       -- takes a column with its constraints
* `Definition.body`         -- takes the columns and the constraints of a table
* `Definition.tableOptions` -- takes the options that follow them
* `Definition.keyParts`     -- takes the parts of a key or an index
-/

namespace Accrete

namespace Definition

open Reader

/-! ## Parts of constraints -/

/-- Takes what is to be done with a row that breaks a constraint, if that is stated. -/
def conflict : Reader (Option Conflict) := do
  if !(← takeWord "on") then return none
  expectWord "conflict"
  if ← takeWord "rollback" then return some .rollback
  if ← takeWord "abort" then return some .abort
  if ← takeWord "fail" then return some .fail
  if ← takeWord "ignore" then return some .ignore
  expectWord "replace"
  return some .replace

/-- Takes the order of a key, if it is stated, and tells whether it descends. -/
def descending : Reader Bool := do
  if ← takeWord "asc" then return false
  takeWord "desc"

/-- Takes the place of null in a key, if it is stated. -/
def nulls : Reader (Option String) := do
  if !(← takeWord "nulls") then return none
  if ← takeWord "first" then return some "FIRST"
  expectWord "last"
  return some "LAST"

def keyPart : Reader KeyPart := do
  let rule ← Expression.reader
  let _ ← descending
  return ⟨rule, ← nulls⟩

/-- Takes the parts of a key in parentheses, with a word that may follow them. -/
def keyParts (word : String) : Reader (List KeyPart × Bool) := do
  expectSymbol "("
  let parts ← commaSeparated keyPart
  let found ← if word.isEmpty then pure false else takeWord word
  expectSymbol ")"
  return (parts, found)

/-- Takes the name of a column in a foreign key.  Nothing may be stated about it. -/
def foreignColumn (reread : Bool) : Reader String := do
  let column ← nameToken
  let (_, more) ← spanned do
    if ← takeWord "collate" then discard (expect Token.isTypePart)
    discard descending
  if !more.isEmpty && !reread then note (.columnNameSpoilt column.source)
  return column.value

/-- Takes the names of columns in parentheses. -/
def foreignColumns (reread : Bool) : Reader (List String) := do
  expectSymbol "("
  let columns ← commaSeparated (foreignColumn reread)
  expectSymbol ")"
  return columns

/-- Takes what is to be done with a row whose target goes away. -/
def referenceAction : Reader Unit := do
  if ← takeWord "set" then
    if !(← takeWord "null") then expectWord "default"
  else if ← takeWord "no" then expectWord "action"
  else if !(← takeWord "cascade") then expectWord "restrict"

def referenceClause : Reader (Option Unit) := do
  if ← takeWord "match" then
    let _ ← nameToken
    return some ()
  if ← takeWord "on" then
    if !(← takeWord "insert") then
      if !(← takeWord "delete") then expectWord "update"
    referenceAction
    return some ()
  return none

def foreignTarget (reread : Bool) : Reader ForeignTarget := do
  let table ← nameToken
  let columns ← if (← peek).isSymbol "(" then
      (fun columns => some columns.length) <$> foreignColumns reread
    else pure none
  return ⟨table, columns⟩

def referenceClauses : Reader Unit := do
  deepen
  repeated (fun _ => intoLast referenceClause) ()

/-- Takes the time at which a reference is checked, which follows its first word. -/
def deferral : Reader Unit := do
  expectWord "deferrable"
  if ← takeWord "initially" then
    if !(← takeWord "deferred") then expectWord "immediate"

/-! ## Constraints of a column -/

def parenthesized : Reader (Expression × List Char) := do
  expectSymbol "("
  let (e, tokens) ← spanned Expression.reader
  let closing ← peek
  let source := (tokens.take 1).flatMap (·.before) ++ Token.sourceOf tokens ++ closing.before
  expectSymbol ")"
  return (e, source)

/-- Takes a literal. -/
def term : Reader Expression := do
  let t ← expect fun t => t.literal?.isSome
  return t.literal?.getD (.literal .null)

def defaultValue : Reader Expression := do
  let t ← peek
  if t.isSymbol "(" then return (← parenthesized).1
  if t.literal?.isSome then return ← term
  if ← takeSymbol "+" then return ← term
  if ← takeSymbol "-" then return .unary .negate (← term)
  let word ← expect Token.isIdentifier
  let named : Expression := .column word.value word.quoting
  return match named.namedTruth? with
    | some b => .truth b
    | none => .literal (.ofString word.value)

/-- Takes the rule of a computed column and the word that tells how it is kept. -/
def computed (d : Definition) : Reader Definition := do
  let (e, _) ← parenthesized
  let storage ← takeIf fun t => t.isTypePart && t.kind != .string
  orNote d (d.setComputed e storage)

/-- Takes a constraint of the last column, if one follows.  `reread` tells that the definition was
    accepted before. -/
def columnConstraint (reread : Bool) (d : Definition) : Reader (Option Definition) := do
  if ← takeWord "constraint" then
    -- The label is taken by itself, and names the constraint that is read next.
    let label ← nameToken
    return some { d with label := some label.value }
  if ← takeWord "default" then
    let e ← defaultValue
    return some (← orNote d (d.setDefault e))
  if ← takeWord "null" then
    let _ ← conflict
    return some d
  if ← takeWord "not" then
    -- The word may also be about the time at which a reference is checked.
    if ← atWord ["deferrable"] then
      deferral
      return some d
    expectWord "null"
    return some (d.setNotNull (← conflict))
  if ← takeWord "primary" then
    expectWord "key"
    let order ← descending
    let onConflict ← conflict
    let counting ← takeWord "autoincrement"
    return some (← orNote d (d.setKey none order onConflict counting))
  if ← takeWord "unique" then
    let onConflict ← conflict
    return some (← orNote d (d.addUnique none onConflict))
  if ← takeWord "check" then
    let (rule, source) ← parenthesized
    return some (d.addCheck rule source)
  if ← takeWord "references" then
    let target ← foreignTarget reread
    referenceClauses
    return some (← orNote d (d.checkTarget target))
  if ← atWord ["deferrable"] then
    deferral
    return some d
  if ← takeWord "collate" then
    let collation ← expect Token.isTypePart
    return some (← orNote d (d.setCollation collation.value))
  if ← takeWord "generated" then
    expectWord "always"
    expectWord "as"
    return some (← d.computed)
  if ← takeWord "as" then return some (← d.computed)
  return none

def column (reread : Bool) (d : Definition) : Reader Definition := do
  let (label, type) ← asOne do return (← nameToken, ← typeTokens)
  let typeText := if type.isEmpty then none else typeText? (Token.sourceOf type)
  let d ← orNote d (d.addColumn label.value typeText)
  deepen
  repeated (fun d => intoLast (columnConstraint reread d)) d

/-! ## Constraints of a table -/

def constraintWords : List String := ["constraint", "primary", "unique", "check", "foreign"]

def tableConstraint (reread : Bool) (d : Definition) : Reader (Option Definition) := do
  if ← takeWord "constraint" then
    let label ← nameToken
    return some { d with label := some label.value }
  if ← takeWord "primary" then
    expectWord "key"
    let (parts, counting) ← keyParts "autoincrement"
    let onConflict ← conflict
    return some (← orNote d (d.setKey (some parts) false onConflict counting))
  if ← takeWord "unique" then
    let (parts, _) ← keyParts ""
    let onConflict ← conflict
    return some (← orNote d (d.addUnique (some parts) onConflict))
  if ← takeWord "check" then
    let (rule, source) ← parenthesized
    let _ ← conflict
    return some (d.addCheck rule source)
  if ← takeWord "foreign" then
    expectWord "key"
    let columns ← foreignColumns reread
    expectWord "references"
    let target ← foreignTarget reread
    referenceClauses
    if ← takeWord "not" then deferral
    else if ← atWord ["deferrable"] then deferral
    return some (← orNote d (d.checkForeignKey columns target))
  return none

/-- Takes a further constraint, after a comma or right after the one before, if one follows. -/
def nextConstraint (reread : Bool) (d : Definition) : Reader (Option Definition) := intoLast do
  if ← takeSymbol "," then
    match ← tableConstraint reread { d with label := none } with
    | some d => return some d
    | none => unexpected
  else
    deepen
    tableConstraint reread d

/-! ## Whole definitions -/

def tableOption (options : TableOptions) : Reader TableOptions := do
  if ← takeWord "without" then
    let given ← nameToken
    if given.lowered == "rowid" then return { options with keyless := true }
    note (.optionUnknown given.source)
    return options
  let given ← nameToken
  if given.lowered == "strict" then return { options with strict := true }
  note (.optionUnknown given.source)
  return options

/-- Takes the options of a table.  A comma may stand before the first one. -/
def tableOptions : Reader TableOptions := do
  let none : TableOptions := ⟨false, false⟩
  let first ← asOne (if (← peek).isName then tableOption none else pure none)
  repeated (fun options => intoLast do
    if ← takeSymbol "," then some <$> tableOption options else return Option.none) first

/-- The state of reading the columns of a table: what was said, and the tokens that were left where
    the columns ended. -/
structure Columns where
  definition : Definition
  rest : Option (List Token)

/-- Takes a further column or the first constraint, after a comma, if one follows. -/
def nextColumn (reread : Bool) (c : Columns) : Reader (Option Columns) := do
  let rest := (← get).tokens
  if c.rest.isSome || !(← peek).isSymbol "," then return none
  -- A word that starts a constraint ends the columns for good.
  if (rest[1]?).any fun t => constraintWords.any t.isWord then
    skip
    match ← asOne (tableConstraint reread c.definition) with
    | some definition => return some ⟨definition, some rest⟩
    | none => unexpected
  else intoLast do
    skip
    return some ⟨← column reread c.definition, none⟩

/-- Takes the columns and the constraints of a table, and tells which tokens were left where the
    columns ended. -/
def body (reread : Bool) (d : Definition) : Reader (Definition × List Token) := do
  let first ← asOne (column reread d)
  let columns ← repeated (nextColumn reread) ⟨first, none⟩
  match columns.rest with
  | some rest => return (← repeated (nextConstraint reread) columns.definition, rest)
  | none => return (columns.definition, (← get).tokens)

end Definition

end Accrete
