import Accrete.Database.Reader

/-!
# Reading queries

Queries stand in expressions, where none of them is allowed.  All that matters is where one ends
and whether it is understood.

* `Reader.typeTokens`  -- takes a type
* `Query.reader`       -- takes a query, given how expressions are taken
* `Query.window`       -- takes the rows that a function of a window looks at
-/

namespace Accrete

namespace Reader

def signedNumber : Reader Unit := asOne do
  let _ ← takeIf fun t => t.isSymbol "+" || t.isSymbol "-"
  let _ ← expect fun t => t.kind == .integer || t.kind == .float

/-- Takes a type: words, and maybe one or two numbers in parentheses. -/
def typeTokens : Reader (List Token) := asOne do
  let (_, tokens) ← spanned do
    if let some _ ← asOne (takeIf Token.isTypePart) then
      repeated (fun _ => intoLast (takeIf Token.isTypePart)) Token.finish *> pure ()
      if ← takeSymbol "(" then
        signedNumber
        if ← takeSymbol "," then signedNumber
        expectSymbol ")"
  return tokens

/-- Takes a part if the next token is one of several keywords; otherwise the part is empty. -/
def clause (words : List String) (r : Reader Unit) : Reader Unit := do
  if ← atWord words then asOne r else deepen

/-- Whether a token is a given symbol, counted from the next one. -/
def symbolAhead (place : Nat) (symbol : String) : Reader Bool := do
  return ((← get).tokens[place]?).any (·.isSymbol symbol)

/-- Whether a token may be a name, counted from the next one. -/
def nameAhead (place : Nat) : Reader Bool := do
  return ((← get).tokens[place]?).any Token.isName

end Reader

namespace Query

open Reader

/-- How the parts of a query are taken: the expressions and the queries in it. -/
structure Parts where
  expression : Reader Unit
  query : Reader Unit

/-- The words that start a query. -/
def firstWords : List String := ["select", "values", "with"]

def expressions (p : Parts) : Reader Unit := asOne (discard (commaSeparated p.expression))

/-- Takes expressions in parentheses, if there are any. -/
def arguments (p : Parts) : Reader Unit := do
  expectSymbol "("
  if (← peek).isSymbol ")" then deepen else expressions p
  expectSymbol ")"

/-- Takes the name of a table, maybe after that of its schema. -/
def tableName : Reader Unit := do
  discard nameToken
  if (← peek).isSymbol "." then
    asOne do
      skip
      discard nameToken
  else deepen

/-- Takes names in parentheses. -/
def names : Reader Unit := do
  expectSymbol "("
  let _ ← asOne (commaSeparated nameToken)
  expectSymbol ")"

/-! ## Order and windows -/

/-- Takes an expression with the direction in which rows are sorted by it. -/
def sorted (p : Parts) : Reader Unit := do
  p.expression
  if !(← takeWord "asc") then discard (takeWord "desc")
  if ← takeWord "nulls" then
    if !(← takeWord "first") then expectWord "last"

def order (p : Parts) : Reader Unit :=
  clause ["order"] do
    skip
    expectWord "by"
    let _ ← asOne (commaSeparated (sorted p))

/-- Where a window starts or ends. -/
inductive Bound where
  | unboundedBefore | before | current | after | unboundedAfter
deriving DecidableEq

/-- Takes an end of a window. -/
def bound (p : Parts) : Reader Bound := asOne do
  if (← atWord ["unbounded"]) && !(← symbolAhead 1 "(") then
    skip
    if ← takeWord "preceding" then return .unboundedBefore
    expectWord "following"
    return .unboundedAfter
  if (← atWord ["current"]) && !(← symbolAhead 1 "(") then
    skip
    expectWord "row"
    return .current
  p.expression
  if ← takeWord "preceding" then return .before
  expectWord "following"
  return .after

/-- Notes that a window ends before it starts. -/
def checkBounds (first last : Bound) : Reader Unit := do
  let backward := match first, last with
    | .current, .before => true
    | .after, .before | .after, .current => true
    | _, _ => false
  if backward then note .windowFrame

/-- Takes how far a window reaches. -/
def frame (p : Parts) : Reader Unit :=
  clause ["range", "rows", "groups"] do
    skip
    if ← takeWord "between" then
      let first ← bound p
      if first == .unboundedAfter then unexpected
      expectWord "and"
      let last ← bound p
      if last == .unboundedBefore then unexpected
      checkBounds first last
    else
      let first ← bound p
      if first == .unboundedAfter || first == .after then unexpected
    if ← takeWord "exclude" then
      if ← takeWord "no" then expectWord "others"
      else if ← takeWord "current" then expectWord "row"
      else if !(← takeWord "group") then expectWord "ties"

def windowWords : List String := ["partition", "order", "range", "rows", "groups"]

/-- Takes the rows that a function of a window looks at. -/
def window (p : Parts) : Reader Unit := asOne do
  if !(← atWord windowWords) && !(← peek).isSymbol ")" then discard nameToken
  if ← takeWord "partition" then
    expectWord "by"
    expressions p
  order p
  frame p

/-! ## Tables -/

/-- Takes what two tables have in common, or nothing. -/
def joinCondition (p : Parts) : Reader Unit := do
  if ← atWord ["on"] then
    asOne do
      skip
      p.expression
  else if ← atWord ["using"] then
    asOne do
      skip
      names
  else deepen

/-- Takes another name, if one follows. -/
def otherName : Reader Unit := do
  if ← atWord ["as"] then
    asOne do
      skip
      discard nameToken
  else if (← peek).isTypePart then skip
  else deepen

/-- Takes the index by which a table is read, if it is stated. -/
def indexChoice : Reader Unit := do
  if ← takeWord "indexed" then
    expectWord "by"
    discard nameToken
  else if ← takeWord "not" then expectWord "indexed"

/-- Takes what joins two tables, if they are joined. -/
def join : Reader Bool := do
  if ← takeSymbol "," then return true
  if ← takeWord "join" then return true
  let joins ← asOne (takeIf fun t => Token.joinWords.any t.isWord && !t.isWord "indexed")
  if joins.isNone then return false
  if !(← takeWord "join") then
    discard nameToken
    if !(← takeWord "join") then
      discard nameToken
      expectWord "join"
  return true

/-- Takes a table or a query with its name, given how tables in parentheses are taken. -/
def source (p : Parts) (tables : Reader Unit) : Reader Unit := do
  if ← takeSymbol "(" then
    if ← atWord firstWords then p.query else tables
    expectSymbol ")"
    otherName
  else
    tableName
    if (← peek).isSymbol "(" then arguments p
    otherName
    indexChoice
  joinCondition p

/-- Takes tables that are joined.  `limit` bounds how they are nested. -/
def tables (p : Parts) : Nat → Reader Unit
  | 0 => unexpected
  | limit + 1 => asOne do
    asOne do
      deepen
      source p (tables p limit)
    repeated (fun _ => intoLast do
      if ← join then
        source p (tables p limit)
        return some ()
      return none) ()

/-! ## Whole queries -/

/-- Takes a column of a query. -/
def resultColumn (p : Parts) : Reader Unit := do
  deepen
  if ← takeSymbol "*" then return
  if (← nameAhead 0) && (← symbolAhead 1 ".") && (← symbolAhead 2 "*") then
    skip
    skip
    skip
  else
    p.expression
    deepen
    otherName

def values (p : Parts) : Reader Unit := asOne do
  asOne do
    expectWord "values"
    expectSymbol "("
    expressions p
    expectSymbol ")"
  repeated (fun _ => intoLast do
    if ← takeSymbol "," then
      expectSymbol "("
      expressions p
      expectSymbol ")"
      return some ()
    return none) ()

def namedWindows (p : Parts) : Reader Unit := do
  if (← atWord ["window"]) && (← nameAhead 1) then
    asOne do
      skip
      let _ ← commaSeparated do
        discard nameToken
        expectWord "as"
        expectSymbol "("
        window p
        expectSymbol ")"

/-- Takes a query that is not made of others. -/
def simple (p : Parts) : Reader Unit := asOne do
  if ← atWord ["values"] then return ← values p
  expectWord "select"
  if ← atWord ["distinct", "all"] then skip else deepen
  asOne do
    asOne do
      deepen
      resultColumn p
    repeated (fun _ => intoLast do
      if ← takeSymbol "," then
        resultColumn p
        return some ()
      return none) ()
  clause ["from"] do
    skip
    tables p ((← remaining) + 1)
  clause ["where"] do
    skip
    p.expression
  clause ["group"] do
    skip
    expectWord "by"
    expressions p
  clause ["having"] do
    skip
    p.expression
  namedWindows p
  order p
  clause ["limit"] do
    skip
    p.expression
    if ← takeWord "offset" then p.expression
    else if ← takeSymbol "," then p.expression

def namedQuery (p : Parts) : Reader Unit := do
  discard nameToken
  if (← peek).isSymbol "(" then asOne names else deepen
  expectWord "as"
  let _ ← takeWord "not"
  let _ ← takeWord "materialized"
  expectSymbol "("
  p.query
  expectSymbol ")"

/-- Takes what combines two queries, if they are combined. -/
def combines : Reader Bool := do
  if ← takeWord "union" then
    discard (takeWord "all")
    return true
  if ← takeWord "except" then return true
  takeWord "intersect"

def reader (p : Parts) : Reader Unit := asOne do
  if ← takeWord "with" then
    let _ ← takeWord "recursive"
    let _ ← asOne (commaSeparated (namedQuery p))
  simple p
  repeated (fun _ => intoLast do
    if ← combines then
      simple p
      return some ()
    return none) ()

end Query

end Accrete
