import Accrete.Database.Expression
import Accrete.Database.Query.Reader

/-!
# Reading expressions

How strongly operators bind, and the expressions that tokens write.

* `Infix`               -- what an operator between two expressions makes of them
* `Expression.infix?`   -- the operator between two arguments that a token writes
* `Expression.reader`   -- takes an expression

Operators bind the more strongly the greater their power; those of equal power group to the left.
-/

namespace Accrete

namespace Token

/-- Whether a token stands for the time of evaluation. -/
def isMoment (t : Token) : Bool :=
  ["current_date", "current_time", "current_timestamp"].any t.isWord

/-- How the name is written that a token stands for. -/
def quoting (t : Token) : Quoting :=
  if t.kind == .word then .plain
  else if t.text.head? == some '"' then .doubleQuoted
  else .marked

/-- The bytes that pairs of hexadecimal digits write. -/
def hexBytes : List Char → Bytes
  | a :: b :: rest =>
    UInt8.ofNat (Expression.hexValue (String.ofList ['0', 'x', a, b])) :: hexBytes rest
  | _ => []

/-- Whether a number is written in hexadecimal digits. -/
def isHexadecimal (t : Token) : Bool :=
  match t.text with
  | '0' :: x :: _ => x == 'x' || x == 'X'
  | _ => false

def literal? (t : Token) : Option Expression :=
  match t.kind with
  | .integer =>
    if t.isHexadecimal then some (.hexadecimal t.source)
    else some (.integer (Bytes.digitsFrom 0 (Bytes.ofString t.source)))
  | .float => some (.literal (.number (NumberText.read (Bytes.ofString t.source)).1))
  | .string => some (.literal (.ofString t.value))
  | .blob => some (.literal (.blob (hexBytes (t.text.drop 2).dropLast)))
  | .word =>
    if t.isWord "null" then some (.literal .null)
    else if t.isMoment then some (.call t.source [] .plain)
    else none
  | _ => none

end Token

/-- What an operator between two expressions makes of them. -/
inductive Infix where
  | binary (op : BinaryOperator)
  | compare (op : Comparison)
  /-- A function that is written between its arguments. -/
  | call (name : String)

namespace Expression

/-! ## Operators -/

def testPower : Nat := 4

def collatePower : Nat := 11

def signPower : Nat := 12

/-- The operators that are written by symbols between their arguments, with their powers. -/
def symbolOperators : List (String × Nat × Infix) :=
  [("=", 4, .compare .equal), ("==", 4, .compare .equal), ("<>", 4, .compare .notEqual),
   ("!=", 4, .compare .notEqual), ("<", 5, .compare .less), ("<=", 5, .compare .lessEqual),
   (">", 5, .compare .greater), (">=", 5, .compare .greaterEqual), ("&", 7, .binary .bitAnd),
   ("|", 7, .binary .bitOr), ("<<", 7, .binary .shiftLeft), (">>", 7, .binary .shiftRight),
   ("+", 8, .binary .add), ("-", 8, .binary .subtract), ("*", 9, .binary .multiply),
   ("/", 9, .binary .divide), ("%", 9, .binary .remainder), ("||", 10, .binary .concat),
   ("->", 10, .call "->"), ("->>", 10, .call "->>")]

/-- The operator between two arguments that a token writes, with its power. -/
def infix? (t : Token) : Option (Nat × Infix) :=
  match t.kind with
  | .symbol => (symbolOperators.find? fun o => t.isSymbol o.1).map Prod.snd
  | .word =>
    if t.isWord "or" then some (1, .binary .or)
    else if t.isWord "and" then some (2, .binary .and)
    else none
  | _ => none

/-- What an operator makes of two expressions.  A conjunction with a part that is plainly false is
    false. -/
def combined : Infix → Expression → Expression → Expression
  | .binary op, a, b =>
    let isFalse (e : Expression) : Bool := e.plainTruth? (fun _ => true) == some false
    if op = .and && (isFalse a || isFalse b) then .integer 0 else .binary op a b
  | .compare op, a, b => .compare op a b
  | .call name, a, b => .call name [a, b] .plain

def sign? (t : Token) : Option UnaryOperator :=
  if t.isSymbol "-" then some .negate
  else if t.isSymbol "+" then some .plus
  else if t.isSymbol "~" then some .bitNot
  else none

def orNot (negated : Bool) (e : Expression) : Expression :=
  if negated then .unary .not e else e

/-- A test whether two expressions are the same, null among them. -/
def sameness (negated : Bool) (a b : Expression) : Expression :=
  match b with
  | .literal .null => .unary (if negated then .notNull else .isNull) a
  | b => .compare (if negated then .isNot else .is) a b

/-! ## Limits -/

open Reader

def heightLimit : Nat := 1000

/-- An expression that is not too high. -/
def limited (e : Expression) : Reader Expression := do
  if heightLimit < e.height then note .tooDeep
  return e

def argumentLimit : Nat := 127

/-- A call of a function with not too many arguments. -/
def callOf (word : Token) (args : List Expression) (tail : CallTail) : Reader Expression := do
  if argumentLimit < args.length then note (.tooManyArguments word.source)
  limited (.call word.value args tail)

def parameterLimit : Nat := 250000

def checkParameter (t : Token) : Reader Unit := do
  match t.text with
  | '?' :: digits =>
    let n := Bytes.digitsFrom 0 (Bytes.ofString (String.ofList digits))
    if !digits.isEmpty && (n = 0 || parameterLimit < n) then note .parameterNumber
  | '#' :: digit :: _ => if digit.isDigit then note (.notUnderstood t.source)
  | _ => return

/-- A search for an expression among others.  There is none among nothing, and only one has to be
    compared with a single one that is the same in every row. -/
def memberOf (negated : Bool) (e : Expression) (items : List Expression) : Reader Expression :=
  let isRow := 1 < e.rowSize
  match items with
  | [] => return .truth negated
  | [.subquery] => return .subquery
  | [item] =>
    if item.isFixed (fun _ _ => false) && !isRow then
      limited (orNot negated (.compare .equal e (.unary .plus (namedTruth item))))
    else amongRows items
  | items => amongRows items
where
  /-- A word for a truth that was taken for one. -/
  namedTruth (item : Expression) : Expression :=
    match item.namedTruth? with
    | some b => .truth b
    | none => item
  /-- A search for a row or for a single value. -/
  amongRows (items : List Expression) : Reader Expression := do
    if 1 < e.rowSize then
      if let some item := items.find? fun item => item.rowSize != e.rowSize then
        note (.elementSize item.rowSize e.rowSize)
      return .subquery
    limited (orNot negated (.member e items))

/-! ## Reading -/

/-- Takes `distinct` or its opposite before arguments, and tells which. -/
def distinctly : Reader Bool := do
  if ← takeWord "distinct" then return true
  if !(← takeWord "all") then deepen
  return false

/-- Takes a name, maybe after those of its table and of the schema of that. -/
def readNames : Reader Expression := do
  let first ← expect fun t => t.isName
  if !(← takeSymbol ".") then return .column first.value first.quoting
  let second ← nameToken
  if !(← takeSymbol ".") then return .qualified [first.value] second.value
  return .qualified [first.value, second.value] (← nameToken).value

/-- Takes a call for a stop, after the first word. -/
def readRaise : Reader Expression := do
  expectSymbol "("
  if !(← takeWord "ignore") then
    let _ ← asOne (expect fun t => ["rollback", "abort", "fail"].any t.isWord)
    expectSymbol ","
    let _ ← nameToken
  expectSymbol ")"
  return .raise

mutual

/-- Takes an expression whose outermost operator has at least a given power. -/
def readFrom : Nat → Nat → Reader Expression
  | 0, _ => unexpected
  | bound + 1, least => do
    let first ← asOne (readOperand bound)
    readRest bound least first

/-- Takes what follows an expression. -/
def readRest : Nat → Nat → Expression → Reader Expression
  | 0, _, left => return left
  | bound + 1, least, left => do
    let t ← peek
    match infix? t with
    | some (power, op) =>
      if power < least then return left
      let e ← intoLast do
        skip
        -- Operators of one power go to the left, so the right side has to bind more strongly.
        let right ← readFrom bound (power + 1)
        limited (combined op left right)
      readRest bound least e
    | none =>
      if t.isWord "collate" && least ≤ collatePower then
        let collation ← intoLast do
          skip
          expect Token.isTypePart
        readRest bound least (.unary (.collate collation.value) left)
      else if least ≤ testPower then
        match ← intoLast (readTest bound left) with
        | some e => readRest bound least e
        | none => return left
      else return left

def readTest : Nat → Expression → Reader (Option Expression)
  | 0, _ => return none
  | bound + 1, left => do
    if ← takeWord "isnull" then return some (← limited (.unary .isNull left))
    if ← takeWord "notnull" then return some (← limited (.unary .notNull left))
    if ← takeWord "is" then
      let negated ← takeWord "not"
      let distinct ← takeWord "distinct"
      if distinct then expectWord "from"
      let right ← readFrom bound (testPower + 1)
      return some (← limited (sameness (negated != distinct) left right))
    -- A negation and its test become one part, so the count goes back to before both.
    let depth := (← get).depth
    let negated ← takeWord "not"
    if negated then
      if ← takeWord "null" then return some (← limited (.unary .notNull left))
    if ← takeWord "between" then
      modify fun s => { s with depth := depth + 1 }
      let low ← readFrom bound (testPower - 1)
      if ← atWord ["or"] then
        -- All that follows belongs to the lower limit then, so the `and` is missing.
        let _ ← readRest bound 1 low
        unexpected
      expectWord "and"
      let high ← readFrom bound (testPower + 1)
      return some (← limited (orNot negated (.between left low high)))
    if ← takeWord "in" then
      modify fun s => { s with depth := depth + 1 }
      return some (← readMembers bound negated left)
    match ← takeIf fun t => ["like", "glob", "regexp", "match"].any t.isWord with
    | some word =>
      modify fun s => { s with depth := depth + 1 }
      let pattern ← readFrom bound (testPower + 1)
      let escape ← if ← takeWord "escape" then
          List.singleton <$> readFrom bound (testPower + 2)
        else pure []
      return some (← limited (orNot negated (.call word.source ([pattern, left] ++ escape) .plain)))
    | none => if negated then unexpected else return none

def readMembers : Nat → Bool → Expression → Reader Expression
  | 0, _, _ => unexpected
  | bound + 1, negated, left => do
    if ← takeSymbol "(" then
      if ← atWord Query.firstWords then
        readQuery bound
        expectSymbol ")"
        return .subquery
      let items ← readList bound
      expectSymbol ")"
      memberOf negated left items
    else
      Query.tableName
      if (← peek).isSymbol "(" then
        skip
        discard (readList bound)
        expectSymbol ")"
      else deepen
      return .subquery

/-- Takes expressions that are separated by commas, if there are any before a parenthesis. -/
def readList : Nat → Reader (List Expression)
  | 0 => unexpected
  | bound + 1 => asOne do
    if (← peek).isSymbol ")" then
      deepen
      return []
    let first ← readFrom bound 0
    readMore bound [first]

/-- Takes further expressions, each after a comma. -/
def readMore : Nat → List Expression → Reader (List Expression)
  | 0, _ => unexpected
  | bound + 1, items => do
    let next? ← intoLast do
      if ← takeSymbol "," then some <$> readFrom bound 0 else return none
    match next? with
    | some e => readMore bound (items ++ [e])
    | none => return items

/-- Takes a pair of a condition and a value. -/
def readChoice : Nat → Reader (List Expression)
  | 0 => unexpected
  | bound + 1 => do
    expectWord "when"
    let condition ← readFrom bound 0
    expectWord "then"
    return [condition, ← readFrom bound 0]

/-- Takes further pairs of a condition and a value. -/
def readChoices : Nat → List Expression → Reader (List Expression)
  | 0, _ => unexpected
  | bound + 1, items => do
    if ← atWord ["when"] then
      let more ← intoLast (readChoice bound)
      readChoices bound (items ++ more)
    else return items

/-- Takes a choice after its first word. -/
def readCase : Nat → Reader Expression
  | 0 => unexpected
  | bound + 1 => do
    let subject ← if ← atWord ["when"] then
        deepen
        pure none
      else some <$> readFrom bound 0
    let first ← asOne (readChoice bound)
    let choices ← readChoices bound first
    let otherwise ← asOne do
      if ← takeWord "else" then List.singleton <$> readFrom bound 0
      else
        deepen
        pure []
    expectWord "end"
    limited (match subject with
      | some e => .choiceOf e (choices ++ otherwise)
      | none => .choice (choices ++ otherwise))

/-- Takes what is cast to a type, after the first word. -/
def readCast : Nat → Reader Expression
  | 0 => unexpected
  | bound + 1 => do
    expectSymbol "("
    let e ← readFrom bound 0
    expectWord "as"
    let type ← typeTokens
    expectSymbol ")"
    return .unary (.cast (String.ofList (Token.dequoted (Token.sourceOf type)))) e

/-- Takes what stands after an opening parenthesis. -/
def readParenthesis : Nat → Reader Expression
  | 0 => unexpected
  | bound + 1 => do
    if ← atWord Query.firstWords then
      readQuery bound
      expectSymbol ")"
      return .subquery
    let e ← readFrom bound 0
    let items ← readMore bound [e]
    expectSymbol ")"
    return if items.length = 1 then e else .row items

def readQuery : Nat → Reader Unit
  | 0 => unexpected
  | bound + 1 => Query.reader ⟨discard (readFrom bound 0), readQuery bound⟩

/-- Takes what may follow the arguments of a function. -/
def readTail : Nat → Bool → Reader CallTail
  | 0, _ => unexpected
  | bound + 1, distinct => asOne do
    let filtered := (← atWord ["filter"]) && (← symbolAhead 1 "(")
    if filtered then
      asOne do
        skip
        skip
        expectWord "where"
        let _ ← readFrom bound 0
        expectSymbol ")"
    if (← atWord ["over"]) && ((← symbolAhead 1 "(") || (← nameAhead 1)) then
      skip
      if ← takeSymbol "(" then
        Query.window ⟨discard (readFrom bound 0), readQuery bound⟩
        expectSymbol ")"
      else discard nameToken
      if distinct then note .distinctWindow
      return .windowed
    return if filtered then .filtered else .plain

/-- Takes a call of a function after its name. -/
def readCall : Nat → Token → Reader Expression
  | 0, _ => unexpected
  | bound + 1, word => do
    expectSymbol "("
    if (← peek).isSymbol "*" then
      skip
      expectSymbol ")"
      callOf word [] (← readTail bound false)
    else
      let distinct ← distinctly
      let args ← readList bound
      expectSymbol ")"
      callOf word args (← readTail bound distinct)

def readOperand : Nat → Reader Expression
  | 0 => unexpected
  | bound + 1 => do
    let t ← peek
    if let some op := sign? t then
      skip
      limited (.unary op (← readFrom bound signPower))
    else if ← takeWord "not" then
      limited (.unary .not (← readFrom bound (testPower - 1)))
    -- A text before a point is the name of a table.
    else if t.kind == .string && (← symbolAhead 1 ".") then readNames
    else if let some e := t.literal? then
      skip
      return e
    else if t.kind == .variable then
      skip
      checkParameter t
      return .parameter
    else if ← takeWord "exists" then
      expectSymbol "("
      if !(← atWord Query.firstWords) then unexpected
      readQuery bound
      expectSymbol ")"
      return .subquery
    else if ← takeWord "case" then readCase bound
    else if ← takeWord "cast" then readCast bound
    else if ← takeWord "raise" then readRaise
    else if ← takeSymbol "(" then readParenthesis bound
    else if t.isIdentifier && (← symbolAhead 1 "(") then
      skip
      readCall bound t
    else readNames

end

def reader : Reader Expression := do readFrom (6 * (← remaining) + 6) 0

end Expression

end Accrete
