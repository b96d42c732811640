import Accrete.Database.Refusal
import Accrete.Database.Token

/-!
# Reading statements

Readers take tokens from the front of a statement.

* `Reader`            -- a task that takes tokens or refuses the statement
* `Reader.peek`       -- the next token
* `Reader.unexpected` -- refuses the next token
* `Reader.note`       -- a refusal that comes up once the next token is found to fit
* `Reader.asOne`, `Reader.intoLast` -- a task of which the tokens become one part, or join the last
* `Reader.spanned`    -- a task with the tokens that it takes

What is wrong with the meaning of a part is found when the token after it is read, and a token that
does not fit goes first.  Tokens and parts that are not put together yet are open; only so many are
at a time.
-/

namespace Accrete

/-- What is left to read, the refusal that comes up with the next token that fits, and how many
    tokens and parts are open. -/
structure Reading where
  tokens : List Token
  noted : Option Refusal
  depth : Nat

/-- A task that takes tokens or refuses the statement. -/
abbrev Reader := StateT Reading (Except Refusal)

/-- The token at the end of a text. -/
def Token.finish : Token := ⟨.finish, [], []⟩

namespace Reader

variable {α : Type}

def run (r : Reader α) (text : String) : Except Refusal α :=
  (StateT.run r ⟨Token.scan text, none, 0⟩).map Prod.fst

def peek : Reader Token := do
  match (← get).tokens with
  | [] => return Token.finish
  | t :: _ =>
    if t.kind == .illegal then throw (.unrecognized t.source)
    return t

/-- The greatest number of tokens and parts that are open at a time. -/
def depthLimit : Nat := 99

/-- A further part is open, which may be an empty one. -/
def deepen : Reader Unit := do
  let s ← get
  if depthLimit ≤ s.depth then throw .tooNested
  set { s with depth := s.depth + 1 }

/-- Takes the next token, which fits.  What was noted comes up now. -/
def skip : Reader Unit := do
  deepen
  let s ← get
  if let some refusal := s.noted then throw refusal
  set { s with tokens := s.tokens.drop 1, noted := none }

/-- A task after which as many parts are open as a function tells. -/
def closing (depth : Nat → Nat) (r : Reader α) : Reader α := do
  let n := (← get).depth
  let a ← r
  modify fun s => { s with depth := depth n }
  return a

/-- A task of which all tokens become one part. -/
def asOne (r : Reader α) : Reader α := closing (· + 1) r

/-- A task of which all tokens join the part before them. -/
def intoLast (r : Reader α) : Reader α := closing id r

/-- Refuses the next token. -/
def unexpected : Reader α := do
  let t ← peek
  throw (if t.kind == .finish then .incomplete else .notUnderstood t.source)

def note (refusal : Refusal) : Reader Unit := modify fun s => { s with noted := some refusal }

/-- Takes back what was noted. -/
def takeNote : Reader (Option Refusal) := do
  let s ← get
  set { s with noted := none }
  return s.noted

/-- The result of a step, or what was there before it, with a note of why it is refused. -/
def orNote (before : α) (x : Except Refusal α) : Reader α := do
  match x with
  | .ok a => return a
  | .error refusal =>
    note refusal
    return before

/-- Takes the next token if it passes a test. -/
def takeIf (test : Token → Bool) : Reader (Option Token) := do
  let t ← peek
  if test t then
    skip
    return some t
  return none

/-- Takes the next token, which has to pass a test. -/
def expect (test : Token → Bool) : Reader Token := do
  match ← takeIf test with
  | some t => return t
  | none => unexpected

def takeWord (word : String) : Reader Bool := Option.isSome <$> takeIf (·.isWord word)

def takeSymbol (symbol : String) : Reader Bool := Option.isSome <$> takeIf (·.isSymbol symbol)

def expectWord (word : String) : Reader Unit := discard (expect (·.isWord word))

def expectSymbol (symbol : String) : Reader Unit := discard (expect (·.isSymbol symbol))

def nameToken : Reader Token := expect Token.isName

/-- Whether the next token is one of several keywords. -/
def atWord (words : List String) : Reader Bool := do
  let t ← peek
  return words.any t.isWord

/-- Repeats a step until it has nothing to do, a bounded number of times. -/
def repeatWithin (step : α → Reader (Option α)) : Nat → α → Reader α
  | 0, a => return a
  | bound + 1, a => do
    match ← step a with
    | none => return a
    | some b => repeatWithin step bound b

def remaining : Reader Nat := return (← get).tokens.length

/-- Repeats a step that takes tokens until it has nothing to do. -/
def repeated (step : α → Reader (Option α)) (a : α) : Reader α := do
  repeatWithin step ((← remaining) + 1) a

def takenSince (start : List Token) : Reader (List Token) := do
  return start.take (start.length - (← remaining))

/-- A task with the tokens that it takes. -/
def spanned (r : Reader α) : Reader (α × List Token) := do
  let start := (← get).tokens
  let a ← r
  return (a, ← takenSince start)

def commaSeparated (item : Reader α) : Reader (List α) := do
  let first ← asOne item
  let items ← repeated (fun items => intoLast do
    if ← takeSymbol "," then return some (items ++ [← item])
    return none) [first]
  return items

/-- Takes the end of a statement, if it is reached, and tells whether something follows it. -/
def finish : Reader Bool := do
  if ← takeSymbol ";" then
    return !(← get).tokens.all (·.kind == .finish)
  let _ ← expect (·.kind == .finish)
  return false

end Reader

end Accrete
