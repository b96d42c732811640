import Accrete.Text.Case

/-!
# Tokens of SQL

How SQLite cuts the text of a statement.

* `Token`         -- a token with the blanks and comments before it
* `Token.scan`    -- the tokens of a text, the last of them its end
* `Token.value`   -- the name or text that a token stands for
* `Token.isWord`  -- whether a token is a given keyword

Every character of a text is in one token or in the blanks before one, so that the source of a
part of a statement can be told from its tokens.
-/

namespace Accrete

/-- What a token is. -/
inductive TokenKind where
  /-- A keyword or a name without marks. -/
  | word
  /-- A name between marks. -/
  | quotedName
  /-- A text between single quotes. -/
  | string
  | blob
  | integer
  | float
  | variable
  | symbol
  | illegal
  /-- The end of the text. -/
  | finish
deriving DecidableEq, Repr

/-- A token as it is written, with the blanks and comments before it. -/
structure Token where
  kind : TokenKind
  text : List Char
  before : List Char
deriving DecidableEq, Repr

namespace Token

/-! ## Character classes -/

/-- Whether a character may go on a run of blanks. -/
def isSpace (c : Char) : Bool := (9 ≤ c.toNat && c.toNat ≤ 13) || c == ' '

def startsSpace (c : Char) : Bool := isSpace c && c.toNat != 11

def isWordChar (c : Char) : Bool := c.isAlphanum || c == '_' || c == '$' || 0x80 ≤ c.toNat

def startsWord (c : Char) : Bool := c.isAlpha || c == '_' || 0x80 ≤ c.toNat

def isHexDigit (c : Char) : Bool :=
  c.isDigit || ('a' ≤ c && c ≤ 'f') || ('A' ≤ c && c ≤ 'F')

/-- How many characters at the start of a text are of a class. -/
def runLength (p : Char → Bool) (cs : List Char) : Nat := (cs.takeWhile p).length

/-! ## Blanks and comments -/

/-- How many characters end a comment, its closing mark included; an open comment goes on to the
    end of the text. -/
def commentLength : List Char → Nat
  | '*' :: '/' :: _ => 2
  | _ :: rest => commentLength rest + 1
  | [] => 0

/-- How many characters of blanks or of a comment a text starts with. -/
def blankLength : List Char → Nat
  | '-' :: '-' :: rest => runLength (· != '\n') rest + 2
  | '/' :: '*' :: c :: rest => commentLength (c :: rest) + 2
  | c :: rest =>
    if startsSpace c then runLength isSpace rest + 1 else if c == '\ufeff' then 1 else 0
  | [] => 0

/-! ## Tokens -/

/-- How many characters follow the opening mark of a quoted text, up to the closing mark and
    with it.  A doubled mark stands for itself.  An open text has none. -/
def quotedLength? (mark : Char) : List Char → Option Nat
  | [] => none
  | [c] => if c == mark then some 1 else none
  | c :: d :: rest =>
    if c == mark then
      if d == mark then (quotedLength? mark rest).map (· + 2) else some 1
    else (quotedLength? mark (d :: rest)).map (· + 1)

/-- The token between marks of which the first is already read. -/
def quotedToken (kind : TokenKind) (mark : Char) (rest : List Char) : TokenKind × Nat :=
  match quotedLength? mark rest with
  | some n => (kind, n + 1)
  | none => (.illegal, rest.length + 1)

/-- The name in brackets of which the first is already read. -/
def bracketToken (rest : List Char) : TokenKind × Nat :=
  let n := runLength (· != ']') rest
  if n < rest.length then (.quotedName, n + 2) else (.illegal, n + 1)

/-- How many characters of an exponent a text starts with. -/
def exponentLength : List Char → Nat
  | e :: s :: d :: rest =>
    if e != 'e' && e != 'E' then 0
    else if s.isDigit then runLength Char.isDigit (d :: rest) + 2
    else if (s == '+' || s == '-') && d.isDigit then runLength Char.isDigit rest + 3
    else 0
  | [e, s] => if (e == 'e' || e == 'E') && s.isDigit then 2 else 0
  | _ => 0

/-- The number that a text starts with.  Word characters that follow it spoil it. -/
def decimalToken (cs : List Char) : TokenKind × Nat :=
  let whole := runLength Char.isDigit cs
  let rest := cs.drop whole
  let fraction := match rest with
    | '.' :: rest => runLength Char.isDigit rest + 1
    | _ => 0
  let exponent := exponentLength (rest.drop fraction)
  let n := whole + fraction + exponent
  let spoilt := runLength isWordChar (cs.drop n)
  let kind := if fraction == 0 && exponent == 0 then TokenKind.integer else .float
  (if spoilt == 0 then kind else .illegal, n + spoilt)

/-- The number that a text starts with, which may be hexadecimal. -/
def numberToken : List Char → TokenKind × Nat
  | '0' :: x :: d :: rest =>
    if (x == 'x' || x == 'X') && isHexDigit d then (.integer, runLength isHexDigit rest + 3)
    else decimalToken ('0' :: x :: d :: rest)
  | cs => decimalToken cs

/-- The bytes in single quotes of which the first is already read. -/
def blobToken (rest : List Char) : TokenKind × Nat :=
  let n := runLength isHexDigit rest
  if (rest.drop n).head? == some '\'' && n % 2 == 0 then (.blob, n + 3)
  else
    let m := runLength (· != '\'') rest
    (.illegal, if m < rest.length then m + 3 else m + 2)

/-- The variable that follows its mark, given how many characters of its name were read.  Two colons
    may stand in it, and a name in parentheses at its end. -/
def variableFrom (named : Nat) : List Char → TokenKind × Nat
  | ':' :: ':' :: rest =>
    let (kind, n) := variableFrom named rest
    (kind, n + 2)
  | '(' :: rest =>
    if named == 0 then (.illegal, 0)
    else
      let n := runLength (fun c => !isSpace c && c != ')') rest
      if (rest.drop n).head? == some ')' then (.variable, n + 2) else (.illegal, n + 1)
  | c :: rest =>
    if isWordChar c then
      let (kind, n) := variableFrom (named + 1) rest
      (kind, n + 1)
    else (if named == 0 then .illegal else .variable, 0)
  | [] => (if named == 0 then .illegal else .variable, 0)

/-- The variable that follows its mark. -/
def variableToken (rest : List Char) : TokenKind × Nat :=
  let (kind, n) := variableFrom 0 rest
  (kind, n + 1)

def longSymbols : List (List Char) :=
  ["->>", "->", "==", "<=", "<>", "<<", ">=", ">>", "!=", "||"].map String.toList

def shortSymbols : List Char := "()+-*/;,=<>%&~|.".toList

/-- The symbol that a text starts with. -/
def symbolToken (cs : List Char) : TokenKind × Nat :=
  match longSymbols.find? fun symbol => symbol.isPrefixOf cs with
  | some symbol => (.symbol, symbol.length)
  | none => (if cs.head?.any shortSymbols.contains then .symbol else .illegal, 1)

/-- The kind and the length of the token that a text without leading blanks starts with. -/
def lexeme : List Char → TokenKind × Nat
  | [] => (.finish, 0)
  | c :: rest =>
    if c == '\'' then quotedToken .string c rest
    else if c == '"' || c == '\x60' then quotedToken .quotedName c rest
    else if c == '[' then bracketToken rest
    else if c.isDigit || (c == '.' && rest.head?.any Char.isDigit) then numberToken (c :: rest)
    else if c == '?' then (.variable, runLength Char.isDigit rest + 1)
    else if c == '$' || c == '@' || c == '#' || c == ':' then variableToken rest
    else if (c == 'x' || c == 'X') && rest.head? == some '\'' then blobToken (rest.drop 1)
    else if startsWord c then (.word, runLength isWordChar rest + 1)
    else symbolToken (c :: rest)

/-- The tokens of a text, given the blanks that were read before it and a bound on their
    number. -/
def scanFrom (before : List Char) : Nat → List Char → List Token
  | 0, _ => []
  | bound + 1, cs =>
    let blanks := blankLength cs
    if 0 < blanks then scanFrom (before ++ cs.take blanks) bound (cs.drop blanks)
    else
      let (kind, n) := lexeme cs
      let token := ⟨kind, cs.take n, before⟩
      if kind == .finish then [token] else token :: scanFrom [] bound (cs.drop n)

def scan (s : String) : List Token := scanFrom [] (s.toList.length + 1) s.toList

/-! ## Meaning -/

/-- The part of a quoted text before its closing mark; a doubled mark stands for itself. -/
def unquoted (mark : Char) : List Char → List Char
  | [] => []
  | [c] => if c == mark then [] else [c]
  | c :: d :: rest =>
    if c == mark then
      if d == mark then c :: unquoted mark rest else []
    else c :: unquoted mark (d :: rest)

/-- A text without the marks that it starts with; what follows the closing mark is dropped. -/
def dequoted : List Char → List Char
  | [] => []
  | c :: rest =>
    if c == '\'' || c == '"' || c == '\x60' then unquoted c rest
    else if c == '[' then unquoted ']' rest
    else c :: rest

def value (t : Token) : String := String.ofList (dequoted t.text)

def source (t : Token) : String := String.ofList t.text

/-- The letters of a word in lower case. -/
def lowered (t : Token) : String := String.ofList (t.text.map Char.toLower)

/-- Whether a token is a given keyword, in whatever case. -/
def isWord (t : Token) (word : String) : Bool := t.kind == .word && t.lowered == word

def isSymbol (t : Token) (symbol : String) : Bool :=
  t.kind == .symbol && t.text == symbol.toList

/-- Words that are never names. -/
def reservedWords : List String :=
  ["add", "all", "alter", "and", "as", "autoincrement", "between", "case", "check", "collate",
   "commit", "constraint", "create", "default", "deferrable", "delete", "distinct", "drop", "else",
   "escape", "except", "exists", "foreign", "from", "group", "having", "in", "index", "insert",
   "intersect", "into", "is", "isnull", "join", "limit", "not", "nothing", "notnull", "null", "on",
   "or", "order", "primary", "references", "returning", "select", "set", "table", "then", "to",
   "transaction", "union", "unique", "update", "using", "values", "when", "where"]

/-- Words that may be names but no parts of a type. -/
def joinWords : List String :=
  ["cross", "full", "inner", "left", "natural", "outer", "right", "indexed"]

def isPlainWord (t : Token) : Bool := t.kind == .word && !reservedWords.contains t.lowered

def isName (t : Token) : Bool := t.kind == .quotedName || t.kind == .string || t.isPlainWord

def isTypePart (t : Token) : Bool :=
  t.kind == .quotedName || t.kind == .string ||
    (t.isPlainWord && !joinWords.contains t.lowered)

/-- Whether a token may be a name that a text cannot stand for. -/
def isIdentifier (t : Token) : Bool :=
  t.kind == .quotedName || (t.isPlainWord && (t.lowered == "indexed" || t.isTypePart))

/-- The source of tokens in a row, without the blanks before the first. -/
def sourceOf : List Token → List Char
  | [] => []
  | t :: rest => t.text ++ rest.flatMap fun u => u.before ++ u.text

end Token

end Accrete
