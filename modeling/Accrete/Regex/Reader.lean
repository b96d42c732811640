import Accrete.Regex
import Accrete.Text.Numeral

/-!
# Reading regular expressions

* `Regex.read?`   -- the pattern that a text writes, with the flags that it states for the whole

A pattern is written in characters or in bytes.  The names of characters are not known, so that a
pattern that uses one is not read.
-/

namespace Accrete

namespace Regex

/-- A character of a written pattern, and whether it follows a backslash. -/
structure Mark where
  escaped : Bool
  char : Nat
deriving DecidableEq, Repr

/-- The characters of a written pattern, unless a backslash is the last one. -/
def marks? : List Nat → Option (List Mark)
  | [] => some []
  | [92] => none
  | 92 :: c :: rest => (marks? rest).map (⟨true, c⟩ :: ·)
  | c :: rest => (marks? rest).map (⟨false, c⟩ :: ·)

/-- What is known while a pattern is read. -/
structure Reading where
  rest : List Mark
  /-- The number of the next group. -/
  next : Nat
  /-- The widths of the groups that are closed. -/
  widths : List (Nat × Width)
  names : List (String × Nat)
  flags : List Flag
  /-- The number of the first group in what is to come before. -/
  behindFrom : Option Nat
  /-- The groups that conditions ask for. -/
  asked : List Nat
  isText : Bool

/-- A task that takes a part of a written pattern. -/
abbrev RegexReader := StateT Reading Option

namespace RegexReader

def refuse {α : Type} : RegexReader α := fun _ => none

/-- The next character, if there is one. -/
def peek : RegexReader (Option Mark) := return (← get).rest.head?

/-- Takes the next character, if there is one. -/
def next? : RegexReader (Option Mark) := do
  let s ← get
  set { s with rest := s.rest.drop 1 }
  return s.rest.head?

def next : RegexReader Mark := do
  match ← next? with
  | some m => return m
  | none => refuse

/-- Takes the next character if it is a given one. -/
def take (c : Char) : RegexReader Bool := do
  if (← peek) == some ⟨false, c.toNat⟩ then
    let _ ← next?
    return true
  return false

def expect (c : Char) : RegexReader Unit := do
  if !(← take c) then refuse

/-- Takes characters that pass a test, up to some number. -/
def takeWhile (test : Nat → Bool) : Nat → RegexReader (List Nat)
  | 0 => return []
  | n + 1 => do
    match ← peek with
    | some ⟨false, c⟩ =>
      if test c then
        let _ ← next?
        return c :: (← takeWhile test n)
      return []
    | _ => return []

/-- Takes what comes before a character, and the character. -/
def takeUntil (c : Char) : RegexReader (List Mark) := do
  let s ← get
  let before := s.rest.takeWhile (· != ⟨false, c.toNat⟩)
  let rest := s.rest.drop before.length
  if rest.isEmpty then refuse
  set { s with rest := rest.drop 1 }
  return before

end RegexReader

open RegexReader

/-! ## Escapes -/

def isDigit (c : Nat) : Bool := 48 ≤ c && c ≤ 57

def isOctal (c : Nat) : Bool := 48 ≤ c && c ≤ 55

def hexValue (c : Nat) : Nat :=
  if isDigit c then c - 48 else if 97 ≤ c then c - 87 else c - 55

def isHex (c : Nat) : Bool := isDigit c || (97 ≤ c && c ≤ 102) || (65 ≤ c && c ≤ 70)

def isLetter (c : Nat) : Bool := (65 ≤ c && c ≤ 90) || (97 ≤ c && c ≤ 122)

def ofDigits (base : Nat) (ds : List Nat) : Nat := ds.foldl (fun n d => base * n + hexValue d) 0

/-- Takes a number of exactly so many hexadecimal digits. -/
def hexCode (count : Nat) : RegexReader Nat := do
  let ds ← takeWhile isHex count
  if ds.length != count then refuse
  return ofDigits 16 ds

/-- What a letter stands for after a backslash, if it is a character. -/
def controlOf? (c : Nat) : Option Nat :=
  match Char.ofNat c with
  | 'a' => some 7
  | 'f' => some 12
  | 'n' => some 10
  | 'r' => some 13
  | 't' => some 9
  | 'v' => some 11
  | '\\' => some 92
  | _ => none

/-- The category that a letter stands for after a backslash. -/
def categoryOf? (c : Nat) : Option ClassItem :=
  match Char.ofNat c with
  | 'd' => some (.category .digit false)
  | 'D' => some (.category .digit true)
  | 's' => some (.category .space false)
  | 'S' => some (.category .space true)
  | 'w' => some (.category .word false)
  | 'W' => some (.category .word true)
  | _ => none

/-- The place that a letter stands for after a backslash. -/
def positionOf? (c : Nat) : Option Position :=
  match Char.ofNat c with
  | 'A' => some .textStart
  | 'b' => some .boundary
  | 'B' => some .inside
  | 'Z' => some .textEnd
  | _ => none

/-- Takes the character that digits write after a letter and its backslash. -/
def codeAfter (c : Nat) : RegexReader Nat := do
  let isText := (← get).isText
  if c == 120 then return ← hexCode 2
  if c == 117 && isText then return ← hexCode 4
  if c == 85 && isText then
    let n ← hexCode 8
    if 0x10ffff < n then refuse
    return n
  if isLetter c || isDigit c then refuse
  return c

/-- Takes the rest of an item of a class after its backslash. -/
def classEscape (c : Nat) : RegexReader ClassItem := do
  if let some d := controlOf? c then return .char d
  if c == 98 then return .char 8
  if let some item := categoryOf? c then return item
  if isOctal c then
    let n := ofDigits 8 (c :: (← takeWhile isOctal 2))
    if 255 < n then refuse
    return .char n
  return .char (← codeAfter c)

/-- Refuses a group that may not be asked for where what comes before is described. -/
def checkBehind (n : Nat) : RegexReader Unit := do
  let s ← get
  if let some first := s.behindFrom then
    if (s.widths.lookup n).isNone || first ≤ n then refuse

/-- The group of a number, which has to be closed. -/
def reference (n : Nat) : RegexReader Regex := do
  if ((← get).widths.lookup n).isNone then refuse
  checkBehind n
  return .backReference n

/-- Takes the rest of an escape after its backslash. -/
def escape (c : Nat) : RegexReader Regex := do
  if let some p := positionOf? c then return .place p
  if let some item := categoryOf? c then return .oneOf false [item]
  if let some d := controlOf? c then return .char d
  if c == 48 then return .char (ofDigits 8 (← takeWhile isOctal 2))
  if isDigit c then
    let more ← takeWhile isDigit 1
    if (c :: more).all isOctal && more.length == 1 then
      let last ← takeWhile isOctal 1
      if last.length == 1 then
        let n := ofDigits 8 (c :: more ++ last)
        if 255 < n then refuse
        return .char n
    return ← reference (ofDigits 10 (c :: more))
  return .char (← codeAfter c)

/-! ## Classes -/

/-- Takes an item of a class that may be the start of a range. -/
def classItem (m : Mark) : RegexReader ClassItem :=
  if m.escaped then classEscape m.char else return .char m.char

/-- Takes the items of a class and the bracket that closes it.  `bound` limits their number. -/
def classItems : Nat → List ClassItem → RegexReader (List ClassItem)
  | 0, _ => refuse
  | bound + 1, items => do
    let m ← next
    if m == ⟨false, 93⟩ && !items.isEmpty then return items
    let first ← classItem m
    if !(← take '-') then return ← classItems bound (items ++ [first])
    let m ← next
    if m == ⟨false, 93⟩ then return items ++ [first, .char 45]
    match first, ← classItem m with
    | .char least, .char greatest =>
      if greatest < least then refuse
      classItems bound (items ++ [.range least greatest])
    | _, _ => refuse

/-! ## Repetitions -/

/-- How often something repeats, or none if no such thing is written. -/
def repetition (c : Nat) : RegexReader (Option (Nat × Option Nat)) := do
  match Char.ofNat c with
  | '?' => return some (0, some 1)
  | '*' => return some (0, none)
  | '+' => return some (1, none)
  | _ =>
    let start ← get
    -- A brace that states no number of times stands for itself, as do empty braces.
    if (← peek) == some ⟨false, 125⟩ then return none
    let least ← takeWhile isDigit start.rest.length
    let more ← take ','
    let most ← if more then takeWhile isDigit start.rest.length else pure least
    if !(← take '}') then
      set start
      return none
    let lo := ofDigits 10 least
    let hi := if most.isEmpty then none else some (ofDigits 10 most)
    if countLimit ≤ lo || hi.any (countLimit ≤ ·) || hi.any (· < lo) then refuse
    return some (lo, hi)

/-- Takes the mark that tells what is tried first. -/
def greed : RegexReader Greed := do
  if ← take '?' then return .lazy
  if ← take '+' then return .possessive
  return .greedy

/-- A pattern that repeats, unless it is none that may. -/
def repeated? (g : Greed) (range : Nat × Option Nat) : Regex → Option Regex
  | .place _ | .times .. => none
  | p => some (.times g range.1 range.2 p)

/-! ## Groups -/

def flagOf? (c : Nat) : Option Flag :=
  match Char.ofNat c with
  | 'i' => some .ignoreCase
  | 'L' => some .locale
  | 'm' => some .multiline
  | 's' => some .dotAll
  | 'x' => some .verbose
  | 'a' => some .ascii
  | 't' => some .template
  | 'u' => some .unicode
  | _ => none

def kindFlags : List Flag := [.ascii, .locale, .unicode]

/-- Takes flags from a letter on, up to a character that ends them. -/
def flagsFrom (on : Bool) (ends : List Char) : Nat → Nat → List Flag → RegexReader (List Flag × Char)
  | 0, _, _ => refuse
  | bound + 1, c, found => do
    match flagOf? c with
    | none => refuse
    | some f =>
      let isText := (← get).isText
      if on && f == (if isText then .locale else .unicode) then refuse
      if !on && kindFlags.contains f then refuse
      let found := f :: found
      if kindFlags.contains f && (found.any fun g => kindFlags.contains g && g != f) then refuse
      let m ← next
      if m.escaped then refuse
      let c := Char.ofNat m.char
      if ends.contains c then return (found, c)
      flagsFrom on ends bound m.char found

/-- Takes the flags of a group, given the first character of them.  Without a group they are for the
    whole pattern. -/
def groupFlags (c : Nat) : RegexReader (Option (List Flag × List Flag)) := do
  let bound := (← get).rest.length + 1
  let (on, mark) ← if c == 45 then pure ([], '-') else flagsFrom true [')', '-', ':'] bound c []
  if mark == ')' then
    modify fun s => { s with flags := s.flags ++ on }
    return none
  if on.contains .template then refuse
  let off ← if mark == '-' then
      let m ← next
      if m.escaped then refuse
      let (off, _) ← flagsFrom false [':'] bound m.char []
      pure off
    else pure []
  if off.contains .template || off.any on.contains then refuse
  return some (on, off)

def isName : List Char → Bool
  | [] => false
  | c :: rest => Text.isWord c && !Text.isDigit c && rest.all Text.isWord

def textOf (ms : List Mark) : List Char :=
  ms.flatMap fun m => (if m.escaped then ['\\'] else []) ++ [Char.ofNat m.char]

def groupName (c : Char) : RegexReader (List Char) := do
  let text := textOf (← takeUntil c)
  if text.isEmpty then refuse
  return text

/-- The number of the group of a name. -/
def named (text : List Char) : RegexReader Nat := do
  if !isName text then refuse
  match (← get).names.lookup (String.ofList text) with
  | some n => return n
  | none => refuse

/-- The number of the group that a condition asks for. -/
def condition : RegexReader Nat := do
  let text ← groupName ')'
  let n ← if isName text then named text
    else match Text.readInteger (String.ofList text) with
      | .ok n =>
        if n ≤ 0 || 1073741823 < n then refuse
        modify fun s => { s with asked := n.toNat :: s.asked }
        pure n.toNat
      | .error _ => refuse
  checkBehind n
  return n

def openGroup (name : Option String) : RegexReader Nat := do
  let s ← get
  if let some name := name then
    if (s.names.lookup name).isSome then refuse
  let names := match name with
    | some name => (name, s.next) :: s.names
    | none => s.names
  set { s with next := s.next + 1, names }
  return s.next

def closeGroup (n : Nat) (p : Regex) : RegexReader Unit :=
  modify fun s => { s with widths := (n, p.width s.widths) :: s.widths }

/-! ## Patterns -/

/-- A pattern of several in a row. -/
def inRow : List Regex → Regex
  | [] => .empty
  | [p] => p
  | p :: rest => .seq p (inRow rest)

/-- What a part of a pattern is: something to be matched, or nothing. -/
abbrev Part := Option Regex

/-- Takes a comment up to the end of its line. -/
def skipLine : RegexReader Unit :=
  modify fun s => { s with rest := (s.rest.dropWhile (· != ⟨false, 10⟩)).drop 1 }

mutual

/-- Takes patterns that are separated by bars.  `top` tells that they are not in a group. -/
def alternatives (top verbose first : Bool) : Nat → RegexReader Regex
  | 0 => refuse
  | bound + 1 => do
    let p ← row verbose (top && first) bound []
    if ← take '|' then
      -- Flags for the whole that were read in the first pattern count for the others.
      let s ← get
      let verbose := if top then s.flags.contains .verbose else verbose
      return .either p (← alternatives top verbose false bound)
    return p

/-- Takes patterns in a row.  `first` tells that flags for the whole may stand at the start. -/
def row (verbose first : Bool) : Nat → List Regex → RegexReader Regex
  | 0, _ => refuse
  | bound + 1, ps => do
    match ← peek with
    | none => return inRow ps.reverse
    | some m =>
      if m == ⟨false, 124⟩ || m == ⟨false, 41⟩ then return inRow ps.reverse
      let _ ← next?
      if m.escaped then return ← row verbose first bound ((← escape m.char) :: ps)
      if verbose && (m.char == 32 || (9 ≤ m.char && m.char ≤ 13)) then
        return ← row verbose first bound ps
      match Char.ofNat m.char with
      | '#' =>
        if verbose then
          skipLine
          row verbose first bound ps
        else row verbose first bound (.char m.char :: ps)
      | '[' =>
        let negated ← take '^'
        let items ← classItems ((← get).rest.length + 1) []
        row verbose first bound (.oneOf negated items :: ps)
      | '.' => row verbose first bound (.any :: ps)
      | '^' => row verbose first bound (.place .lineStart :: ps)
      | '$' => row verbose first bound (.place .lineEnd :: ps)
      | '(' =>
        if ← take '?' then
          match ← extension verbose (first && ps.isEmpty) bound with
          | some (some p) => row verbose first bound (p :: ps)
          | some none => row verbose first bound ps
          | none =>
            let s ← get
            row (s.flags.contains .verbose) first bound ps
        else
          let n ← openGroup none
          let p ← alternatives false verbose false bound
          expect ')'
          closeGroup n p
          row verbose first bound (.group n p :: ps)
      | '?' | '*' | '+' | '{' =>
        match ← repetition m.char with
        | none => row verbose first bound (.char m.char :: ps)
        | some range =>
          match ps with
          | [] => refuse
          | p :: rest =>
            match repeated? (← greed) range p with
            | some q => row verbose first bound (q :: rest)
            | none => refuse
      | _ => row verbose first bound (.char m.char :: ps)

/-- Takes the rest of a group that starts with a question mark.  The result is what is to be
    matched, or nothing, or that flags for the whole were stated. -/
def extension (verbose mayFlag : Bool) : Nat → RegexReader (Option Part)
  | 0 => refuse
  | bound + 1 => do
    let m ← next
    if m.escaped then refuse
    match Char.ofNat m.char with
    | 'P' =>
      if ← take '<' then
        let name ← groupName '>'
        if !isName name then refuse
        let n ← openGroup (some (String.ofList name))
        let p ← alternatives false verbose false bound
        expect ')'
        closeGroup n p
        return some (some (.group n p))
      expect '='
      let n ← named (← groupName ')')
      return some (some (← reference n))
    | ':' =>
      let p ← alternatives false verbose false bound
      expect ')'
      return some (some (.flagged [] [] p))
    | '#' =>
      let _ ← takeUntil ')'
      return some none
    | '=' => return some (some (.ahead false (← inner verbose bound)))
    | '!' => return some (some (.ahead true (← inner verbose bound)))
    | '<' =>
      let m ← next
      if m != ⟨false, 61⟩ && m != ⟨false, 33⟩ then refuse
      let outer := (← get).behindFrom
      -- Groups opened from here on may not be asked for before this one ends.
      modify fun s => { s with behindFrom := s.behindFrom <|> some s.next }
      let p ← alternatives false verbose false bound
      modify fun s => { s with behindFrom := outer }
      expect ')'
      let s ← get
      let w := p.width s.widths
      -- What comes before is matched from a fixed distance.
      if w.least != w.greatest then refuse
      return some (some (.behind (m.char == 33) w.least p))
    | '(' =>
      let n ← condition
      let yes ← row verbose false bound []
      let no ← if ← take '|' then row verbose false bound [] else pure .empty
      expect ')'
      return some (some (.conditional n yes no))
    | '>' => return some (some (.atomic (← inner verbose bound)))
    | _ =>
      match ← groupFlags m.char with
      | none => if mayFlag then return none else refuse
      | some (on, off) =>
        let verbose := (verbose || on.contains .verbose) && !off.contains .verbose
        let p ← alternatives false verbose false bound
        expect ')'
        return some (some (.flagged on off p))

/-- Takes patterns that are separated by bars, and the parenthesis that closes them. -/
def inner (verbose : Bool) : Nat → RegexReader Regex
  | 0 => refuse
  | bound + 1 => do
    let p ← alternatives false verbose false bound
    expect ')'
    return p

end

def whole : RegexReader (Regex × List Flag) := do
  let start ← get
  let p ← alternatives true false true (4 * start.rest.length + 8)
  let s ← get
  if !s.rest.isEmpty then refuse
  if s.asked.any (s.next ≤ ·) then refuse
  if s.flags.contains .template then refuse
  if s.flags.contains .ascii && s.flags.contains .unicode then refuse
  return (p, s.flags)

/-- The pattern that a text writes, with the flags that it states for the whole. -/
def read? (isText : Bool) (cs : List Nat) : Option (Regex × List Flag) := do
  let marks ← marks? cs
  let ((p, flags), _) ← whole ⟨marks, 1, [], [], [], none, [], isText⟩
  return (p, if isText then flags else .ascii :: flags)


end Regex

end Accrete
