import Accrete.Text.Digit

/-!
# Grammars of command lines

How arguments are read by the options that a command knows.

* `Switch`         -- an option with its names and its meaning
* `Grammar`        -- the options of a command, and whether a command of its own follows them
* `Argument`       -- an argument by itself
* `Grammar.read`   -- the options that are given, and the command that follows

A long option may be cut short as long as one option fits.  A value follows its option as the next
argument, or in the same one: after an equals sign, or directly after a short name.  Short options
without values may share an argument.  What starts with a dash is no value, unless it is a
negative number, holds a space, or stands after two dashes.
-/

namespace Accrete.CommandLine

/-- What an option does. -/
inductive Meaning (κ : Type) where
  /-- Asks how the command is used. -/
  | help
  /-- Sets a key without a value. -/
  | flag (key : κ)
  | value (key : κ)
deriving DecidableEq, Repr

/-- An option with its names. -/
structure Switch (κ : Type) where
  names : List String
  meaning : Meaning κ

/-- The options of a command, and whether a command of its own follows them. -/
structure Grammar (κ : Type) where
  switches : List (Switch κ)
  hasCommands : Bool

/-- Why reading ends early. -/
inductive Stop where
  | help
  | refused
deriving DecidableEq, Repr

/-- An argument by itself. -/
inductive Argument (κ : Type) where
  | plain
  /-- Two dashes, after which all arguments are plain. -/
  | separator
  /-- What an option means, whether its name is a short one, and the text that is attached to it by
      an equals sign or, to a short name, without one. -/
  | option (meaning : Meaning κ) (isShort : Bool) (attached : Option (List Char))
  | unknown

/-- What arguments say. -/
structure Reading (κ : Type) where
  given : List (κ × String)
  /-- Whether some arguments mean nothing. -/
  hasExtras : Bool
  /-- A command and its arguments. -/
  command : Option (String × List String)

variable {κ : Type}

namespace Grammar

def fitting (g : Grammar κ) (fits : String → Bool) : List (Meaning κ) :=
  g.switches.flatMap fun s => (s.names.filter fits).map fun _ => s.meaning

def meaning? (g : Grammar κ) (name : String) : Option (Meaning κ) :=
  (g.fitting (· == name)).head?

end Grammar

/-- Whether a text is a negative number: digits, with at most one point before the last ones. -/
def isNegativeNumber (cs : List Char) : Bool :=
  match cs with
  | '-' :: rest =>
    let rest := if rest.getLast? == some '\n' then rest.dropLast else rest
    match rest.dropWhile Text.isDigit with
    | [] => !rest.isEmpty
    | '.' :: more => !more.isEmpty && more.all Text.isDigit
    | _ => false
  | _ => false

def otherArgument (cs : List Char) : Argument κ :=
  if isNegativeNumber cs || cs.contains ' ' then .plain else .unknown

def isShortName (name : List Char) : Bool :=
  match name with
  | '-' :: '-' :: _ => false
  | _ => true

/-- A text before its first equals sign, and what follows the sign if there is one. -/
def splitAtEquals (cs : List Char) : List Char × Option (List Char) :=
  (cs.takeWhile (· != '='), match cs.dropWhile (· != '=') with
    | [] => none
    | _ :: after => some after)

namespace Grammar

/-- Reads an argument by itself, unless several options fit it. -/
def argument? (g : Grammar κ) (arg : String) : Option (Argument κ) :=
  let cs := arg.toList
  let (name, attached) := splitAtEquals cs
  match cs with
  | '-' :: second :: more =>
    match g.meaning? arg, g.meaning? (String.ofList name) with
    | some meaning, _ => some (.option meaning (isShortName cs) none)
    | none, some meaning => some (.option meaning (isShortName cs) attached)
    | none, none =>
      if second == '-' then
        -- A long name may be cut short as long as one option fits it.
        match g.fitting fun full => name.isPrefixOf full.toList with
        | [] => some (otherArgument cs)
        | [meaning] => some (.option meaning false attached)
        | _ => none
      else
        -- What follows a short name is its value, or more short options.
        match g.meaning? (String.ofList ['-', second]) with
        | some meaning => some (.option meaning true (some more))
        | none => some (otherArgument cs)
  | _ => some .plain

/-- Reads arguments by themselves, unless several options fit one. -/
def arguments? (g : Grammar κ) : List String → Option (List (String × Argument κ))
  | [] => some []
  | arg :: rest =>
    if arg == "--" then some ((arg, .separator) :: rest.map fun other => (other, .plain))
    else do return (arg, ← g.argument? arg) :: (← g.arguments? rest)

end Grammar

/-- What one argument sets: options in order, a key that waits for its value, and whether some of
    the argument means nothing. -/
structure Spread (κ : Type) where
  meanings : List (Meaning κ × String)
  waiting : Option κ
  hasExtras : Bool

namespace Spread

/-- A single option with its value. -/
def one (meaning : Meaning κ) (text : String) : Spread κ := ⟨[(meaning, text)], none, false⟩

/-- An option with nothing attached to it. -/
def bare : Meaning κ → Spread κ
  | .value key => ⟨[], some key, false⟩
  | meaning => one meaning ""

/-- An option in front of others in the same argument. -/
def after (meaning : Meaning κ) (s : Spread κ) : Spread κ :=
  { s with meanings := (meaning, "") :: s.meanings }

/-- A short option with a text attached, which is its value or holds more options. -/
def cluster (g : Grammar κ) : Meaning κ → List Char → Except Stop (Spread κ)
  | .value key, text => .ok (one (.value key) (String.ofList text))
  | _, [] => .error .refused
  | meaning, c :: more =>
    match g.meaning? (String.ofList ['-', c]) with
    | none => .error .refused
    | some next =>
      after meaning <$> if more.isEmpty then .ok (bare next) else cluster g next more

/-- A long option with a text attached, which has to be its value. -/
def joined : Meaning κ → List Char → Except Stop (Spread κ)
  | .value key, text => .ok (one (.value key) (String.ofList text))
  | _, _ => .error .refused

end Spread

/-- What an argument that is an option sets. -/
def Argument.spread (g : Grammar κ) : Argument κ → Except Stop (Spread κ)
  | .option meaning _ none => .ok (.bare meaning)
  | .option meaning true (some text) => Spread.cluster g meaning text
  | .option meaning false (some text) => Spread.joined meaning text
  | _ => .ok ⟨[], none, true⟩

namespace Reading

def empty : Reading κ := ⟨[], false, none⟩

/-- Sets what options mean.  Asking for help ends the reading. -/
def set (r : Reading κ) : List (Meaning κ × String) → Except Stop (Reading κ)
  | [] => .ok r
  | (.help, _) :: _ => .error .help
  | (.flag key, text) :: rest => set { r with given := r.given ++ [(key, text)] } rest
  | (.value key, text) :: rest => set { r with given := r.given ++ [(key, text)] } rest

/-- Reads arguments in order.  The first plain one is the command, if there are commands, and all
    that follows belongs to it. -/
def walk (g : Grammar κ) : Reading κ → List (String × Argument κ) → Except Stop (Reading κ)
  | r, [] => .ok r
  | r, (text, .plain) :: rest =>
    if g.hasCommands then .ok { r with command := some (text, rest.map Prod.fst) }
    else walk g { r with hasExtras := true } rest
  | r, (text, .separator) :: rest =>
    if g.hasCommands && !rest.isEmpty then
      .ok { r with command := some (text, rest.map Prod.fst) }
    else walk g { r with hasExtras := true } rest
  | r, (_, arg) :: rest =>
    match arg.spread g with
    | .error stop => .error stop
    | .ok s =>
      let r := { r with hasExtras := r.hasExtras || s.hasExtras }
      match s.waiting, rest with
      | none, rest => do walk g (← r.set s.meanings) rest
      | some key, (text, .plain) :: after => do
        walk g (← r.set (s.meanings ++ [(.value key, text)])) after
      -- Another option, or the end, does not count as the value that is due.
      | some _, _ => .error .refused

def value? [BEq κ] (r : Reading κ) (key : κ) : Option String := r.given.reverse.lookup key

end Reading

namespace Grammar

def read (g : Grammar κ) (args : List String) : Except Stop (Reading κ) :=
  match g.arguments? args with
  | none => .error .refused
  | some arguments => Reading.empty.walk g arguments

end Grammar

end Accrete.CommandLine
