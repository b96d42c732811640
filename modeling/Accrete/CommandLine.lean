import Accrete.CommandLine.Grammar
import Accrete.CommandLine.Help

/-!
# The command line

What a user can ask for.

* `Request`             -- what is asked for
* `Invocation`          -- a request, with the log level that is asked for
* `Invocation.ofArgs`   -- reads arguments
-/

namespace Accrete

/-- Where a planning command finds its settings, database and fragments. -/
structure Sources where
  config : Option String
  url : Option String
  schema : Option String
  dialect : Option String
deriving DecidableEq, Repr

/-- What a user asks for. -/
inductive Request where
  | nothing
  /-- The command for migrations, without saying which. -/
  | unspecified
  | init (directory : String) (url : Option String)
  | plan (sources : Sources)
  | sql (sources : Sources) (output : Option String)
  | up (sources : Sources) (confirmed : Bool)
deriving DecidableEq, Repr

/-- A request, with the log level that is asked for. -/
structure Invocation where
  logLevel : Option String
  request : Request
deriving DecidableEq, Repr

namespace CommandLine

/-- What an option can set. -/
inductive Key where
  | logLevel | directory | url | config | schema | dialect | output | yes
deriving DecidableEq, Repr

/-- The option that asks for help. -/
def helpSwitch : Switch Key := ⟨["-h", "--help"], .help⟩

/-- The options before the command. -/
def mainGrammar : Grammar Key := ⟨[helpSwitch, ⟨["--log-level"], .value .logLevel⟩], true⟩

/-- The options of the command for migrations, before the command that it is given. -/
def migrateGrammar : Grammar Key := ⟨[helpSwitch], true⟩

def urlSwitch : Switch Key := ⟨["--url"], .value .url⟩

/-- The options of the command that makes settings. -/
def initGrammar : Grammar Key :=
  ⟨[helpSwitch, ⟨["-d", "--directory"], .value .directory⟩, urlSwitch], false⟩

/-- The options of a planning command: the shared ones and some of its own. -/
def planningGrammar (own : List (Switch Key)) : Grammar Key :=
  ⟨[helpSwitch, ⟨["-c", "--config"], .value .config⟩, urlSwitch,
    ⟨["-s", "--schema"], .value .schema⟩, ⟨["--dialect"], .value .dialect⟩] ++ own, false⟩

def outputSwitch : Switch Key := ⟨["-o", "--output"], .value .output⟩

def yesSwitch : Switch Key := ⟨["-y", "--yes"], .flag .yes⟩

/-- Why arguments are not carried out: help is asked for, or they cannot be read. -/
inductive Halt where
  | help (topic : Topic)
  | refused
deriving DecidableEq, Repr

/-- The end of reading the arguments of a command. -/
def Stop.about (topic : Topic) : Stop → Halt
  | .help => .help topic
  | .refused => .refused

def Reading.sources (r : Reading Key) : Sources :=
  ⟨r.value? .config, r.value? .url, r.value? .schema, r.value? .dialect⟩

/-- Refuses what was read if some of it means nothing. -/
def Reading.check (r : Reading Key) : Except Halt Unit :=
  if r.hasExtras then .error .refused else .ok ()

def readTask (name : String) (args : List String) : Except Halt Request := do
  let read (topic : Topic) (g : Grammar Key) : Except Halt (Reading Key) := do
    let r ← (g.read args).mapError (Stop.about topic)
    r.check
    return r
  match name with
  | "init" =>
    let r ← read .init initGrammar
    return .init ((r.value? .directory).getD ".") (r.value? .url)
  | "plan" => return .plan (← read .plan (planningGrammar [])).sources
  | "sql" =>
    let r ← read .sql (planningGrammar [outputSwitch])
    return .sql r.sources (r.value? .output)
  | "up" =>
    let r ← read .up (planningGrammar [yesSwitch])
    return .up r.sources (r.value? .yes).isSome
  | _ => throw .refused

def readMigrate (args : List String) : Except Halt Request := do
  let r ← (migrateGrammar.read args).mapError (Stop.about .migrate)
  let request ← match r.command with
    | none => pure .unspecified
    | some (name, rest) => readTask name rest
  -- A fault of the inner command is told before anything that means nothing here.
  r.check
  return request

end CommandLine

open CommandLine in
/-- Reads the arguments of the program. -/
def Invocation.ofArgs (args : List String) : Except Halt Invocation := do
  let r ← (mainGrammar.read args).mapError (Stop.about .overview)
  let request ← match r.command with
    | none => pure .nothing
    | some ("migrate", rest) => readMigrate rest
    | some _ => throw .refused
  r.check
  return ⟨r.value? .logLevel, request⟩

end Accrete
