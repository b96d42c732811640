import Accrete.Database.Name
import Accrete.Database.Refusal
import Accrete.Path

/-!
# Database locations

Where the name of a database leads.

* `DatabaseLocation`    -- a file, or the memory, which lasts as long as one command
* `DatabaseName.locate` -- the location of a name

A URI is `file:`, perhaps an authority, a path and options.  It ends before a number sign.
-/

namespace Accrete

/-- What may be done to a database, and how its file is found. -/
structure Access where
  /-- Whether it is made if it is not there. -/
  creates : Bool
  writes : Bool
  /-- Whether nobody changes it, so that it counts as it is. -/
  frozen : Bool
  /-- The path of a file that has to be there too, since a new one takes its permissions. -/
  model : Option String
deriving DecidableEq, Repr

namespace Access

/-- The access without any wishes. -/
def plain : Access := ⟨true, true, false, none⟩

end Access

/-- Where a database is. -/
inductive DatabaseLocation where
  | memory (writes : Bool)
  | file (path : Path) (access : Access)
deriving DecidableEq, Repr

namespace DatabaseLocation

def memoryName : String := ":memory:"

def ofName (name : String) (access : Access) : DatabaseLocation :=
  if name.isEmpty || name == memoryName then .memory access.writes
  else .file (Path.ofString name) access

/-! ## URIs -/

/-- What a URI starts with. -/
def scheme : List Char := "file:".toList

/-- Takes an authority away.  It is empty or this computer. -/
def withoutAuthority (cs : List Char) : Except Refusal (List Char) :=
  match cs with
  | '/' :: '/' :: rest =>
    let (authority, path) := rest.span (· != '/')
    if authority.isEmpty || authority == "localhost".toList then .ok path
    else .error (.authorityUnknown (String.ofList authority))
  | _ => .ok cs

/-- A part of a URI, up to a percent sign that means the end of a text. -/
def upToEnd : List Char → List Char
  | [] => []
  | c :: rest => if ['%', '0', '0'].isPrefixOf (c :: rest) then [] else c :: upToEnd rest

/-- A part of a URI as it is meant. -/
def uriText (cs : List Char) : String :=
  String.ofList (Text.Percent.decodeChars (upToEnd cs))

/-- The key and the value of an option.  An option without a key does not count. -/
def uriOption? (cs : List Char) : Option (String × String) :=
  match cs.span (· != '=') with
  | ([], _) => none
  | (key, value) => some (uriText key, uriText (value.drop 1))

/-- The number at the start of a text that starts with a digit, zero unless it has 31 bits. -/
def uriNumber (cs : List Char) : Nat :=
  let digits (base : Nat) (cs : List Char) : Nat :=
    ((cs.map Text.Percent.hexValue?).takeWhile (·.any (· < base))).foldl
      (fun n d => base * n + d.getD 0) 0
  let n := match cs with
    | '0' :: x :: rest =>
      if x == 'x' || x == 'X' then digits 16 rest else digits 10 (x :: rest)
    | _ => digits 10 cs
  if n < 0x80000000 then n else 0

/-- Whether the text of an option says yes.  Of a number the last byte counts. -/
def saysYes (text : String) : Bool :=
  match text.toList with
  | c :: rest =>
    if c.isDigit then uriNumber (c :: rest) % 256 != 0
    else ["on", "yes", "true"].contains (Text.asciiLower text)
  | [] => false

/-- The accesses that a URI can ask for, and whether each is to the memory: creating and
    writing come with each. -/
def accesses : List (String × Bool × Bool × Bool) :=
  [("ro", false, false, false), ("rw", false, false, true), ("rwc", false, true, true),
   ("memory", true, true, true)]

/-- What the options of a URI ask for. -/
structure Wish where
  /-- Whether the database is to be in memory. -/
  inMemory : Bool
  access : Access

/-- What an option asks for that has to be understood. -/
def heed (wish : Wish) (option : String × String) : Except Refusal Wish :=
  match option with
  | ("mode", value) => match accesses.lookup value with
    | some (inMemory, creates, writes) => .ok ⟨inMemory, { wish.access with creates, writes }⟩
    | none => .error (.modeUnknown "access" value)
  | ("cache", value) =>
    if ["shared", "private"].contains value then .ok wish
    else .error (.modeUnknown "cache" value)
  | _ => .ok wish

/-- The storages that a URI can name, and whether each is in memory. -/
def storages : List (String × Bool) :=
  [("unix", false), ("unix-none", false), ("unix-dotfile", false), ("unix-excl", false),
   ("memdb", true)]

/-- Whether the storage that options name is in memory.  The last name counts. -/
def storedInMemory (options : List (String × String)) : Except Refusal Bool :=
  match (options.filter (·.1 == "vfs")).getLast? with
  | none => .ok false
  | some (_, name) => match storages.lookup name with
    | some inMemory => .ok inMemory
    | none => .error (.storageUnknown name)

/-- The location of what follows the start of a URI.  A database that has a name in a storage in
    memory can be frozen, unlike one that is only kept there. -/
def ofUri (cs : List Char) : Except Refusal DatabaseLocation := do
  let (path, rest) := (← withoutAuthority cs).takeWhile (· != '#') |>.span (· != '?')
  let options := (Text.pieces '&' (rest.drop 1)).filterMap uriOption?
  let wish ← options.foldlM heed ⟨false, .plain⟩
  let frozen := (options.lookup "immutable").any saysYes
  let model := options.lookup "modeof"
  let stored ← storedInMemory options
  return match ofName (uriText path) { wish.access with frozen, model } with
    | .file path access =>
      if wish.inMemory then .memory access.writes
      else if stored then .memory (access.writes && !frozen)
      else .file path access
    | location => location

end DatabaseLocation

def DatabaseName.locate (n : DatabaseName) : Except Refusal DatabaseLocation :=
  let cs := n.text.toList
  if n.isUri && DatabaseLocation.scheme.isPrefixOf cs then
    DatabaseLocation.ofUri (cs.drop DatabaseLocation.scheme.length)
  else .ok (DatabaseLocation.ofName n.text .plain)

end Accrete
