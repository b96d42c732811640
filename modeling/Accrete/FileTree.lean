import Accrete.Database
import Accrete.Error
import Accrete.Path
import Accrete.Text.Part

/-!
# File trees

The files that a command can see, seen from a working directory.

* `Node`             -- a directory, a text or a database
* `FileTree.place`   -- the place that a path leads to
* `FileTree.find?`   -- what a path leads to, if anything
* `FileTree.write`   -- puts a text in its place
* `FileTree.makeDirectories` -- a directory with all directories above it
-/

namespace Accrete

/-- What a path leads to. -/
inductive Node where
  | directory
  | text (content : String)
  | database (db : Database)
deriving Inhabited

namespace Node

def isDirectory : Node → Bool
  | .directory => true
  | _ => false

def isEmptyFile : Node → Bool
  | .text content => content.isEmpty
  | .database db => db.isBlank
  | .directory => false

/-- The text of a file as it is read, which ends its lines in one way.  A database that nothing
    was written to is an empty file. -/
def text? : Node → Option String
  | .text content => some (Text.withLineFeeds content)
  | .database db => if db.isBlank then some "" else none
  | .directory => none

end Node

/-- Files by their place: the names of the directories above them, from the root, and their own.
    The root is a directory that no entry stands for. -/
structure FileTree where
  /-- The working directory, from which relative paths lead. -/
  here : List String
  entries : List (List String × Node)

namespace FileTree

/-- What stands at a place. -/
def node? (t : FileTree) : List String → Option Node
  | [] => some .directory
  | place => t.entries.lookup place

def isDirectory (t : FileTree) (place : List String) : Bool :=
  match t.node? place with
  | some node => node.isDirectory
  | none => false

def remove (t : FileTree) (place : List String) : FileTree :=
  { t with entries := t.entries.filter (·.1 != place) }

def put (t : FileTree) (place : List String) (node : Node) : FileTree :=
  if (t.entries.lookup place).isSome then
    { t with entries := t.entries.map fun e => if e.1 = place then (place, node) else e }
  else { t with entries := t.entries ++ [(place, node)] }

/-- The number of bytes that no name exceeds. -/
def nameLimit : Nat := 255

/-- The number of bytes that every path falls short of. -/
def pathLimit : Nat := 4096

def step (place : List String) (part : String) : List String :=
  if part == Path.up then place.dropLast else place ++ [part]

/-- Follows parts from a place to another, which need not be taken; the places on the way have to
    be directories. -/
def follow (t : FileTree) (place : List String) : List String → Except PathFault (List String)
  | [] => .ok place
  | part :: rest =>
    match t.node? place with
    | none => .error .missing
    | some node =>
      if !node.isDirectory then .error .notDirectory
      else if part.utf8ByteSize > nameLimit then .error .tooLong
      else follow t (step place part) rest

/-- What is wrong with the text of a path, wherever it leads. -/
def textFault? (p : Path) : Option PathFault :=
  if p.text.toList.contains '\x00' then some .embedsNull
  else if p.text.utf8ByteSize ≥ pathLimit then some .tooLong
  else none

def start (t : FileTree) (p : Path) : List String := if p.isAbsolute then [] else t.here

def place (t : FileTree) (p : Path) : Except PathFault (List String) :=
  match textFault? p with
  | some fault => .error fault
  | none => t.follow (t.start p) p.parts

/-- What a path leads to, if anything.  It is an error to ask for a path that is too long. -/
def find? (t : FileTree) (p : Path) : Except Error (Option Node) :=
  match t.place p with
  | .ok place => .ok (t.node? place)
  | .error .tooLong => .error (.pathUnusable .tooLong p.text)
  | .error _ => .ok none

def contains (t : FileTree) (p : Path) : Except Error Bool := (·.isSome) <$> t.find? p

def workingDirectory (t : FileTree) : Path := Path.ofParts t.here

/-- The absolute path that a path stands for, without parts that lead up. -/
def resolve (t : FileTree) (p : Path) : Path :=
  Path.ofParts (Path.simplify (t.workingDirectory.join p).parts)

/-- Puts a text in the place of a path, whose directory has to be there. -/
def write (t : FileTree) (p : Path) (content : String) : Except Error FileTree :=
  match t.place p with
  | .error fault => .error (.pathUnusable fault p.text)
  | .ok place =>
    match t.node? place with
    | some .directory => .error (.pathUnusable .isDirectory p.text)
    | _ => .ok (t.put place (.text content))

/-- Makes the directories that parts lead through, from the first part on that is given.  Those
    that are there stay as they are.  A fault comes with the parts up to the one it is about. -/
def makeAlong (t : FileTree) (place : List String) (passed : List String) :
    List String → Except (PathFault × List String) FileTree
  | [] => .ok t
  | part :: rest =>
    let passed := passed ++ [part]
    if part.utf8ByteSize > nameLimit then .error (.tooLong, passed)
    else
      let place := step place part
      match t.node? place with
      | none => makeAlong (t.put place .directory) place passed rest
      | some .directory => makeAlong t place passed rest
      | some _ => .error (if rest.isEmpty then .taken else .notDirectory, passed ++ rest)

/-- Makes a directory with all directories above it, unless they are there. -/
def makeDirectories (t : FileTree) (p : Path) : Except Error FileTree :=
  match textFault? p with
  | some fault => .error (.pathUnusable fault p.text)
  | none => (t.makeAlong (t.start p) [] p.parts).mapError fun (fault, parts) =>
      .pathUnusable fault ({ p with parts } : Path).text

end FileTree

end Accrete
