import Accrete.Database.Location
import Accrete.FileTree

/-!
# Opening databases

How a database is found in a file, and put back after a change.

* `OpenDatabase`       -- a database with the place that it is from
* `FileTree.openNamed` -- opens a database, which may change files even if it fails
* `FileTree.keep`      -- the files after a database has changed

Beside the file of a database there may be two others, in which changes are held until they are
done: its journal and its log.  What is left of them after a change that was broken off is cleared
away when the database is opened to be written to.
-/

namespace Accrete

structure OpenDatabase where
  database : Database
  /-- The place of its file, if it has one. -/
  place : Option (List String)
  /-- Why nothing can be written to it, if nothing can. -/
  writeFault : Option Refusal

/-- What opens databases among files. -/
abbrev Opening := ExceptT Error (StateM FileTree)

namespace Opening

def refuse {α : Type} (cause : Refusal) : Opening α := throw (.refused cause "")

end Opening

namespace Node

/-- Whether a file has no pages of a database.  A single byte is none. -/
def hasNoPages : Node → Bool
  | .text content => content.utf8ByteSize ≤ 1
  | .database db => db.isBlank
  | .directory => false

def startsWithZero : Node → Bool
  | .text content => content.toList.head? == some '\x00'
  | _ => false

end Node

namespace FileTree

/-- A place with something added to its last name. -/
def beside (suffix : String) : List String → List String
  | [] => []
  | [name] => [name ++ suffix]
  | part :: rest => part :: beside suffix rest

def journalPlace (place : List String) : List String := beside "-journal" place

def logPlace (place : List String) : List String := beside "-wal" place

/-- What is left at a place, if it is anything but an empty file. -/
def leftover? (t : FileTree) (place : List String) : Option Node :=
  (t.node? place).filter (!·.isEmptyFile)

/-- Clears a journal away.  Unless the database has no pages, a journal that starts with the
    character zero is done with, and any other has to be cleared away. -/
def settleJournal (place : List String) (file : Node) (writes : Bool) : Opening Unit := do
  let journal := journalPlace place
  match (← get).leftover? journal with
  | none => return ()
  | some left =>
    if file.hasNoPages then
      if writes && !left.isDirectory then modify (·.remove journal)
    else if left.isDirectory then Opening.refuse .notRead
    else if !left.startsWithZero then
      if !writes then Opening.refuse .readOnly
      modify (·.remove journal)

/-- Clears a log away.  The log of a database without pages goes in any case. -/
def settleLog (place : List String) (file : Node) (writes : Bool) : Opening Unit := do
  let log := logPlace place
  match (← get).leftover? log with
  | none => return ()
  | some left =>
    if left.isDirectory then
      Opening.refuse (if file.hasNoPages then .notRead else .notOpened)
    if writes || file.hasNoPages then modify (·.remove log)

def content (file : Node) : Opening Database :=
  match file with
  | .database db => return db
  | _ => if file.hasNoPages then return .empty else Opening.refuse .notDatabase

/-- Why nothing can be written to the database at a place. -/
def writeFault? (t : FileTree) (place : List String) (access : Access) : Option Refusal :=
  let journal := journalPlace place
  if !access.writes || access.frozen then some .readOnly
  else if t.isDirectory journal || (journal.getLast?.any (·.utf8ByteSize > nameLimit)) then
    some .notOpened
  else none

/-- The number of bytes that the path of a database cannot exceed. -/
def databaseLimit : Nat := 504

/-- Whether something is at a path that is no empty text. -/
def hasModel (t : FileTree) (path : String) : Bool :=
  !path.isEmpty && match t.place (Path.ofString path) with
    | .ok place => (t.node? place).isSome
    | .error _ => false

/-- The file at a path, which is made if it is not there and that is wanted. -/
def openFile (p : Path) (access : Access) : Opening (List String × Node) := do
  let t ← get
  let p := t.resolve p
  if p.text.utf8ByteSize > databaseLimit then Opening.refuse .notOpened
  if access.model.any (!t.hasModel ·) then Opening.refuse .notRead
  match t.place p with
  | .error _ => Opening.refuse .notOpened
  | .ok place =>
    match t.node? place with
    | some .directory => Opening.refuse .notOpened
    | some file => return (place, file)
    | none =>
      if !access.creates then Opening.refuse .notOpened
      -- The file stays, even if the database cannot be opened after all.
      let file := Node.database .empty
      set (t.put place file)
      return (place, file)

def openLocated : DatabaseLocation → Opening OpenDatabase
  | .memory writes => return ⟨.empty, none, if writes then none else some .readOnly⟩
  | .file p access => do
    let (place, file) ← openFile p access
    if !access.frozen then
      settleJournal place file access.writes
      settleLog place file access.writes
    return ⟨← content file, some place, (← get).writeFault? place access⟩

def openNamed (n : DatabaseName) : Opening OpenDatabase := do
  if let some fault := n.fault then throw (.urlUnusable fault)
  if n.text.toList.contains '\x00' then throw (.pathUnusable .embedsNull n.text)
  match n.locate with
  | .error cause => Opening.refuse cause
  | .ok location => openLocated location

/-- The files after a database has changed.  One that has stayed without tables is not written. -/
def keep (t : FileTree) (o : OpenDatabase) (db : Database) : FileTree :=
  match o.place with
  | some place => if db.isBlank then t else t.put place (.database db)
  | none => t

end FileTree

end Accrete
