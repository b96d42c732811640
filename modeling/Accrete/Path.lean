import Accrete.Text.Part
import Accrete.Text.Quoted

/-!
# Paths

Paths of files, as they are written and as they are shown.

* `Path.ofString`  -- reads a path; empty and `.` parts do not count
* `Path.Root`      -- where a path starts
* `Path.text`      -- shows a path
* `Path.join`      -- a path that is taken from another one
* `Path.parent`    -- the path without its last part
* `PathFault`      -- why a path cannot be used
-/

namespace Accrete

/-- Where a path starts: at a directory that it does not name, or at the root.  The root has a
    second spelling, with two slashes, which is kept. -/
inductive Path.Root where
  | none | slash | slashes
deriving DecidableEq, Repr, Inhabited

/-- A path.  A part may be `..`, which leads up. -/
structure Path where
  root : Path.Root
  parts : List String
deriving DecidableEq, Repr, Inhabited

namespace Path

namespace Root

def text : Root → String
  | .none => ""
  | .slash => "/"
  | .slashes => "//"

/-- The root that the number of slashes before a path stands for.  Three and more count as
    one. -/
def ofSlashes : Nat → Root
  | 0 => .none
  | 2 => .slashes
  | _ => .slash

end Root

def isAbsolute (p : Path) : Bool := p.root != .none

/-- The part that leads up. -/
def up : String := ".."

def ofString (s : String) : Path :=
  ⟨Root.ofSlashes (s.toList.takeWhile (· == '/')).length,
    ((Text.pieces '/' s.toList).map String.ofList).filter fun part => !part.isEmpty && part != "."⟩

def ofParts (parts : List String) : Path := ⟨.slash, parts⟩

def relative (parts : List String) : Path := ⟨.none, parts⟩

/-- Shows a path.  The path without parts is the root or the working directory. -/
def text (p : Path) : String :=
  if p.parts.isEmpty && !p.isAbsolute then "." else p.root.text ++ "/".intercalate p.parts

/-- A path taken from another one, which an absolute path does not depend on. -/
def join (p q : Path) : Path :=
  if q.isAbsolute then q else { p with parts := p.parts ++ q.parts }

/-- What a name stands for in a directory. -/
def child (p : Path) (name : String) : Path := { p with parts := p.parts ++ [name] }

def parent (p : Path) : Path := { p with parts := p.parts.dropLast }

/-- A path and those above it, the nearest first, without the last one above, which has no
    parts. -/
def withParents (p : Path) : List Path :=
  (List.range p.parts.length).reverse.map fun n => { p with parts := p.parts.take (n + 1) }

/-- The parts of a path after each `..` has taken away the part before it. -/
def simplify (parts : List String) : List String :=
  parts.foldl (fun before part => if part == up then before.dropLast else before ++ [part]) []

end Path

/-- What is wrong with a path. -/
inductive PathFault where
  /-- A directory on the way is not there. -/
  | missing
  /-- A place on the way is not a directory. -/
  | notDirectory
  /-- A directory stands where a file is to be written. -/
  | isDirectory
  /-- A file stands where a directory is to be made. -/
  | taken
  /-- A name on the way, or the whole path, is longer than names and paths can be. -/
  | tooLong
  /-- The path holds the character that ends a path. -/
  | embedsNull
deriving DecidableEq, Repr

namespace PathFault

/-- The wording of a fault, with the number under which it is known. -/
def wording : PathFault → String
  | .missing => "[Errno 2] No such file or directory"
  | .notDirectory => "[Errno 20] Not a directory"
  | .isDirectory => "[Errno 21] Is a directory"
  | .taken => "[Errno 17] File exists"
  | .tooLong => "[Errno 36] File name too long"
  | .embedsNull => "embedded null byte"

def message (fault : PathFault) (path : String) : String :=
  if fault == .embedsNull then fault.wording else fault.wording ++ ": " ++ Text.quote path

end PathFault

end Accrete
