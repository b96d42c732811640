import Accrete.Database.JsonValue.Merge
import Accrete.Database.JsonValue.Path
import Accrete.Database.JsonValue.Reader

/-!
# Routines on JSON

* `Argument.json?`     -- the JSON that a value writes
* `JsonRoutine.extract`, `JsonRoutine.typeAt` and the like -- parts of JSON
* `JsonRoutine.edit`   -- JSON with other values at the ends of paths
* `JsonRoutine.array`, `JsonRoutine.object` -- JSON made of values

Null in the place of JSON has null as its result.
-/

namespace Accrete

namespace Argument

/-- A value that is not known to be JSON. -/
def plain (c : Cell) : Argument := ⟨c, false⟩

def null : Argument := plain .null

/-- The JSON that a value writes, unless it is null. -/
def json? (a : Argument) : Except CallFault (Option JsonValue) :=
  match a.cell.bytes? with
  | none => .ok none
  | some bs => match JsonValue.read? bs with
    | some v => .ok (some v)
    | none => .error .notJson

/-- The path that a value writes, unless it is null. -/
def path? (a : Argument) : Option JsonPath := a.cell.bytes?.map JsonPath.read

end Argument

namespace JsonRoutine

/-- The result of a function of JSON, null for null. -/
def onJson (a : Argument) (f : JsonValue → Except CallFault Argument) :
    Except CallFault Argument := do
  match ← a.json? with
  | some v => f v
  | none => return .null

/-- The part of JSON at the end of a path, unless there is none. -/
def partAt (v : JsonValue) (path : Argument) : Except CallFault (Option JsonValue) :=
  match path.path? with
  | some path => v.find? path
  | none => .ok none

/-- The result of a function of the part at the end of a path, or of the whole. -/
def onPart (a : Argument) (path : Option Argument) (f : JsonValue → Argument) :
    Except CallFault Argument :=
  onJson a fun v => do
    match path with
    | none => return f v
    | some path => return ((← partAt v path).map f).getD .null

/-- Whether a value writes JSON. -/
def isValid (a : Argument) : Argument :=
  .plain (Cell.ofTruth (some ((a.cell.bytes?.bind JsonValue.read?).isSome)))

/-- The name of the kind of a part. -/
def typeAt (a : Argument) (path : Option Argument) : Except CallFault Argument :=
  onPart a path fun v => .plain (Cell.ofString v.typeName)

def lengthAt (a : Argument) (path : Option Argument) : Except CallFault Argument :=
  onPart a path fun v => .plain (Cell.int v.itemCount)

/-- The parts at the ends of paths as JSON, null where there is none. -/
def renderParts (v : JsonValue) : List Argument → Except CallFault (List Bytes)
  | [] => .ok []
  | path :: rest => do
    let part ← partAt v path
    return (← (part.getD .null).render) :: (← renderParts v rest)

/-- The part at the end of a path, or an array of the parts at the ends of several. -/
def extract : List Argument → Except CallFault Argument
  | [] | [_] => .ok .null
  | [a, path] => onJson a fun v => do
    match ← partAt v path with
    | some part => part.toCell
    | none => return .null
  | a :: paths => onJson a fun v => do
    return ⟨.text (91 :: JsonValue.joined (← renderParts v paths) ++ [93]), true⟩

/-- The part at the end of an abbreviated path, as JSON or as an SQL value. -/
def arrow (asJson : Bool) (a path : Argument) : Except CallFault Argument :=
  onJson a fun v => do
    match path.cell.bytes? with
    | none => return .null
    | some bs => match ← v.find? (JsonPath.abbreviated bs) with
      | none => return .null
      | some part =>
        if asJson then part.asJson else return { (← part.toCell) with isJson := false }

/-! ## Making JSON -/

def quote (a : Argument) : Except CallFault Argument := do
  return ⟨.text (← JsonValue.ofCell a), true⟩

def array (items : List Argument) : Except CallFault Argument := do
  return ⟨.text (91 :: JsonValue.joined (← items.mapM JsonValue.ofCell) ++ [93]), true⟩

/-- Labels with their values as the members of an object. -/
def renderPairs : List Argument → Except CallFault (List Bytes)
  | label :: value :: rest => do
    let label := JsonValue.quoted (label.cell.bytes?.getD [])
    return (label ++ 58 :: (← JsonValue.ofCell value)) :: (← renderPairs rest)
  | _ => .ok []

/-- Whether the values at even places are texts. -/
def haveLabels : List Argument → Bool
  | ⟨.text _, _⟩ :: _ :: rest => haveLabels rest
  | [] => true
  | _ => false

/-- An object of labels and values that take turns. -/
def object (args : List Argument) : Except CallFault Argument := do
  if args.length % 2 != 0 then throw .memberIncomplete
  if !haveLabels args then throw .labelNotText
  return ⟨.text (123 :: JsonValue.joined (← renderPairs args) ++ [125]), true⟩

/-! ## Changing JSON -/

/-- How paths and values change JSON. -/
inductive Verb where
  | insert | replace | set
deriving DecidableEq, Repr

namespace Verb

def name : Verb → String
  | .insert => "insert"
  | .replace => "replace"
  | .set => "set"

/-- What a change makes of the end of a path. -/
def editOf (verb : Verb) (a : Argument) : JsonValue.Edit where
  change := fun v => if verb = .insert then v else .given a
  added := if verb = .replace then none else some (.given a)

end Verb

def applyEdits (verb : Verb) : List Argument → JsonValue → Except CallFault JsonValue
  | path :: a :: rest, v => do
    match path.path? with
    | none => applyEdits verb rest v
    | some path => applyEdits verb rest ((← v.edit? (verb.editOf a) path).getD v)
  | _, v => .ok v

/-- JSON with values at the ends of paths.  A value may take the place of the whole. -/
def edit (verb : Verb) : List Argument → Except CallFault Argument
  | [] => .ok .null
  | a :: edits =>
    if edits.length % 2 != 0 then .error (.editIncomplete verb.name)
    else onJson a fun v => do
      match ← applyEdits verb edits v with
      | .given a => return a
      | v => v.asJson

/-- JSON without the parts at the ends of paths.  A path that is null leaves nothing. -/
def removeAll : List Argument → JsonValue → Except CallFault (Option JsonValue)
  | [], v => .ok (some v)
  | path :: rest, v =>
    match path.path? with
    | none => .ok none
    | some path => do
      removeAll rest ((← v.edit? ⟨JsonValue.removed, none⟩ path).getD v)

def remove : List Argument → Except CallFault Argument
  | [] => .ok .null
  | a :: paths => onJson a fun v => do
    match ← removeAll paths v with
    | none | some (.removed _) => return .null
    | some v => v.asJson

/-- JSON with the members of another one put over its own. -/
def patch (a b : Argument) : Except CallFault Argument :=
  onJson a fun v => onJson b fun w => (v.merge w).asJson

end JsonRoutine

end Accrete
