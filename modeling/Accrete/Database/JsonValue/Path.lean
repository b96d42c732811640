import Accrete.Database.JsonValue

/-!
# Paths into JSON

* `JsonPath`            -- the steps from the outermost value to a part of it
* `JsonPath.read`       -- the path that a text writes
* `JsonPath.abbreviated` -- the path that a text or a number writes in short
* `JsonValue.find?`     -- the part that a path leads to
* `JsonValue.edit?`     -- a value with another part where a path leads to

A path that is not understood is refused only if its steps before that place lead somewhere.
-/

namespace Accrete

/-- A step into a part of a value. -/
inductive JsonStep where
  | member (label : Bytes)
  /-- To the item after some others.  The first item may be written plainly as such. -/
  | item (index : Nat) (plain : Bool)
  /-- To the item that has some others from itself on; none is the place after the last. -/
  | itemFromEnd (count : Nat)
  /-- A step that is not understood, to a member. -/
  | badMember (rest : Bytes)
  /-- A step that is not understood, to an item counted from the end. -/
  | badItem (rest : Bytes)
  /-- Another step that is not understood. -/
  | bad (rest : Bytes)
deriving DecidableEq, Repr

/-- The steps from the outermost value to a part of it. -/
abbrev JsonPath := List JsonStep

namespace JsonPath

/-- The number that digits write, in 32 bits. -/
def count (bs : Bytes) : Nat :=
  bs.foldl (fun n b => (10 * n + (b.toNat - 48)) % 0x100000000) 0

def memberStep : Bytes → JsonStep × Option Bytes
  | 34 :: rest =>
    let label := rest.takeWhile (· != 34)
    if label.length < rest.length then (.member label, some (rest.drop (label.length + 1)))
    else (.badMember (34 :: rest), none)
  | bs =>
    let label := bs.takeWhile fun b => b != 46 && b != 91
    if label.isEmpty then (.badMember bs, none) else (.member label, some (bs.drop label.length))

def itemStep (bs : Bytes) : JsonStep × Option Bytes :=
  -- 93 closes the brackets, 35 is the number sign and 45 the minus sign.
  let digits := bs.takeWhile Bytes.isDigit
  match bs.drop digits.length with
  | 93 :: rest =>
    if digits.isEmpty then (.bad (91 :: bs), none)
    else (.item (count digits) (digits == [48]), some rest)
  | _ =>
    match bs with
    | 35 :: rest =>
      let (n, rest) := match rest with
        | 45 :: more =>
          let digits := more.takeWhile Bytes.isDigit
          if digits.isEmpty then (0, rest) else (count digits, more.drop digits.length)
        | _ => (0, rest)
      match rest with
      | 93 :: rest => (.itemFromEnd n, some rest)
      | _ => (.badItem (91 :: bs), none)
    | _ => (.bad (91 :: bs), none)

/-- The steps that a text writes after its start.  `bound` limits their number. -/
def readFrom : Nat → Bytes → JsonPath
  | 0, _ => []
  | _ + 1, [] => []
  | bound + 1, b :: rest =>
    -- 46 is the point before a label, and 91 the bracket before an index.
    let (step, more) :=
      if b == 46 then memberStep rest
      else if b == 91 then itemStep rest
      else (.bad (b :: rest), none)
    step :: match more with
      | some more => readFrom bound more
      | none => []

def read (bs : Bytes) : JsonPath :=
  match bs.visible with
  | 36 :: rest => readFrom (rest.length + 1) rest
  | bs => [.bad bs]

/-- The path that a text writes in short: an index, an index in brackets, or a label. -/
def abbreviated (bs : Bytes) : JsonPath :=
  let bs := bs.visible
  match bs with
  | 36 :: _ => read bs
  | 91 :: _ => read (36 :: bs)
  | b :: _ =>
    if Bytes.isDigit b then read (36 :: 91 :: bs ++ [93]) else read (36 :: 46 :: bs)
  | [] => read [36, 46]

end JsonPath

namespace JsonValue

/-- Whether a value is taken out. -/
def isRemoved : JsonValue → Bool
  | .removed _ => true
  | _ => false

def setMember (label : Bytes) (v : JsonValue) :
    List (JsonLabel × JsonValue) → List (JsonLabel × JsonValue)
  | [] => []
  | (l, w) :: rest => if l.key == label then (l, v) :: rest else (l, w) :: setMember label v rest

def member? (label : Bytes) (members : List (JsonLabel × JsonValue)) : Option JsonValue :=
  (members.find? fun m => m.1.key == label).map Prod.snd

/-- The place of an item among all, given its place among those that are not taken out. -/
def place? : Nat → List JsonValue → Option Nat
  | _, [] => none
  | n, v :: rest =>
    if v.isRemoved then (place? n rest).map (· + 1)
    else match n with
      | 0 => some 0
      | n + 1 => (place? n rest).map (· + 1)

/-- How many items are not taken out. -/
def presentCount (items : List JsonValue) : Nat := items.countP fun v => !v.isRemoved

/-- The place of an item in an array.  Once an array has grown, every index that it has leads to its
    last item. -/
def itemPlace? (items : List JsonValue) (grown : Bool) (index : Nat) : Option Nat :=
  if grown then if index < items.length then some (items.length - 1) else none
  else place? index items

def find? : JsonPath → JsonValue → Except CallFault (Option JsonValue)
  | [], v => .ok (some v)
  | step :: rest, v =>
    let inArray (items : List JsonValue) (grown : Bool) (index : Nat) :
        Except CallFault (Option JsonValue) :=
      match (itemPlace? items grown index).bind (items[·]?) with
      | some v => find? rest v
      | none => .ok none
    match step, v with
    | .bad place, _ => .error (.badPath place)
    | .member label, .object members =>
      match member? label members with
      | some v => find? rest v
      | none => .ok none
    | .badMember place, .object _ => .error (.badPath place)
    | .item index _, .array items grown => inArray items grown index
    | .itemFromEnd n, .array items grown =>
      if presentCount items < n then .ok none else inArray items grown (presentCount items - n)
    | .badItem place, .array .. => .error (.badPath place)
    | _, _ => .ok none

/-- What is done at the end of a path. -/
structure Edit where
  /-- What becomes of the part that is there. -/
  change : JsonValue → JsonValue
  /-- What is added if there is no part, if anything is. -/
  added : Option JsonValue

/-- The value that leads to a new part along a path, unless it cannot be made. -/
def grown? (new : JsonValue) : JsonPath → Except CallFault (Option JsonValue)
  | [] => .ok (some new)
  | .member label :: rest => do
    return (← grown? new rest).map fun v => .object [(.named label, v)]
  | .item _ true :: rest => do return (← grown? new rest).map fun v => .array [v] true
  | .badMember place :: _ => .error (.badPath place)
  | _ => .ok none

/-- A value under the mark that it is taken out, and how to put it there again. -/
def unmarked : JsonValue → JsonValue × (JsonValue → JsonValue)
  | .removed v => (v, .removed)
  | v => (v, id)

/-- A value with another part where a path leads to, unless nothing changes. -/
def edit? (e : Edit) : JsonPath → JsonValue → Except CallFault (Option JsonValue)
  | [], .removed v => .ok (some (.removed v))
  | [], v => .ok (some (e.change v))
  | step :: rest, v =>
    let (v, mark) := v.unmarked
    let added : Except CallFault (Option JsonValue) :=
      match e.added with
      | some new => grown? new rest
      | none => .ok none
    let inArray (items : List JsonValue) (grown : Bool) (index : Nat) :
        Except CallFault (Option JsonValue) := do
      match itemPlace? items grown index with
      | some i => match items[i]? with
        | some v => return (← edit? e rest v).map fun v => mark (.array (items.set i v) grown)
        | none => return none
      | none =>
        -- Nothing can be added to an array but right behind its last item.
        if index = presentCount items then
          return (← added).map fun v => mark (.array (items ++ [v]) true)
        else return none
    match step, v with
    | .bad place, _ => .error (.badPath place)
    | .member label, .object members =>
      match member? label members with
      | some v => do return (← edit? e rest v).map fun v => mark (.object (setMember label v members))
      | none => do
        return (← added).map fun v => mark (.object (members ++ [(.named label, v)]))
    | .badMember place, .object _ => .error (.badPath place)
    | .item index _, .array items grown => inArray items grown index
    | .itemFromEnd n, .array items grown =>
      if presentCount items < n then .ok none else inArray items grown (presentCount items - n)
    | .badItem place, .array .. => .error (.badPath place)
    | _, _ => .ok none

end JsonValue

end Accrete
