import Accrete.Database.CallFault
import Accrete.Database.Cell

/-!
# JSON in texts

The values that a JSON text writes, as a database takes them from texts and puts them into texts.

* `JsonValue`            -- a value; numbers and texts are kept as they are written
* `JsonValue.render`     -- a value as JSON
* `JsonValue.toCell`     -- a value as an SQL value
* `JsonValue.typeName`   -- the name of a value's kind
* `JsonValue.quoted`     -- a text as JSON writes it
* `JsonValue.ofCell`     -- an SQL value as JSON

While a value is edited, parts of it may be replaced by SQL values or taken out; they keep their
places until the whole is written.
-/

namespace Accrete

/-- An SQL value, and whether it is a text that is known to be JSON. -/
structure Argument where
  cell : Cell
  isJson : Bool
deriving DecidableEq, Repr, Inhabited

/-- The label of a member of an object: as it is written between quotes, or as a path names it. -/
inductive JsonLabel where
  | written (source : Bytes)
  | named (bytes : Bytes)
deriving DecidableEq, Repr

/-- A value of JSON. -/
inductive JsonValue where
  | null
  | bool (b : Bool)
  | integer (source : Bytes)
  | real (source : Bytes)
  /-- A text as it is written between quotes. -/
  | text (source : Bytes)
  /-- Items, and whether some of them were added at the end. -/
  | array (items : List JsonValue) (grown : Bool)
  | object (members : List (JsonLabel × JsonValue))
  /-- An SQL value in the place of another one. -/
  | given (a : Argument)
  /-- A value that is taken out. -/
  | removed (v : JsonValue)
deriving Inhabited

/-! ## Labels -/

namespace JsonLabel

/-- The characters by which a label is found: those between its quotes, as they are written. -/
def key : JsonLabel → Bytes
  | .written source => source
  | .named bytes => bytes

end JsonLabel

namespace JsonValue

/-! ## Writing -/

/-- A byte as it is written in a JSON text. -/
def escaped (b : UInt8) : Bytes :=
  if b == 34 || b == 92 then [92, b]
  else if b == 8 then [92, 98]
  else if b == 9 then [92, 116]
  else if b == 10 then [92, 110]
  else if b == 12 then [92, 102]
  else if b == 13 then [92, 114]
  else if b < 32 then
    Bytes.ofString "\\u00" ++
      [48 + b / 16, if b % 16 < 10 then 48 + b % 16 else 87 + b % 16]
  else [b]

/-- A text as JSON writes it. -/
def quoted (bs : Bytes) : Bytes := 34 :: bs.flatMap escaped ++ [34]

def ofCell (a : Argument) : Except CallFault Bytes :=
  match a.cell with
  | .null => .ok (Bytes.ofString "null")
  | .number n => .ok (Bytes.ofString (NumberText.write n))
  | .text bs => .ok (if a.isJson then bs else quoted bs)
  | .blob _ => .error .bytesInJson

/-- Bytes with commas between them. -/
def joined : List Bytes → Bytes
  | [] => []
  | [bs] => bs
  | bs :: rest => bs ++ 44 :: joined rest

def renderLabel : JsonLabel → Bytes
  | .written source => 34 :: source ++ [34]
  | .named bytes => quoted bytes

mutual

def render : JsonValue → Except CallFault Bytes
  | .null => .ok (Bytes.ofString "null")
  | .bool b => .ok (Bytes.ofString (if b then "true" else "false"))
  | .integer source | .real source => .ok source
  | .text source => .ok (34 :: source ++ [34])
  | .array items _ => do return 91 :: joined (← renderItems items) ++ [93]
  | .object members => do return 123 :: joined (← renderMembers members) ++ [125]
  | .given a => ofCell a
  | .removed v => v.render

/-- The items of an array that are not taken out, as JSON. -/
def renderItems : List JsonValue → Except CallFault (List Bytes)
  | [] => .ok []
  | .removed _ :: rest => renderItems rest
  | v :: rest => do return (← v.render) :: (← renderItems rest)

/-- The members of an object that are not taken out, as JSON. -/
def renderMembers : List (JsonLabel × JsonValue) → Except CallFault (List Bytes)
  | [] => .ok []
  | (_, .removed _) :: rest => renderMembers rest
  | (label, v) :: rest => do
    return (renderLabel label ++ 58 :: (← v.render)) :: (← renderMembers rest)

end

/-! ## Reading as SQL values -/

/-- The number that four hexadecimal digits write. -/
def hexNumber (bs : Bytes) : Nat :=
  (bs.take 4).foldl (fun n b => 16 * n + (Bytes.hexValue? b).getD 0) 0

/-- The character that a letter stands for after a backslash. -/
def unescaped (b : UInt8) : UInt8 :=
  match Char.ofNat b.toNat with
  | 'b' => 8
  | 'f' => 12
  | 'n' => 10
  | 'r' => 13
  | 't' => 9
  | _ => b

/-- The number of a character outside the first 65536 whose second half follows, if so. -/
def secondHalf? (first : Nat) : Bytes → Option Nat
  | 92 :: 117 :: rest =>
    let second := hexNumber rest
    if first / 1024 = 54 && second / 1024 = 55 then
      some (first % 1024 * 1024 + second % 1024 + 0x10000)
    else none
  | _ => none

/-- The text that is written between quotes.  A character zero ends it.  `bound` limits the
    steps. -/
def decodedFrom : Nat → Bytes → Bytes
  | 0, _ => []
  | _ + 1, [] => []
  | bound + 1, 92 :: 117 :: rest =>
    let n := hexNumber rest
    let rest := rest.drop 4
    if n = 0 then []
    else match secondHalf? n rest with
      | some n => Bytes.ofCode n ++ decodedFrom bound (rest.drop 6)
      | none => Bytes.ofCode n ++ decodedFrom bound rest
  | bound + 1, 92 :: b :: rest => unescaped b :: decodedFrom bound rest
  | bound + 1, b :: rest => b :: decodedFrom bound rest

/-- The text that is written between quotes. -/
def decoded (source : Bytes) : Bytes := decodedFrom source.length source

/-- The integer that a text writes, or a real number if it has more than 64 bits. -/
def integerValue (source : Bytes) : Number :=
  match NumberText.integer source with
  | (i, true) => .int i
  | (_, false) => (NumberText.read source).1

def toCell : JsonValue → Except CallFault Argument
  | .null => .ok ⟨.null, false⟩
  | .bool b => .ok ⟨.int (if b then 1 else 0), false⟩
  | .integer source => .ok ⟨.number (integerValue source), false⟩
  | .real source => .ok ⟨.number (NumberText.read source).1, false⟩
  | .text source => .ok ⟨.text (decoded source), false⟩
  | v => do return ⟨.text (← v.render), true⟩

def typeName : JsonValue → String
  | .null => "null"
  | .bool b => if b then "true" else "false"
  | .integer _ => "integer"
  | .real _ => "real"
  | .text _ => "text"
  | .array .. => "array"
  | .object _ => "object"
  | .given _ => "null"
  | .removed v => v.typeName

/-- How many items a value has, none if it is no array. -/
def itemCount : JsonValue → Nat
  | .array items _ => items.length
  | _ => 0

def asJson (v : JsonValue) : Except CallFault Argument := do return ⟨.text (← v.render), true⟩

end JsonValue

end Accrete
