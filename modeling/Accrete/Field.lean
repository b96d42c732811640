import Accrete.Field.Kind
import Accrete.Number

/-!
# Fields and loose values

A field is the contract of one column.  Declarations arrive as loose values: data of any shape,
in which fields, references and defaults may already stand ready-made.

* `Value`      -- a loose value
* `Reference`  -- a foreign-key target
* `Default`    -- a default policy
* `Field`      -- the contract of one column

Except for its type, a field that was made ready keeps its parts as they were given; a field that
was read from a declaration has parts of the right kinds.
-/

namespace Accrete

mutual

/-- A loose value.  A mapping lists its entries in order, with distinct keys. -/
inductive Value where
  | null
  | bool (b : Bool)
  | number (n : Number)
  | text (s : String)
  | list (items : List Value)
  | mapping (entries : List (Value × Value))
  | computedKind (k : ComputedKind)
  | field (f : Field)
  | reference (r : Reference)
  | default (d : Default)

/-- A foreign-key target.  The model names a table and the column one of its columns; neither
    is checked to be a text when a reference is made. -/
structure Reference where
  model : Value
  column : Value
  onDelete : Option OnDelete

/-- What a missing value becomes when a row is written. -/
inductive Default where
  | none
  | static (v : Value)
  | computed (k : ComputedKind)

/-- The contract of one column.  The flags count by whether they are present, a name that is
    not present is the key of the field, and null stands for no reference. -/
structure Field where
  type : LogicalType
  required : Value
  unique : Value
  bigint : Value
  indexed : Value
  fieldName : Value
  references : Value
  default : Default

end

instance : Inhabited Value := ⟨.null⟩

namespace Value

def get? (entries : List (Value × Value)) (key : String) : Option Value :=
  (entries.find? fun e => match e.1 with
    | .text s => s == key
    | .computedKind k => k.spelling == key
    | _ => false).map Prod.snd

/-- The text of a value that is one.  A computed kind counts as its spelling. -/
def text? : Value → Option String
  | .text s => some s
  | .computedKind k => some k.spelling
  | _ => none

/-- Whether a value counts as present: not null, false, zero or empty. -/
def isTruthy : Value → Bool
  | .null => false
  | .bool b => b
  | .number n => !n.same (.int 0)
  | .text s => !s.isEmpty
  | .list items => !items.isEmpty
  | .mapping entries => !entries.isEmpty
  | _ => true

def isNull : Value → Bool
  | .null => true
  | _ => false

def kindName : Value → String
  | .null => "NoneType"
  | .bool _ => "bool"
  | .number (.int _) => "int"
  | .number _ => "float"
  | .text _ => "str"
  | .list _ => "list"
  | .mapping _ => "dict"
  | .computedKind _ => "DefaultKind"
  | .field _ => "Field"
  | .reference _ => "Reference"
  | .default .none => "NoDefault"
  | .default (.static _) => "StaticDefault"
  | .default (.computed _) => "ComputedDefault"

end Value

/-- The column a reference points at when it names none. -/
def Reference.defaultColumn : String := "id"

namespace Default

def isNone : Default → Bool
  | .none => true
  | _ => false

end Default

namespace Field

/-- Whether values may not be null. -/
def isRequired (f : Field) : Bool := f.required.isTruthy

def isUnique (f : Field) : Bool := f.unique.isTruthy

/-- Whether numbers take 64 bits. -/
def isBigint (f : Field) : Bool := f.bigint.isTruthy

/-- Whether the column asks for an index of its own. -/
def isIndexed (f : Field) : Bool := f.indexed.isTruthy

/-- Whether the field states a reference, of whatever kind. -/
def hasReference (f : Field) : Bool := !f.references.isNull

def reference? (f : Field) : Option Reference :=
  match f.references with
  | .reference r => some r
  | _ => none

def columnName (f : Field) (key : Value) : Value :=
  if f.fieldName.isTruthy then f.fieldName else key

def hasDefault (f : Field) : Bool := !f.default.isNone

end Field

end Accrete
