import Accrete.Error
import Accrete.Field.Declared

/-!
# Defining fields

A field written out by its parts, without the checks of a loose declaration.

* `Field.define`   -- the field with the given parts
* `Field.ofParts`  -- the field with parts given by name
* `Field.plain`    -- a required field of a type, with nothing else stated
-/

namespace Accrete.Field

/-- The reference that a part states: a text is read, and any other value is kept. -/
def definedReference (references : Value) : Except Error Value :=
  if references.text?.isSome then
    (Reference.ofValue none references).mapError Error.declaration
  else .ok references

/-- The field with the given parts.  A reference written as a text is read before the type is
    looked at. -/
def define (type required unique bigint indexed fieldName references default : Value) :
    Except Error Field := do
  let target ← definedReference references
  match LogicalType.ofValue? type with
  | none => throw (.typeUnknown type)
  | some t =>
    return ⟨t, required, unique, bigint, indexed, fieldName, target, Default.ofValue default⟩

/-- The names of a field's parts apart from its type. -/
def partNames : List String :=
  ["required", "unique", "bigint", "indexed", "field_name", "references", "default"]

/-- The name of a field's type, which only goes by its place. -/
def typeName : String := "type_"

/-- The field with parts given by name.  Its type has to be among them. -/
def ofParts (parts : List (String × Value)) : Except Error Field := do
  let part (name : String) (unset : Value) : Value := (parts.lookup name).getD unset
  match parts.lookup "type" with
  | none => throw (.partMissing "type")
  | some type =>
    if let some p := parts.find? fun p => p.1 != "type" && !partNames.contains p.1 then
      throw (if (parts.lookup typeName).isSome then .partUnnamed typeName else .partUnknown p.1)
    define type (part "required" (.bool true)) (part "unique" (.bool false))
      (part "bigint" (.bool false)) (part "indexed" (.bool false)) (part "field_name" .null)
      (part "references" .null) (part "default" (.default .none))

/-- A required field of a type, with nothing else stated. -/
def plain (type : LogicalType) : Field :=
  ⟨type, .bool true, .bool false, .bool false, .bool false, .null, .null, .none⟩

end Accrete.Field
