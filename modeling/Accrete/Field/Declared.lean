import Accrete.Fault

/-!
# Reading field declarations

From loose values to references, defaults and fields.

* `Reference.make`    -- a reference from its three parts
* `Reference.ofValue` -- a reference from a text, a mapping, or one ready-made
* `Field.ofValue`     -- a field from a mapping, or one ready-made

The checks run in a fixed order and the first that fails decides: the type, the four flags, the
field name, and last the reference.
-/

namespace Accrete

def DeclarationError.atField (field : Option String) (cause : Fault.Cause) : DeclarationError :=
  .refused ⟨none, field, cause⟩

namespace Reference

def readAction : Value → Except DeclarationError (Option OnDelete)
  | .null => .ok none
  | v => match v.text? with
    | none => .error (.misused (v.lacks "upper"))
    | some s => match OnDelete.ofSpelling? s with
      | some o => .ok (some o)
      | none => .error (.atField none (.actionUnknown v))

/-- A reference from its parts.  The model has to be present; a delete action has to be one of
    the four. -/
def make (model column onDelete : Value) : Except DeclarationError Reference := do
  if !model.isTruthy then throw (.atField none .modelMissing)
  return ⟨model, column, ← readAction onDelete⟩

/-- A text cut at its first point. -/
def splitAtPoint (s : String) : String × String :=
  let cs := s.toList
  (String.ofList (cs.takeWhile (· != '.')), String.ofList ((cs.dropWhile (· != '.')).drop 1))

/-- A reference written as `model` or `model.column`.  An empty column means the default one. -/
def ofText (s : String) : Except DeclarationError Reference :=
  let (model, column) := splitAtPoint s
  make (.text model) (.text (if column.isEmpty then defaultColumn else column)) .null

/-- The reference that a value declares for the field of a given name, null for none. -/
def ofValue (field : Option String) : Value → Except DeclarationError Value
  | .null => .ok .null
  | .reference r => .ok (.reference r)
  | .text s => .reference <$> ofText s
  | .computedKind k => .reference <$> make (.computedKind k) (.text defaultColumn) .null
  | .mapping entries => match Value.get? entries "model" with
    | none => .error (.atField field .referenceWithoutModel)
    | some model =>
      .reference <$> make model ((Value.get? entries "field").getD (.text defaultColumn))
        ((Value.get? entries "on_delete").getD .null)
  | _ => .error (.atField field .referenceWithoutModel)

end Reference

/-- The default that a value declares: none for null, a computed one for a computed kind, and
    the value itself otherwise. -/
def Default.ofValue : Value → Default
  | .null => .none
  | .default d => d
  | .computedKind k => .computed k
  | v => .static v

namespace LogicalType

def ofValue? (v : Value) : Option LogicalType := v.text?.bind ofSpelling?

end LogicalType

namespace Field

/-- A flag of a field mapping, or its default value when it is left out. -/
def readFlag (name : Option String) (entries : List (Value × Value)) (flag : String)
    (unset : Bool) : Except DeclarationError Value :=
  match Value.get? entries flag with
  | none => .ok (.bool unset)
  | some (.bool b) => .ok (.bool b)
  | some _ => .error (.atField name (.flagNotBoolean flag))

def readType (name : Option String) (entries : List (Value × Value)) :
    Except DeclarationError LogicalType :=
  match (Value.get? entries "type").getD .null with
  | .null => .error (.atField name .typeMissing)
  | v => match LogicalType.ofValue? v with
    | some t => .ok t
    | none => .error (.atField name (.typeUnknown v))

def readFieldName (name : Option String) (entries : List (Value × Value)) :
    Except DeclarationError Value :=
  match (Value.get? entries "field_name").getD .null with
  | .null => .ok .null
  | v => if v.text?.isSome then .ok v else .error (.atField name .fieldNameNotText)

/-- The field that a mapping declares. -/
def ofEntries (name : Option String) (entries : List (Value × Value)) :
    Except DeclarationError Field := do
  let type ← readType name entries
  let required ← readFlag name entries "required" true
  let unique ← readFlag name entries "unique" false
  let bigint ← readFlag name entries "bigint" false
  let indexed ← readFlag name entries "indexed" false
  let fieldName ← readFieldName name entries
  let references ← Reference.ofValue name ((Value.get? entries "references").getD .null)
  return {
    type, required, unique, bigint, indexed, fieldName, references
    default := Default.ofValue ((Value.get? entries "default").getD .null) }

/-- The field that a value declares.  `name` is the place that faults report. -/
def ofValue (name : Option String) : Value → Except DeclarationError Field
  | .field f => .ok f
  | .mapping entries => ofEntries name entries
  | v => .error (.atField name (.fieldNotMapping v.kindName))

end Field

end Accrete
