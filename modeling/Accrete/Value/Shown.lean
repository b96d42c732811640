import Accrete.Field
import Accrete.Text.Quoted

/-!
# How values are shown

The text of a loose value in messages.  Texts are quoted, lists stand in square brackets and
mappings in braces, and ready-made parts name what they hold.

* `Value.shown` -- the text of a value inside a message
* `Value.plain` -- the same, except that a text stands for itself
* `Reference.target` -- a reference written as `model.column`
-/

namespace Accrete

def shownBool (b : Bool) : String := if b then "True" else "False"

def shownText? : Option String → String
  | none => "None"
  | some s => Text.quote s

mutual

/-- The text of a value inside a message. -/
def Value.shown : Value → String
  | .null => "None"
  | .bool b => shownBool b
  | .number n => n.text
  | .text s => Text.quote s
  | .list items => "[" ++ ", ".intercalate (shownItems items) ++ "]"
  | .mapping entries => "\x7b" ++ ", ".intercalate (shownEntries entries) ++ "\x7d"
  | .computedKind k => shownKind k
  | .field f => shownField f
  | .reference r => shownReference r
  | .default d => shownDefault d

def shownItems : List Value → List String
  | [] => []
  | v :: rest => v.shown :: shownItems rest

/-- The texts of the entries of a mapping. -/
def shownEntries : List (Value × Value) → List String
  | [] => []
  | e :: rest => shownEntry e :: shownEntries rest

def shownEntry : Value × Value → String
  | (k, v) => k.shown ++ ": " ++ v.shown

def shownKind (k : ComputedKind) : String :=
  "<DefaultKind." ++ k.label ++ ": " ++ Text.quote k.spelling ++ ">"

def shownReference : Reference → String
  | ⟨model, column, onDelete⟩ =>
    "Reference(model=" ++ model.shown ++ ", field=" ++ column.shown ++
      ", on_delete=" ++ shownText? (onDelete.map (·.spelling)) ++ ")"

def shownDefault : Default → String
  | .none => "NoDefault()"
  | .static v => "StaticDefault(value=" ++ v.shown ++ ")"
  | .computed k => "ComputedDefault(kind=" ++ shownKind k ++ ")"

def shownField : Field → String
  | ⟨type, required, unique, bigint, indexed, fieldName, references, default⟩ =>
    "Field(type=<LogicalType." ++ type.label ++ ": " ++ Text.quote type.spelling ++
      ">, required=" ++ required.shown ++ ", unique=" ++ unique.shown ++
      ", bigint=" ++ bigint.shown ++ ", indexed=" ++ indexed.shown ++
      ", field_name=" ++ fieldName.shown ++ ", references=" ++ references.shown ++
      ", default=" ++ shownDefault default ++ ")"

end

/-- The text of a value where a text stands for itself. -/
def Value.plain : Value → String
  | .text s => s
  | .computedKind k => "DefaultKind." ++ k.label
  | v => v.shown

def Reference.target (r : Reference) : String := r.model.plain ++ "." ++ r.column.plain

end Accrete
