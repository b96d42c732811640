import Accrete.Value.Misuse
import Accrete.Value.Shown

/-!
# Faults of declarations

Why a declaration is refused.

* `Fault`             -- a cause and the place it was found: a table, a field, both or neither
* `DeclarationError`  -- a fault, or a misuse of a value, which is not about the declaration's
                         contract and so is never skipped over
-/

namespace Accrete

/-- What is wrong with a declaration. -/
inductive Fault.Cause where
  /-- A field declaration is not a mapping but a value of another kind. -/
  | fieldNotMapping (kind : String)
  /-- A field bag is not a mapping but a value of another kind. -/
  | bagNotMapping (kind : String)
  /-- A key of a field bag is not a text, or is empty. -/
  | badKey (key : Value)
  | typeMissing
  | typeUnknown (given : Value)
  /-- A flag holds something else than a truth value. -/
  | flagNotBoolean (flag : String)
  | fieldNameNotText
  /-- A reference is neither a text nor a mapping with a model. -/
  | referenceWithoutModel
  /-- The model of a reference is empty. -/
  | modelMissing
  | actionUnknown (given : Value)
  /-- An index or a constraint names columns that its table lacks, which are listed. -/
  | columnsUnknown (listed : String)

/-- A cause and the place it was found. -/
structure Fault where
  table : Option String
  field : Option String
  cause : Fault.Cause

namespace Fault

def Cause.message : Cause → String
  | .fieldNotMapping kind => "expected a mapping, got " ++ kind
  | .bagNotMapping kind => "fields must be a mapping, got " ++ kind
  | .badKey key => "invalid field key " ++ key.shown
  | .typeMissing => "missing 'type'"
  | .typeUnknown given => "unknown type " ++ given.shown
  | .flagNotBoolean flag => "'" ++ flag ++ "' must be a boolean"
  | .fieldNameNotText => "'field_name' must be a string"
  | .referenceWithoutModel => "'references' must name a target model"
  | .modelMissing => "reference requires a target model"
  | .actionUnknown given =>
    "unknown on_delete action " ++ given.shown ++ ", expected one of " ++
      ", ".intercalate OnDelete.actions
  | .columnsUnknown listed => "index or constraint on unknown column(s) " ++ listed

/-- The place of a fault: the table and the field that are given and not empty, joined by a
    point. -/
def place (table field : Option String) : String :=
  ".".intercalate ([table, field].filterMap fun part => part.filter (!·.isEmpty))

def atPlace (table field : Option String) (text : String) : String :=
  let place := place table field
  if place.isEmpty then text else place ++ ": " ++ text

def message (f : Fault) : String := atPlace f.table f.field f.cause.message

end Fault

/-- Why reading a declaration stopped. -/
inductive DeclarationError where
  /-- The declaration breaks the contract. -/
  | refused (fault : Fault)
  /-- A value of another kind than its use asks for. -/
  | misused (cause : Misuse)

end Accrete
