import Accrete.Text.Case

/-!
# Kinds

The closed vocabularies of a field declaration.

* `LogicalType`   -- what a column holds, whatever the database calls it
* `ComputedKind`  -- defaults worked out when a row is written
* `OnDelete`      -- an accepted spelling of what happens to rows whose target is deleted
-/

namespace Accrete

/-- The type of a column, independent of any database. -/
inductive LogicalType where
  | string | number | boolean | date | timezone | json | stringArray | numberArray
deriving DecidableEq, Repr, Inhabited

namespace LogicalType

def all : List LogicalType :=
  [.string, .number, .boolean, .date, .timezone, .json, .stringArray, .numberArray]

def spelling : LogicalType → String
  | .string => "string"
  | .number => "number"
  | .boolean => "boolean"
  | .date => "date"
  | .timezone => "timezone"
  | .json => "json"
  | .stringArray => "string[]"
  | .numberArray => "number[]"

def label : LogicalType → String
  | .string => "STRING"
  | .number => "NUMBER"
  | .boolean => "BOOLEAN"
  | .date => "DATE"
  | .timezone => "TIMEZONE"
  | .json => "JSON"
  | .stringArray => "STRING_ARRAY"
  | .numberArray => "NUMBER_ARRAY"

def ofSpelling? (s : String) : Option LogicalType := all.find? fun t => t.spelling == s

/-- Whether values are arrays, which are always stored as serialised JSON. -/
def isArray : LogicalType → Bool
  | .stringArray | .numberArray => true
  | _ => false

end LogicalType

/-- A default that is worked out when a row is written: the current time, or a truth value. -/
inductive ComputedKind where
  | now | yes | no
deriving DecidableEq, Repr, Inhabited

namespace ComputedKind

def all : List ComputedKind := [.now, .yes, .no]

def spelling : ComputedKind → String
  | .now => "now"
  | .yes => "true"
  | .no => "false"

def label : ComputedKind → String
  | .now => "NOW"
  | .yes => "TRUE"
  | .no => "FALSE"

def ofSpelling? (s : String) : Option ComputedKind := all.find? fun k => k.spelling == s

end ComputedKind

/-- The actions that a reference may ask for, in upper case. -/
def OnDelete.actions : List String := ["CASCADE", "SET NULL", "RESTRICT", "NO ACTION"]

/-- An accepted delete action.  Its spelling is kept as given; only its upper-case form is one
    of the four actions. -/
structure OnDelete where
  spelling : String
  isAction : Text.upper spelling ∈ OnDelete.actions
deriving DecidableEq

namespace OnDelete

def ofSpelling? (s : String) : Option OnDelete :=
  if h : Text.upper s ∈ actions then some ⟨s, h⟩ else none

def action (o : OnDelete) : String := Text.upper o.spelling

end OnDelete

end Accrete
