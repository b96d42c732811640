import Accrete.Field
import Accrete.Text.Numeral

/-!
# Misuse of values

Loose values may end up where only some kinds of value are of use.

* `Misuse`          -- why a value cannot be used
* `Misuse.message`  -- its wording
* `Value.join`      -- texts joined by a separator
-/

namespace Accrete

/-- Why a value cannot be used; kinds are named as in messages. -/
inductive Misuse where
  | lacks (kind part : String)
  /-- The value cannot be a key. -/
  | notKey (kind : String)
  /-- Two values cannot be put in order. -/
  | notOrdered (left right : String)
  /-- An item of a list cannot be joined to the others, not being a text. -/
  | notJoined (item : Nat) (kind : String)
  /-- A text of digits is too long to be read. -/
  | tooManyDigits (digits : Nat)
deriving DecidableEq, Repr

namespace Misuse

def message : Misuse → String
  | .lacks kind part => "'" ++ kind ++ "' object has no attribute '" ++ part ++ "'"
  | .notKey kind => "unhashable type: '" ++ kind ++ "'"
  | .notOrdered left right =>
    "'<' not supported between instances of '" ++ left ++ "' and '" ++ right ++ "'"
  | .notJoined item kind =>
    "sequence item " ++ toString item ++ ": expected str instance, " ++ kind ++ " found"
  | .tooManyDigits digits => Text.Numeral.tooLongMessage digits

end Misuse

namespace Value

def lacks (v : Value) (part : String) : Misuse := .lacks v.kindName part

def texts (item : Nat) : List Value → Except Misuse (List String)
  | [] => .ok []
  | v :: rest => match v.text? with
    | some s => do return s :: (← texts (item + 1) rest)
    | none => .error (.notJoined item v.kindName)

def join (separator : String) (vs : List Value) : Except Misuse String := do
  return separator.intercalate (← texts 0 vs)

end Value

end Accrete
