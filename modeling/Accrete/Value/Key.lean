import Accrete.Value.Misuse

/-!
# Keys

Values as keys of mappings and members of sets.

* `Value.sameKey`    -- whether two keys are the same
* `Value.notKey?`    -- the kind that keeps a value from being a key
* `Value.putEntry`   -- sets the value of a key in a mapping
* `Value.ofEntries`  -- the mapping with the given entries

Numbers and truth values are compared as numbers and a computed kind counts as its spelling.
Lists and mappings are no keys, nor is anything that holds one.
-/

namespace Accrete

/-- The number that a scalar counts as when keys are compared. -/
def Value.numeral? : Value → Option Number
  | .number n => some n
  | .bool b => some (.int (if b then 1 else 0))
  | _ => none

def Value.sameScalar (a b : Value) : Bool :=
  -- A truth value is the same key as the number zero or one.
  match a.numeral?, b.numeral?, a.text?, b.text? with
  | some m, some n, _, _ => m.same n
  | _, _, some s, some t => s == t
  | _, _, _, _ => a.isNull && b.isNull

mutual

def Value.sameKey : Value → Value → Bool
  | .reference r, .reference s => sameReference r s
  | .default d, .default e => sameDefault d e
  | .field f, .field g => sameField f g
  | a, b => a.sameScalar b

def sameReference : Reference → Reference → Bool
  | ⟨model, column, onDelete⟩, ⟨model', column', onDelete'⟩ =>
    model.sameKey model' && column.sameKey column' && onDelete == onDelete'

def sameDefault : Default → Default → Bool
  | .none, .none => true
  | .static v, .static w => v.sameKey w
  | .computed k, .computed l => k == l
  | _, _ => false

def sameField : Field → Field → Bool
  | ⟨type, required, unique, bigint, indexed, fieldName, references, default⟩,
    ⟨type', required', unique', bigint', indexed', fieldName', references', default'⟩ =>
    type == type' && required.sameKey required' && unique.sameKey unique' &&
      bigint.sameKey bigint' && indexed.sameKey indexed' && fieldName.sameKey fieldName' &&
      references.sameKey references' && sameDefault default default'

end

mutual

/-- The kind that keeps a value from being a key, which is its own or that of a part. -/
def Value.notKey? : Value → Option String
  | .list _ => some "list"
  | .mapping _ => some "dict"
  | .reference r => referenceNotKey? r
  | .default d => defaultNotKey? d
  | .field f => fieldNotKey? f
  | _ => none

def referenceNotKey? : Reference → Option String
  | ⟨model, column, _⟩ => model.notKey? <|> column.notKey?

def defaultNotKey? : Default → Option String
  | .static v => v.notKey?
  | _ => none

def fieldNotKey? : Field → Option String
  | ⟨_, required, unique, bigint, indexed, fieldName, references, default⟩ =>
    required.notKey? <|> unique.notKey? <|> bigint.notKey? <|> indexed.notKey? <|>
      fieldName.notKey? <|> references.notKey? <|> defaultNotKey? default

end

namespace Value

def checkKey (v : Value) : Except Misuse Unit :=
  match v.notKey? with
  | none => .ok ()
  | some kind => .error (.notKey kind)

def checkKeys (vs : List Value) : Except Misuse Unit := vs.forM checkKey

def isIn (v : Value) (vs : List Value) : Bool := vs.any v.sameKey

def sameKeys : List Value → List Value → Bool
  | [], [] => true
  | v :: vs, w :: ws => v.sameKey w && sameKeys vs ws
  | _, _ => false

/-- Adds an entry to a mapping.  A later entry of the same key replaces the value and keeps the
    place of the earlier one. -/
def putEntry (entries : List (Value × Value)) (key value : Value) : List (Value × Value) :=
  match entries with
  | [] => [(key, value)]
  | e :: rest =>
    if e.1.sameKey key then (e.1, value) :: rest else e :: putEntry rest key value

/-- The mapping with the given entries, the later ones winning, unless something that is no key
    stands for one. -/
def ofEntries (entries : List (Value × Value)) : Except Misuse Value := do
  checkKeys (entries.map Prod.fst)
  return .mapping (entries.foldl (fun es e => putEntry es e.1 e.2) [])

end Value

end Accrete
