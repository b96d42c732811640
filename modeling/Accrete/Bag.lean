import Accrete.Field.Declared
import Accrete.Value.Key

/-!
# Field bags

The fields of a table by physical column name, in order of first declaration.

* `Bag.put`      -- sets the field of a column; a new column goes to the end
* `Bag.merge`    -- lays one bag over another, the later fields winning
* `Bag.ofValue`  -- reads a bag from a loose value, keyed by physical names
* `Bag.overlay`  -- reads a loose bag and lays it over a read one

A physical name is a text unless a field that was made ready states something else.
-/

namespace Accrete

/-- Fields by physical column name. -/
abbrev Bag := List (Value × Field)

namespace Bag

def names (b : Bag) : List Value := b.map Prod.fst

def get? (b : Bag) (name : Value) : Option Field :=
  (b.find? fun e => e.1.sameKey name).map Prod.snd

/-- Sets the field of a column, which keeps its place and its name if it has one. -/
def put (b : Bag) (name : Value) (f : Field) : Bag :=
  match b with
  | [] => [(name, f)]
  | e :: rest => if e.1.sameKey name then (e.1, f) :: rest else e :: put rest name f

def merge (base overlay : Bag) : Bag :=
  overlay.foldl (fun b e => b.put e.1 e.2) base

/-- The same error, placed at a table, and at a key unless it already names a field. -/
def placeError (table : Option String) (key : String) : DeclarationError → DeclarationError
  | .refused fault =>
    let field := match fault.field with
      | some name => if name.isEmpty then key else name
      | none => key
    .refused ⟨table, some field, fault.cause⟩
  | .misused cause => .misused cause

/-- The key of a bag's entry, which has to be a text that is not empty. -/
def readKey (table : Option String) (key : Value) : Except DeclarationError String :=
  match key.text? with
  | some s => if s.isEmpty then .error (.refused ⟨table, none, .badKey key⟩) else .ok s
  | none => .error (.refused ⟨table, none, .badKey key⟩)

/-- Reads one entry of a bag: its key, then its field.  The result is keyed by the physical
    column name, which has to be a key. -/
def readEntry (table : Option String) (key value : Value) :
    Except DeclarationError (Value × Field) := do
  let name ← readKey table key
  -- Faults name the key as it is written, and the result the column.
  let f ← (Field.ofValue (some name) value).mapError (placeError table name)
  (f.columnName key).checkKey.mapError DeclarationError.misused
  return (f.columnName key, f)

/-- Reads the entries of a bag in order into the columns read so far. -/
def readEntries (table : Option String) :
    Bag → List (Value × Value) → Except DeclarationError Bag
  | b, [] => .ok b
  | b, e :: rest => do
    let (name, f) ← readEntry table e.1 e.2
    readEntries table (b.put name f) rest

/-- Reads a bag from a loose value.  `table` is the place that faults report. -/
def ofValue (table : Option String) : Value → Except DeclarationError Bag
  | .mapping entries => readEntries table [] entries
  | v => .error (.refused ⟨table, none, .bagNotMapping v.kindName⟩)

/-- Reads a loose bag and lays it over a base.  Nothing is merged unless all of it is read. -/
def overlay (table : Option String) (base : Bag) (v : Value) : Except DeclarationError Bag := do
  return base.merge (← ofValue table v)

/-- The loose value that a bag is read back from. -/
def toValue (b : Bag) : Value := .mapping (b.map fun e => (e.1, .field e.2))

end Bag

end Accrete
