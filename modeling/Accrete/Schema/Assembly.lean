import Accrete.Schema

/-!
# Assembly

Fragments folded into one schema.

* `Schema.contribute`     -- one fragment laid over the schema so far
* `Schema.resolve`        -- references turned from logical keys to physical names
* `Schema.orderWarnings`  -- references to tables that are created later
* `Schema.assemble`       -- the three in sequence

A fragment whose fields are malformed is left out with a warning and the others still count.
-/

namespace Accrete.Schema

def start (f : Fragment) (fields : Bag) : Table :=
  ⟨f.tableName, fields, f.creationOrder, f.uniqueConstraints, f.indexes⟩

/-- A table after one more fragment: the merged fields, the smaller order, and all constraints
    and indexes. -/
def extend (t : Table) (f : Fragment) (fields : Bag) : Table :=
  { t with
    fields
    order := t.order.min f.creationOrder
    uniqueConstraints := t.uniqueConstraints ++ f.uniqueConstraints
    indexes := t.indexes ++ f.indexes }

def contribute (s : Schema) (f : Fragment) : Except DeclarationError Schema := do
  match s.find? f.tableName with
  | none =>
    let fields ← Bag.overlay (some f.tableName) [] f.fields
    return s.put (start f fields)
  | some t =>
    let fields ← Bag.overlay (some f.tableName) t.fields f.fields
    return s.put (extend t f fields)

/-- The schema after a list of fragments, and a warning for each that was left out. -/
def gather (s : Schema) : List Fragment → Logged Schema
  | [] => pure s
  | f :: rest =>
    match s.contribute f with
    | .ok s' => gather s' rest
    -- A refused fragment is left out as a whole; any other fault ends the assembly.
    | .error (.refused fault) => do
      Logged.report [.fragmentSkipped f.tableName fault]
      gather s rest
    | .error e => Logged.fail (.declaration e)

/-- The physical name that the last fragment with a logical key gives to its table. -/
def physicalName? (fragments : List Fragment) (key : String) : Option String :=
  (fragments.reverse.find? fun f => f.key = key).map Fragment.tableName

/-- A reference with its model turned to a physical name.  The model has to be a key. -/
def resolveReference (fragments : List Fragment) (r : Reference) : Except Misuse Reference := do
  r.model.checkKey
  match r.model.text?.bind (physicalName? fragments) with
  | none => return r
  | some name => return if r.model.text? = some name then r else { r with model := .text name }

/-- What a field states as its reference, with that resolved if there is one. -/
def resolveTarget (fragments : List Fragment) : Value → Except Misuse Value
  | .null => .ok .null
  | .reference r => .reference <$> resolveReference fragments r
  | v => .error (v.lacks "model")

def resolveField (fragments : List Fragment) (f : Field) : Except Misuse Field := do
  return { f with references := ← resolveTarget fragments f.references }

def resolveTable (fragments : List Fragment) (t : Table) : Except Misuse Table := do
  let fields ← t.fields.mapM fun e => do return (e.1, ← resolveField fragments e.2)
  return { t with fields }

def resolve (fragments : List Fragment) (s : Schema) : Except Misuse Schema :=
  s.mapM (resolveTable fragments)

/-- The other table of the schema that a field references, when that table is created later. -/
def laterTarget? (s : Schema) (t : Table) (f : Field) : Option Table := do
  let r ← f.reference?
  let name ← r.model.text?
  let target ← s.find? name
  if name ≠ t.name ∧ t.order.lt target.order then some target else none

/-- One warning for each reference to a table that is created later. -/
def orderWarnings (s : Schema) : List Event :=
  s.flatMap fun t => t.fields.filterMap fun e =>
    (laterTarget? s t e.2).map fun target =>
      .orderViolated t.name t.order target.name target.order e.1.plain

def assemble (fragments : List Fragment) : Logged Schema := do
  let gathered ← gather [] fragments
  let s ← Logged.ofExcept ((resolve fragments gathered).mapError Error.misused)
  Logged.report s.orderWarnings
  return s

end Accrete.Schema
