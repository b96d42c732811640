import Accrete.Schema

/-!
# Creation order

The order in which tables are created: ascending by order, and within one order every table
after the tables it references, with the smallest name first wherever there is a choice.

* `byOrderAndName`        -- sorting by order, then by name
* `orderGroups`           -- runs of equal order
* `Pending.settle`        -- the tables of one order, referenced ones first
* `orderGroup`            -- the same, with a warning if there is a cycle
* `creationOrder`         -- all orders in sequence

Tables that can reach a cycle never become ready; they follow the others in name order.  Each order
is settled after its references have been checked, so what earlier orders report is kept when a
reference of a later one can name no table.
-/

namespace Accrete

/-- Whether an order and a name come no later than another order and name. -/
def orderedBefore (order : Number) (name : String) (order' : Number) (name' : String) : Bool :=
  order.lt order' || (order.same order' && decide (name ≤ name'))

/-- Things sorted by order, then by name; those that agree in both keep their order. -/
def byOrderAndName {α : Type} (order : α → Number) (name : α → String) (xs : List α) : List α :=
  xs.mergeSort fun a b => orderedBefore (order a) (name a) (order b) (name b)

/-- Things cut into runs of equal order. -/
def orderGroups {α : Type} (order : α → Number) (xs : List α) : List (List α) :=
  xs.splitBy fun a b => (order a).same (order b)

def Table.referencesTable (t : Table) (name : String) : Bool :=
  t.fields.any fun e => match e.2.reference? with
    | none => false
    | some r => r.model.text? == some name

/-- Refuses a field whose reference is none, or names its table by something that is no key. -/
def Field.checkReference (f : Field) : Except Misuse Unit :=
  match f.references with
  | .null => .ok ()
  | .reference r => r.model.checkKey
  | v => .error (v.lacks "model")

/-- Refuses a table with a reference that cannot be followed. -/
def Table.checkReferences (t : Table) : Except Misuse Unit :=
  t.fields.forM fun e => e.2.checkReference

namespace Pending

/-- Whether a table references none of the tables still pending, itself apart. -/
def isReady (pending : List Table) (t : Table) : Bool :=
  pending.all fun u => u.name == t.name || !t.referencesTable u.name

/-- Takes tables from a list sorted by name: as long as some table is ready, the first such.
    Yields the tables taken, in order, and those left over. -/
def settle (pending : List Table) : List Table × List Table :=
  match h : pending.findIdx? (isReady pending) with
  | none => ([], pending)
  | some i =>
    have : (pending.eraseIdx i).length < pending.length := by
      have := (List.findIdx?_eq_some_iff_getElem.1 h).1
      rw [List.length_eraseIdx]
      split <;> omega
    -- The search starts over, since the table taken may have been the last one in the way.
    let (taken, left) := settle (pending.eraseIdx i)
    ((pending[i]?).toList ++ taken, left)
termination_by pending.length

end Pending

/-- The tables of one order, sorted by name, with referenced ones first.  Of several tables with
    one name only the last counts. -/
def orderGroup (group : List Table) : List Event × List Table :=
  let distinct := group.foldl Schema.put []
  let (taken, left) := Pending.settle distinct
  -- The whole group is counted, so a repeated name is told as a cycle as well.
  let events := match group with
    | [] => []
    | t :: _ =>
      if taken.length < group.length then [.cycleBroken (left.map (·.name)) t.order] else []
  (events, taken ++ left)

/-- Things in creation order, given how the things of one order become tables. -/
def creationOrderBy {α : Type} (order : α → Number) (name : α → String)
    (read : α → Except Misuse Table) (xs : List α) : Logged (List Table) := do
  let groups ← (orderGroups order (byOrderAndName order name xs)).mapM fun group => do
    let tables ← Logged.ofExcept ((group.mapM read).mapError Error.misused)
    Logged.ofPair (orderGroup tables)
  return groups.flatten

/-- The tables in creation order, and a warning for each order that has a cycle. -/
def creationOrder (ts : List Table) : Logged (List Table) :=
  creationOrderBy Table.order Table.name (fun t => do t.checkReferences; return t) ts

end Accrete
