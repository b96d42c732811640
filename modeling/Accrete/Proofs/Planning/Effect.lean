import Accrete.Plan
import Mathlib.Data.List.Nodup

/-!
# The effect of a plan

What a live database looks like after a plan has been carried out.

* `Operation.applyTo`, `Plan.applyTo`   -- live tables after an operation, and after a plan
* `liveTable?_applyTo`                  -- an operation changes one table and no other
* `Plan.liveTable?_applyTo_of_mem`      -- a plan does to a table what its one operation does
-/

namespace Accrete

/-- A column as a database reports it once it is there. -/
def Column.live? (c : Column) : Option LiveColumn :=
  c.name.text?.map fun s => ⟨s, c.type, c.nullable⟩

namespace Operation

/-- The columns of an operation as a database reports them once they are there. -/
def liveColumns (op : Operation) : List LiveColumn := op.columns.filterMap Column.live?

/-- The live tables after an operation. -/
def applyTo (live : List LiveTable) : Operation → List LiveTable
  | .create c => live ++ [⟨c.table, (create c).liveColumns⟩]
  | .add a => live.map fun t =>
    if t.name = a.table then { t with columns := t.columns ++ (add a).liveColumns } else t

/-- What an operation makes of its table. -/
def onTable : Operation → Option LiveTable → Option LiveTable
  | .create c, _ => some ⟨c.table, (create c).liveColumns⟩
  | .add a, t => t.map fun t => { t with columns := t.columns ++ (add a).liveColumns }

end Operation

/-- An operation changes its own table and no other. -/
theorem liveTable?_applyTo (op : Operation) (live : List LiveTable) (name : String) :
    liveTable? (op.applyTo live) name =
      if op.table = name then op.onTable (liveTable? live name) else liveTable? live name := by
  cases op with
  | create c =>
    rw [Operation.applyTo, liveTable?, List.reverse_append, List.reverse_singleton,
      List.singleton_append, List.find?_cons]
    by_cases h : c.table = name
    · simp [h, Operation.table, Operation.onTable]
    · simp [h, Operation.table, liveTable?]
  | add a =>
    -- no table changes its name, so that the same ones are found
    have hname : ∀ t : LiveTable, (if t.name = a.table then
        { t with columns := t.columns ++ (Operation.add a).liveColumns } else t).name = t.name := by
      intro t
      split <;> rfl
    rw [Operation.applyTo, liveTable?, ← List.map_reverse, List.find?_map]
    simp only [Function.comp_def, hname]
    rw [← liveTable?]
    have htable : (Operation.add a).table = a.table := rfl
    by_cases h : a.table = name
    · rw [htable, if_pos h, Operation.onTable]
      refine Option.map_congr fun t ht => if_pos ?_
      rw [h]
      simpa using List.find?_some ht
    · rw [htable, if_neg h]
      refine (Option.map_congr fun t ht => if_neg ?_).trans Option.map_id'
      rw [show t.name = name by simpa using List.find?_some ht]
      exact Ne.symm h

namespace Plan

/-- The live tables after a plan. -/
def applyTo (p : Plan) (live : List LiveTable) : List LiveTable :=
  p.operations.foldl (fun live op => op.applyTo live) live

theorem liveTable?_applyTo_of_notMem {p : Plan} {live : List LiveTable} {name : String}
    (h : name ∉ p.operations.map Operation.table) :
    liveTable? (p.applyTo live) name = liveTable? live name := by
  rw [applyTo]
  generalize p.operations = ops at h
  induction ops generalizing live with
  | nil => rfl
  | cons op ops ih =>
    rw [List.map_cons, List.mem_cons, not_or] at h
    rw [List.foldl_cons, ih h.2, Accrete.liveTable?_applyTo, if_neg (Ne.symm h.1)]

/-- A plan does to a table what its one operation on that table does. -/
theorem liveTable?_applyTo_of_mem {p : Plan} {live : List LiveTable}
    (hnodup : (p.operations.map Operation.table).Nodup) {op : Operation}
    (h : op ∈ p.operations) :
    liveTable? (p.applyTo live) op.table = op.onTable (liveTable? live op.table) := by
  obtain ⟨before, after, hsplit⟩ := List.append_of_mem h
  rw [hsplit, List.map_append, List.map_cons, List.nodup_middle, List.nodup_cons,
    List.mem_append, not_or] at hnodup
  -- the operations before and after it act on other tables
  have happly : p.applyTo live = (Plan.mk p.dialect after).applyTo
      (op.applyTo ((Plan.mk p.dialect before).applyTo live)) := by
    simp [applyTo, hsplit]
  rw [happly, liveTable?_applyTo_of_notMem hnodup.1.2, Accrete.liveTable?_applyTo, if_pos rfl,
    liveTable?_applyTo_of_notMem hnodup.1.1]

end Plan

end Accrete
