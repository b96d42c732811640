import Accrete.Proofs.Planning.Completion
import Accrete.Proofs.Planning.References
import Mathlib

/-!
# References of added columns

A plan adds columns before it creates tables.  So an added column may reference a table that is
created only later, whatever the orders of the two tables are.

* `Plan.AddsTooEarly`       -- a plan adds a column before the table that it references
* `plan_addsTooEarly_iff`   -- which it does just where a live table lacks such a column
-/

namespace Accrete

/-- A field references a table by name. -/
def Field.References (f : Field) (name : String) : Prop :=
  ∃ r, f.reference? = some r ∧ r.model.text? = some name

namespace Plan

variable {p : Plan} {additions : List Extension} {tables : List Table} {d : Dialect}

/-- An operation adds a column to a table, and a later one creates the table that the column
    references. -/
def AddsTooEarly (p : Plan) (table : String) (column : Value) (target : String) : Prop :=
  ∃ (i j : ℕ) (a : ColumnAddition) (c : TableCreation), i < j ∧
    p.operations[i]? = some (.add a) ∧ p.operations[j]? = some (.create c) ∧
    a.table = table ∧ c.table = target ∧
    ∃ col ∈ a.columns, col.name = column ∧
      ∃ r, col.reference? = some r ∧ r.model.text? = some target

theorem getElem?_operations_add
    (hoperations : p.operations = additions.map (fun x => .add (x.addition d)) ++
      tables.map fun t => .create (t.creation d))
    {i : ℕ} {a : ColumnAddition} (h : p.operations[i]? = some (.add a)) :
    i < additions.length := by
  rw [hoperations, List.getElem?_append] at h
  split at h
  next hlt => rwa [List.length_map] at hlt
  · simp at h

/-- Additions come before creations, wherever in the plan they are. -/
theorem exists_lt_of_mem_operations {toCreate : List Table} {toAdd : List Extension}
    (hplan : (build toCreate toAdd d).outcome = .ok p) {a : ColumnAddition} {c : TableCreation}
    (ha : .add a ∈ p.operations) (hc : .create c ∈ p.operations) :
    ∃ i j : ℕ, i < j ∧ p.operations[i]? = some (.add a) ∧
      p.operations[j]? = some (.create c) := by
  obtain ⟨tables, -, -, -, hoperations⟩ := build_inv hplan
  obtain ⟨i, hi⟩ := List.mem_iff_getElem?.1 ha
  obtain ⟨j, hj⟩ := List.mem_iff_getElem?.1 hc
  have hlt := getElem?_operations_add hoperations hi
  obtain ⟨k, t, hk, -, -⟩ := getElem?_operations_create hoperations hj
  exact ⟨i, j, by omega, hi, hj⟩

end Plan

namespace Table

/-- The columns that an extension adds are those of the missing fields. -/
theorem exists_column_addition_iff {t : Table} {l : LiveTable} {x : Extension} {d : Dialect}
    (hx : t.extension? l = some x) {column : Value} {target : String} :
    (∃ col ∈ (x.addition d).columns, col.name = column ∧
        ∃ r, col.reference? = some r ∧ r.model.text? = some target) ↔
      ∃ f, (column, f) ∈ t.fields ∧ l.column? column = none ∧ f.References target := by
  obtain ⟨-, hfields, -⟩ := extension?_inv hx
  simp only [Extension.addition, List.mem_map, hfields]
  constructor
  · rintro ⟨_, ⟨e, he, rfl⟩, rfl, hreferences⟩
    obtain ⟨hmem, hmissing⟩ := mem_missingFields.1 he
    exact ⟨e.2, hmem, hmissing, hreferences⟩
  · rintro ⟨f, hmem, hmissing, hreferences⟩
    exact ⟨_, ⟨_, mem_missingFields.2 ⟨hmem, hmissing⟩, rfl⟩, rfl, hreferences⟩

theorem exists_extension?_of_missing {t : Table} {l : LiveTable} {e : Value × Field}
    (he : e ∈ t.fields) (hmissing : l.column? e.1 = none) : ∃ x, t.extension? l = some x := by
  cases hx : t.extension? l with
  | some x => exact ⟨x, rfl⟩
  | none =>
    have hmem := mem_missingFields.2 ⟨he, hmissing⟩
    rw [missingFields_of_extension? hx] at hmem
    exact absurd hmem List.not_mem_nil

end Table

/-- A plan adds a column before the table that it references just where a live table lacks a
    column of the schema that references another table of the schema which is not live.  The
    orders of the two tables have no part in it. -/
theorem plan_addsTooEarly_iff {fragments : List Fragment} {schema : Schema}
    {live : List LiveTable} {d : Dialect} {found : Difference} {plan : Plan}
    (hassemble : (Schema.assemble fragments).outcome = .ok schema)
    (hfound : (difference schema.entries live d).outcome = .ok found)
    (hplan : (Plan.build found.toCreate found.toAdd d).outcome = .ok plan)
    (table : String) (column : Value) (target : String) :
    plan.AddsTooEarly table column target ↔
      (∃ t ∈ schema, t.name = table ∧ ∃ l, liveTable? live table = some l ∧
        ∃ f, (column, f) ∈ t.fields ∧ l.column? column = none ∧ f.References target) ∧
      ∃ u ∈ schema, u.name = target ∧ liveTable? live target = none := by
  have hmakes := Plan.build_difference_makesUpFor
    (Schema.entries_nodup (Schema.assemble_nodup hassemble)) hfound hplan
  constructor
  · rintro ⟨i, j, a, c, -, ha, hc, rfl, rfl, hcolumn⟩
    -- the addition is that of a live table, and the creation that of a table that is not live
    rcases (hmakes.mem_operations_iff _).1 (List.mem_of_getElem? ha) with
      ⟨_, _, _, heq⟩ | ⟨t, l, x, ht, hl, hx, heq⟩
    · exact absurd heq (by simp)
    rcases (hmakes.mem_operations_iff _).1 (List.mem_of_getElem? hc) with
      ⟨u, hu, hnone, heq'⟩ | ⟨_, _, _, _, _, _, heq'⟩
    swap
    · exact absurd heq' (by simp)
    obtain rfl := Operation.add.inj heq
    obtain rfl := Operation.create.inj heq'
    have hname : (x.addition d).table = t.name := Table.table_of_extension? hx
    exact ⟨⟨t, Schema.mem_entries.1 ht, hname.symm, l, hname ▸ hl,
      (Table.exists_column_addition_iff hx).1 hcolumn⟩, u, Schema.mem_entries.1 hu, rfl, hnone⟩
  · rintro ⟨⟨t, ht, rfl, l, hl, f, hf, hmissing, hreferences⟩, u, hu, rfl, hnone⟩
    obtain ⟨x, hx⟩ := Table.exists_extension?_of_missing hf hmissing
    have ha : .add (x.addition d) ∈ plan.operations := (hmakes.mem_operations_iff _).2
      (.inr ⟨t, l, x, Schema.mem_entries.2 ht, hl, hx, rfl⟩)
    have hc : .create (u.complete.creation d) ∈ plan.operations := (hmakes.mem_operations_iff _).2
      (.inl ⟨u, Schema.mem_entries.2 hu, hnone, rfl⟩)
    obtain ⟨i, j, hlt, hi, hj⟩ := Plan.exists_lt_of_mem_operations hplan ha hc
    exact ⟨i, j, _, _, hlt, hi, hj, Table.table_of_extension? hx, rfl,
      (Table.exists_column_addition_iff hx).2 ⟨f, hf, hmissing, hreferences⟩⟩

/-- A table that references one of a smaller order. -/
def pinnedPost : List Fragment :=
  [⟨"post", .mapping [(.text "title", .mapping [(.text "type", .text "string")])],
      some (.infinite true), none, [], []⟩,
    ⟨"user", .mapping [(.text "pinned", .mapping
      [(.text "type", .text "string"), (.text "references", .text "post")])], none, none, [], []⟩]

/-- The table that is referenced. -/
def pinnedTable : Table :=
  ⟨"post", [(.text "title", Field.plain .string)], .infinite true, [], []⟩

/-- The table that references it. -/
def pinningTable : Table :=
  ⟨"user", [(.text "pinned", { Field.plain .string with
    references := .reference ⟨.text "post", .text "id", none⟩ })], Number.infinity, [], []⟩

def pinnedSchema : Schema := [pinnedTable, pinningTable]

theorem assemble_pinnedPost : (Schema.assemble pinnedPost).outcome = .ok pinnedSchema := by cbv

/-- A live table without the column that references. -/
def liveUser : LiveTable := ⟨"user", [⟨"id", "TEXT", false⟩]⟩

def livePost : LiveTable := ⟨"post", [⟨"id", "TEXT", false⟩, ⟨"title", "TEXT", false⟩]⟩

/-- Where the other table is live too, nothing is added before what it references. -/
theorem pinned_to_live_post :
    ∃ schema found plan,
      (Schema.assemble pinnedPost).outcome = .ok schema ∧
      (difference schema.entries [liveUser, livePost] .sqlite).outcome = .ok found ∧
      (Plan.build found.toCreate found.toAdd .sqlite).outcome = .ok plan ∧
      ∀ table column target, ¬ plan.AddsTooEarly table column target := by
  have hfound : (difference pinnedSchema.entries [liveUser, livePost] .sqlite).outcome = .ok
      ⟨[], [⟨"user", pinningTable.fields, Number.infinity, []⟩]⟩ := by cbv
  have hplan : (Plan.build [] [⟨"user", pinningTable.fields, Number.infinity, []⟩]
      .sqlite).outcome.isOk = true := by decide +kernel
  obtain ⟨plan, hplan⟩ := Except.eq_ok_of_isOk hplan
  refine ⟨_, _, plan, assemble_pinnedPost, hfound, hplan, fun table column target hearly => ?_⟩
  obtain ⟨u, hu, rfl, hnone⟩ :=
    ((plan_addsTooEarly_iff assemble_pinnedPost hfound hplan table column target).1 hearly).2
  -- no table is created, since all of them are live
  have hlive : ∀ u ∈ pinnedSchema, (liveTable? [liveUser, livePost] u.name).isSome = true := by
    simp only [pinnedSchema, List.forall_mem_cons]
    exact ⟨by decide, by decide, by simp⟩
  simpa [hnone] using hlive u hu

/-- Whether an event reports a cycle. -/
def Event.isCycle : Event → Bool
  | .cycleBroken .. => true
  | _ => false

/-- No order violation and no cycle is reported, and still a column is added before the table that
    it references. -/
theorem pinned_addsTooEarly :
    ∃ schema found plan,
      (Schema.assemble pinnedPost).outcome = .ok schema ∧
      (Schema.assemble pinnedPost).events = [] ∧
      (difference schema.entries [liveUser] .sqlite).outcome = .ok found ∧
      (difference schema.entries [liveUser] .sqlite).events = [] ∧
      (Plan.build found.toCreate found.toAdd .sqlite).outcome = .ok plan ∧
      ReportsNoCycle (Plan.build found.toCreate found.toAdd .sqlite).events ∧
      plan.AddsTooEarly "user" (.text "pinned") "post" := by
  let pinned : Extension := ⟨"user", pinningTable.fields, Number.infinity, []⟩
  have hfound : (difference pinnedSchema.entries [liveUser] .sqlite).outcome =
      .ok ⟨[pinnedTable], [pinned]⟩ := by cbv
  -- a cycle would be reported when the plan is made
  have hsilent : (Plan.build [pinnedTable] [pinned] .sqlite).events.all
      (fun e => !e.isCycle) = true := by decide +kernel
  have hplan : (Plan.build [pinnedTable] [pinned] .sqlite).outcome.isOk = true := by decide +kernel
  obtain ⟨plan, hplan⟩ := Except.eq_ok_of_isOk hplan
  refine ⟨_, _, plan, assemble_pinnedPost, by cbv, hfound, by cbv, hplan, ?_, ?_⟩
  · intro names o hmem
    exact absurd (List.all_eq_true.1 hsilent _ hmem) (by simp [Event.isCycle])
  · obtain ⟨tables, htables, -, -, hoperations⟩ := Plan.build_inv hplan
    have hordered : (creationOrder [pinnedTable]).outcome = .ok [pinnedTable] := by cbv
    obtain rfl := Except.ok.inj (hordered.symm.trans htables)
    have hsorted : extensionsByOrder [pinned] = [pinned] := by cbv
    rw [hsorted] at hoperations
    exact ⟨0, 1, pinned.addition .sqlite, pinnedTable.creation .sqlite, by decide,
      by rw [hoperations]; rfl, by rw [hoperations]; rfl, rfl, rfl,
      _, List.mem_singleton_self _, rfl, _, rfl, rfl⟩

end Accrete
