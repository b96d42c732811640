import Accrete.Plan
import Accrete.Proofs.Planning.Difference

/-!
# What a plan holds

The outcome of planning, read back.

* `Plan.build_inv`      -- a plan holds one operation for each addition and each creation
* `Plan.build_difference_eq` -- which are those of what is lacking
* `Plan.MakesUpFor`     -- what the plan of a difference does
-/

namespace Accrete

theorem Extension.plan_inv {x : Extension} {d : Dialect} {op : Operation}
    (h : (x.plan d).outcome = .ok op) : op = .add (x.addition d) := by
  obtain ⟨_, _, h⟩ := Logged.outcome_bind_eq_ok.1 h
  obtain ⟨_, _, h⟩ := Logged.outcome_bind_eq_ok.1 h
  obtain ⟨_, _, h⟩ := Logged.outcome_bind_eq_ok.1 h
  exact (Except.ok.inj h).symm

theorem Table.plan_inv {t : Table} {d : Dialect} {op : Operation}
    (h : (t.plan d).outcome = .ok op) : op = .create (t.creation d) := by
  -- all that comes before the operation only checks or reports
  obtain ⟨_, _, h⟩ := Logged.outcome_bind_eq_ok.1 h
  obtain ⟨_, _, h⟩ := Logged.outcome_bind_eq_ok.1 h
  obtain ⟨_, _, h⟩ := Logged.outcome_bind_eq_ok.1 h
  obtain ⟨_, _, h⟩ := Logged.outcome_bind_eq_ok.1 h
  obtain ⟨_, _, h⟩ := Logged.outcome_bind_eq_ok.1 h
  obtain ⟨_, _, h⟩ := Logged.outcome_bind_eq_ok.1 h
  obtain ⟨_, _, h⟩ := Logged.outcome_bind_eq_ok.1 h
  exact (Except.ok.inj h).symm

/-- A table that passes declares the generated primary key in no way. -/
theorem Table.checkReserved_inv {t : Table} (h : t.checkReserved = .ok ()) :
    ∀ e ∈ t.fields, declaresKey e = false := by
  rw [checkReserved] at h
  cases hfield : t.reservedField? with
  | none =>
    have hnone : t.fields.find? declaresKey = none := by
      simpa [reservedField?] using hfield
    exact fun e he => by simpa using List.find?_eq_none.1 hnone e he
  | some key =>
    simp only [hfield] at h
    obtain ⟨_, _, h⟩ := Except.bind_eq_ok.1 h
    exact absurd h (by simp [throw, throwThe, MonadExceptOf.throw])

namespace Plan

variable {toCreate : List Table} {toAdd : List Extension} {d : Dialect} {plan : Plan}

/-- A plan holds an operation for each addition, and then one for each creation. -/
theorem build_inv (h : (build toCreate toAdd d).outcome = .ok plan) :
    ∃ tables, (creationOrder toCreate).outcome = .ok tables ∧
      (∀ t ∈ tables, t.checkReserved = .ok ()) ∧ plan.dialect = d ∧
      plan.operations = (extensionsByOrder toAdd).map (fun x => .add (x.addition d)) ++
        tables.map fun t => .create (t.creation d) := by
  obtain ⟨tables, htables, h⟩ := Logged.outcome_bind_eq_ok.1 h
  obtain ⟨⟨⟩, hreserved, h⟩ := Logged.outcome_bind_eq_ok.1 h
  obtain ⟨additions, hadditions, h⟩ := Logged.outcome_bind_eq_ok.1 h
  obtain ⟨creations, hcreations, h⟩ := Logged.outcome_bind_eq_ok.1 h
  have hadded : (extensionsByOrder toAdd).map (fun x => .add (x.addition d)) = additions :=
    map_eq_of_forall₂
      ((Logged.outcome_mapM_eq_ok.1 hadditions).imp fun _ _ hop => (Extension.plan_inv hop).symm)
  have hcreated : tables.map (fun t => .create (t.creation d)) = creations :=
    map_eq_of_forall₂
      ((Logged.outcome_mapM_eq_ok.1 hcreations).imp fun _ _ hop => (Table.plan_inv hop).symm)
  obtain rfl := Except.ok.inj h
  exact ⟨tables, htables, Except.forM_eq_ok.1 hreserved, rfl, by rw [hadded, hcreated]⟩

/-- A plan makes up for what a live database lacks of a schema: it has one operation for each
    table that is lacking, and one for each table that lacks columns. -/
structure MakesUpFor (p : Plan) (entries : List SchemaEntry) (live : List LiveTable)
    (d : Dialect) : Prop where
  mem_operations_iff : ∀ op, op ∈ p.operations ↔
    (∃ u, .table u ∈ entries ∧ liveTable? live u.name = none ∧
      op = .create (u.complete.creation d)) ∨
    (∃ u l x, .table u ∈ entries ∧ liveTable? live u.name = some l ∧ u.extension? l = some x ∧
      op = .add (x.addition d))
  nodup : (p.operations.map Operation.table).Nodup
  declares_no_key : ∀ u, .table u ∈ entries → liveTable? live u.name = none →
    ∀ e ∈ u.fields, Table.declaresKey e = false

variable {entries : List SchemaEntry} {live : List LiveTable} {found : Difference}

/-- The plan of a difference extends the tables that lack columns, in ascending order, and then
    creates those that are lacking. -/
theorem build_difference_eq (names : (entries.map SchemaEntry.name).Nodup)
    (hfound : (difference entries live d).outcome = .ok found)
    (hplan : (build found.toCreate found.toAdd d).outcome = .ok plan) :
    (extensionsByOrder found.toAdd).Perm (SchemaEntry.extensions live entries) ∧
      ∃ tables, tables.Perm (SchemaEntry.creations live entries) ∧
        (creationOrder found.toCreate).outcome = .ok tables ∧
        (∀ t ∈ tables, t.checkReserved = .ok ()) ∧ plan.dialect = d ∧
        plan.operations = (extensionsByOrder found.toAdd).map (fun x => .add (x.addition d)) ++
          tables.map (fun t => .create (t.creation d)) := by
  obtain ⟨hcreate, hadd, _⟩ := difference_inv hfound
  obtain ⟨tables, htables, hreserved, hdialect, hoperations⟩ := build_inv hplan
  have hcreations := (List.nodup_append.1 (nodup_lacking live names)).2.1
  have hfoundPerm := creationOrder_perm hcreations hcreate
  have htablesPerm := creationOrder_perm ((hfoundPerm.map _).nodup_iff.2 hcreations) htables
  refine ⟨?_, tables, htablesPerm.trans hfoundPerm, htables, hreserved, hdialect, hoperations⟩
  rw [hadd]
  exact (byOrderAndName_perm ..).trans (byOrderAndName_perm ..)

/-- The plan of a difference is made of its additions and its creations. -/
theorem build_difference_inv (names : (entries.map SchemaEntry.name).Nodup)
    (hfound : (difference entries live d).outcome = .ok found)
    (hplan : (build found.toCreate found.toAdd d).outcome = .ok plan) :
    ∃ (additions : List Extension) (tables : List Table),
      additions.Perm (SchemaEntry.extensions live entries) ∧
      tables.Perm (SchemaEntry.creations live entries) ∧
      (creationOrder found.toCreate).outcome = .ok tables ∧
      (∀ t ∈ tables, t.checkReserved = .ok ()) ∧
      plan.operations = additions.map (fun x => .add (x.addition d)) ++
        tables.map (fun t => .create (t.creation d)) := by
  obtain ⟨hadditions, tables, htables, hordered, hreserved, -, hoperations⟩ :=
    build_difference_eq names hfound hplan
  exact ⟨_, tables, hadditions, htables, hordered, hreserved, hoperations⟩

theorem build_difference_makesUpFor (names : (entries.map SchemaEntry.name).Nodup)
    (hfound : (difference entries live d).outcome = .ok found)
    (hplan : (build found.toCreate found.toAdd d).outcome = .ok plan) :
    plan.MakesUpFor entries live d := by
  obtain ⟨additions, tables, hadditions, htables, _, hreserved, hoperations⟩ :=
    build_difference_inv names hfound hplan
  refine ⟨fun op => ?_, ?_, fun u hu hl => ?_⟩
  · simp only [hoperations, List.mem_append, List.mem_map, hadditions.mem_iff, htables.mem_iff,
      SchemaEntry.mem_creations, SchemaEntry.mem_extensions]
    constructor
    · rintro (⟨x, ⟨u, l, hu, hl, hx⟩, rfl⟩ | ⟨t, ⟨u, hu, hl, rfl⟩, rfl⟩)
      · exact .inr ⟨u, l, x, hu, hl, hx, rfl⟩
      · exact .inl ⟨u, hu, hl, rfl⟩
    · rintro (⟨u, hu, hl, rfl⟩ | ⟨u, l, x, hu, hl, hx, rfl⟩)
      · exact .inr ⟨_, ⟨u, hu, hl, rfl⟩, rfl⟩
      · exact .inl ⟨x, ⟨u, l, hu, hl, hx⟩, rfl⟩
  · -- a table is not both extended and created
    have hnames : plan.operations.map Operation.table =
        additions.map Extension.table ++ tables.map Table.name := by
      rw [hoperations, List.map_append, List.map_map, List.map_map]
      rfl
    rw [hnames]
    exact ((hadditions.map _).append (htables.map _)).nodup_iff.2 (nodup_lacking live names)
  · have hmem : u.complete ∈ tables :=
      htables.mem_iff.2 (SchemaEntry.mem_creations.2 ⟨u, hu, hl, rfl⟩)
    exact Table.checkReserved_inv (hreserved u.complete hmem)

end Plan

end Accrete
