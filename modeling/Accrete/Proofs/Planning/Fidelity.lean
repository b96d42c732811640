import Accrete.Proofs.Planning.Idempotence

/-!
# Plans that follow a difference

A plan has the entries of a difference as its operations, in the sequence in which they are listed.

* `Column.IsOf`, `ColumnAddition.IsOf`, `TableCreation.IsOf` -- an operation made of an entry
* `Plan.Follows`                -- one operation for each entry, in the same sequence
* `build_difference_follows`    -- the plan of a difference follows it
-/

namespace Accrete

/-- A column made of a field, which is no primary key. -/
structure Column.IsOf (c : Column) (e : Value × Field) : Prop where
  name : c.name = e.1
  nullable : c.nullable = !e.2.isRequired
  unique : c.unique = e.2.unique
  references : c.references = e.2.references
  primaryKey : c.primaryKey = false

structure ColumnAddition.IsOf (a : ColumnAddition) (x : Extension) : Prop where
  table : a.table = x.table
  order : a.order = x.order
  indexes : a.indexes = x.indexes
  columns : List.Forall₂ Column.IsOf a.columns x.fields

/-- The key comes first, and no other column goes by its name. -/
structure TableCreation.IsOf (c : TableCreation) (t : Table) : Prop where
  table : c.table = t.name
  order : c.order = t.order
  uniqueConstraints : c.uniqueConstraints = t.uniqueConstraints
  indexes : c.indexes = t.indexes
  columns : ∃ key declared, c.columns = key :: declared ∧
    key.name = .text primaryKeyName ∧ key.nullable = false ∧ key.primaryKey = true ∧
    List.Forall₂ Column.IsOf declared t.fields ∧
    ∀ col ∈ declared, col.name.text? ≠ some primaryKeyName

/-- Columns are added first, then tables are created, each in the sequence of the difference. -/
structure Plan.Follows (p : Plan) (found : Difference) (d : Dialect) : Prop where
  dialect : p.dialect = d
  operations : ∃ additions creations,
    p.operations = additions.map .add ++ creations.map .create ∧
    List.Forall₂ ColumnAddition.IsOf additions found.toAdd ∧
    List.Forall₂ TableCreation.IsOf creations found.toCreate
  once : (p.operations.map Operation.table).Nodup

variable {d : Dialect}

theorem Bag.isOf_columns (b : Bag) (covered : Columns) :
    List.Forall₂ Column.IsOf (b.map fun e => e.2.column e.1 d covered) b := by
  rw [List.forall₂_map_left_iff]
  exact List.forall₂_same.2 fun e _ => ⟨rfl, rfl, rfl, rfl, rfl⟩

theorem Extension.isOf_addition (x : Extension) : (x.addition d).IsOf x :=
  ⟨rfl, rfl, rfl, Bag.isOf_columns x.fields x.groups.flatten⟩

theorem Table.isOf_creation {t : Table} (h : t.checkReserved = .ok ()) :
    (t.creation d).IsOf t := by
  refine ⟨rfl, rfl, rfl, rfl, keyColumn d, t.declaredColumns d, rfl, rfl, rfl, rfl,
    Bag.isOf_columns t.fields t.groups.flatten, fun col hcol hname => ?_⟩
  obtain ⟨e, he, rfl⟩ := List.mem_map.1 hcol
  -- a field of that name would have been refused
  have hfree : e.1.sameKey (.text primaryKeyName) = false :=
    (Bool.or_eq_false_iff.1 (checkReserved_inv h e he)).1
  replace hname : e.1.text? = some primaryKeyName := hname
  rw [Value.sameKey_of_text? hname rfl] at hfree
  simp at hfree

/-- Sorting what a difference lists changes nothing. -/
theorem difference_ordered {entries : List SchemaEntry} {live : List LiveTable}
    {found : Difference} (names : (entries.map SchemaEntry.name).Nodup)
    (hfound : (difference entries live d).outcome = .ok found) :
    extensionsByOrder found.toAdd = found.toAdd ∧
      (creationOrder found.toCreate).outcome = .ok found.toCreate := by
  obtain ⟨-, hcreate, hadd⟩ := difference_eq_ok.1 hfound
  obtain ⟨hextensions, hcreations, -⟩ := List.nodup_append.1 (nodup_lacking live names)
  constructor
  · have hperm := byOrderAndName_perm Extension.order Extension.table
      (SchemaEntry.extensions live entries)
    rw [hadd]
    exact byOrderAndName_congr ((hperm.map _).nodup_iff.2 hextensions) hperm
  · rw [creationOrder_idem hcreations hcreate]
    exact hcreate

/-- The plan of a difference follows it: planning sorts anew, but what is listed is sorted. -/
theorem build_difference_follows {entries : List SchemaEntry} {live : List LiveTable}
    {found : Difference} {plan : Plan} (names : (entries.map SchemaEntry.name).Nodup)
    (hfound : (difference entries live d).outcome = .ok found)
    (hplan : (Plan.build found.toCreate found.toAdd d).outcome = .ok plan) :
    plan.Follows found d := by
  obtain ⟨hadd, hcreate⟩ := difference_ordered names hfound
  obtain ⟨tables, htables, hreserved, hdialect, hoperations⟩ := Plan.build_inv hplan
  obtain rfl : tables = found.toCreate := Except.ok.inj (htables.symm.trans hcreate)
  rw [hadd] at hoperations
  constructor
  case dialect => exact hdialect
  case operations =>
    refine ⟨found.toAdd.map (·.addition d), found.toCreate.map (·.creation d), ?_, ?_, ?_⟩
    · rw [hoperations, List.map_map, List.map_map]
      rfl
    · rw [List.forall₂_map_left_iff]
      exact List.forall₂_same.2 fun x _ => x.isOf_addition
    · rw [List.forall₂_map_left_iff]
      exact List.forall₂_same.2 fun t ht => Table.isOf_creation (hreserved t ht)
  case once => exact (Plan.build_difference_makesUpFor names hfound hplan).nodup

theorem partlyLive_follows :
    let entries := [.malformed "cellar", .table partlyLive, .table notLive]
    (entries.map SchemaEntry.name).Nodup ∧ ∃ found plan,
      (difference entries [liveRoom] .mysql).outcome = .ok found ∧
      (Plan.build found.toCreate found.toAdd .mysql).outcome = .ok plan ∧
      plan.Follows found .mysql := by
  intro entries
  have names : (entries.map SchemaEntry.name).Nodup := by decide
  obtain ⟨found, plan, hfound, hplan⟩ := partlyLive_planned
  exact ⟨names, found, plan, hfound, hplan, build_difference_follows names hfound hplan⟩

end Accrete
