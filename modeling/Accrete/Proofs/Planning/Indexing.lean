import Accrete.Proofs.Assembly.Contribution
import Accrete.Proofs.Planning.ColumnAgreement
import Accrete.Proofs.Planning.Comparison
import Accrete.Proofs.Planning.IndexNames
import Accrete.Proofs.Writing.Addition
import Mathlib

/-!
# What the indexes of a plan are over

* `Operation.Covers`           -- an index or a constraint of an operation names a column
* `Plan.type_ne_text_of_covers` -- no column of unbounded text is covered where that cannot be
* `AreKeyed`                   -- tables and columns that can be told apart by their keys
* `Extension.CarriesIndexesOf` -- of the indexes of a table, those over columns that are added
* `Operation.IndexesAlone`     -- a column is unique, or an index is over it and no other
* `difference_indexes`         -- what is added and created is indexed as it was declared
-/

namespace Accrete

namespace Operation

def uniqueConstraints : Operation → List Columns
  | .create c => c.uniqueConstraints
  | .add _ => []

/-- The indexes that an operation states.  What a dialect makes of unique columns is not among
    them. -/
def statedIndexes : Operation → List Index
  | .create c => c.indexes
  | .add a => a.indexes

/-- The values of a column are kept in an index: it is unique, or a constraint or an index names
    it. -/
def Covers (op : Operation) (c : Column) : Prop :=
  c.isUnique = true ∨ (∃ g ∈ op.uniqueConstraints, c.name.isIn g = true) ∨
    ∃ i ∈ op.statedIndexes, c.name.isIn i.columns = true

def groups (op : Operation) : List Columns :=
  op.uniqueConstraints ++ op.statedIndexes.map (·.columns)

theorem covers_iff {op : Operation} {c : Column} :
    op.Covers c ↔ c.isUnique = true ∨ c.name.isIn op.groups.flatten = true := by
  simp only [Covers, Value.isIn_flatten, groups, List.mem_append, List.mem_map]
  refine or_congr_right ⟨?_, ?_⟩
  · rintro (⟨g, hg, hin⟩ | ⟨i, hi, hin⟩)
    · exact ⟨g, .inl hg, hin⟩
    · exact ⟨i.columns, .inr ⟨i, hi, rfl⟩, hin⟩
  · rintro ⟨g, hg | ⟨i, hi, rfl⟩, hin⟩
    · exact .inl ⟨g, hg, hin⟩
    · exact .inr ⟨i, hi, hin⟩

theorem groups_addition (x : Extension) (d : Dialect) :
    (Operation.add (x.addition d)).groups = x.groups := rfl

theorem groups_creation (t : Table) (d : Dialect) :
    (Operation.create (t.creation d)).groups = t.groups := rfl

end Operation

/-! ## Unbounded text -/

theorem Field.columnType_ne_text {f : Field} {d : Dialect} {covered : Bool}
    (bounded : d = .mysql ∨ d = .mssql) (h : f.isUnique = true ∨ covered = true) :
    f.columnType d covered ≠ "text" := by
  have hcovered : (f.isUnique || f.isIndexed || covered) = true := by
    rcases h with h | h <;> simp [h]
  rw [columnType]
  cases f.type with
  | string =>
    simp only [hcovered, if_true]
    rcases bounded with rfl | rfl <;> split <;> decide
  | number =>
    dsimp only
    split <;> decide
  | _ => rcases bounded with rfl | rfl <;> simp [Dialect.booleanType, Dialect.dateType,
      Dialect.timezoneType, Dialect.jsonType]

namespace Plan

variable {toCreate : List Table} {toAdd : List Extension} {d : Dialect} {plan : Plan}

/-- On the databases that cannot index unbounded text, no column that is covered has that type. -/
theorem type_ne_text_of_covers (bounded : d = .mysql ∨ d = .mssql)
    (hplan : (build toCreate toAdd d).outcome = .ok plan) :
    ∀ op ∈ plan.operations, ∀ c ∈ op.columns, op.Covers c → c.type ≠ "text" := by
  intro op hop c hc hcovers
  rw [Operation.covers_iff] at hcovers
  obtain ⟨tables, -, -, -, hoperations⟩ := build_inv hplan
  rw [hoperations, List.mem_append] at hop
  rcases hop with hop | hop
  · obtain ⟨x, -, rfl⟩ := List.mem_map.1 hop
    obtain ⟨e, -, rfl⟩ := List.mem_map.1 hc
    rw [Operation.groups_addition] at hcovers
    exact Field.columnType_ne_text bounded hcovers
  · obtain ⟨t, -, rfl⟩ := List.mem_map.1 hop
    rcases List.mem_cons.1 hc with rfl | hc
    · -- the key has a type of its own
      rcases bounded with rfl | rfl <;> decide
    · obtain ⟨e, -, rfl⟩ := List.mem_map.1 hc
      rw [Operation.groups_creation] at hcovers
      exact Field.columnType_ne_text bounded hcovers

/-- Units gain their codes and labels, over which there are two indexes, and rooms are created. -/
theorem units_and_rooms_type_ne_text :
    let entries := [.table unitTable, .table roomTable]
    ∃ found plan, (difference entries [liveUnit] .mysql).outcome = .ok found ∧
      (build found.toCreate found.toAdd .mysql).outcome = .ok plan ∧
      ∀ op ∈ plan.operations, ∀ c ∈ op.columns, op.Covers c → c.type ≠ "text" := by
  intro entries
  obtain ⟨found, plan, hfound, hplan⟩ :=
    exists_of_canBePlanned (by decide +kernel : canBePlanned entries [liveUnit] .mysql = true)
  exact ⟨found, plan, hfound, hplan, type_ne_text_of_covers (.inl rfl) hplan⟩

end Plan

/-! ## Declared indexes -/

/-- A schema has one entry for a name, and its tables have one field for a column, which is named
    by what can be a key. -/
structure AreKeyed (entries : List SchemaEntry) : Prop where
  names : (entries.map SchemaEntry.name).Nodup
  keys : ∀ t, .table t ∈ entries → ∀ e ∈ t.fields, e.1.notKey? = none
  distinct : ∀ t, .table t ∈ entries → t.fields.HasDistinctNames

namespace Table

/-- A live table lacks every column of a group. -/
def lacksAll (t : Table) (live : List LiveTable) (group : Columns) : Bool :=
  group.all fun c => t.fields.any fun e => c.sameKey e.1 && !isLiveColumn live t.name e.1

variable {t : Table} {live : List LiveTable} {e : Value × Field}

theorem isWithin_fieldsLacking (group : Columns) :
    isWithin (Bag.names (t.fieldsLacking live)) group = t.lacksAll live group := by
  simp only [isWithin, lacksAll, Value.isIn, Bag.names, fieldsLacking, List.any_map,
    List.any_filter, Function.comp_def, Bool.and_comm]

/-- A field that is indexed is unique, or the table has an index over its column alone. -/
theorem exists_index_of_isIndexed (he : e ∈ t.fields) (hkey : e.1.notKey? = none)
    (h : e.2.isIndexed = true ∨ e.2.isUnique = true) :
    e.2.isUnique = true ∨ ∃ i ∈ t.allIndexes, Value.sameKeys i.columns [e.1] = true := by
  refine or_iff_not_imp_left.2 fun hunique => ?_
  have hindexed := h.resolve_right hunique
  by_cases hdeclared : ∃ i ∈ t.indexes, Value.sameKeys i.columns [e.1] = true
  · obtain ⟨i, hi, hsame⟩ := hdeclared
    exact ⟨i, List.mem_append_left _ hi, hsame⟩
  · have hwants : wantsIndex t.indexes e = true := by
      simpa [wantsIndex, hindexed, hunique] using hdeclared
    refine ⟨Index.onColumn e.1, List.mem_append_right _ ?_, ?_⟩
    · exact List.mem_map.2 ⟨e, List.mem_filter.2 ⟨he, hwants⟩, rfl⟩
    · simp [Index.onColumn, Value.sameKeys, Value.sameKey_self hkey]

end Table

/-- Of the indexes of a table, declared or implied, an extension carries those that are over columns
    which it adds and no others, and likewise the unique constraints, as unique indexes. -/
structure Extension.CarriesIndexesOf (x : Extension) (t : Table) (live : List LiveTable) :
    Prop where
  table : x.table = t.name
  fields : x.fields = t.fieldsLacking live
  indexes : x.indexes =
    (t.indexes ++ (t.fields.filter (Table.wantsIndex t.indexes)).map (fun e => Index.onColumn e.1) ++
      t.uniqueConstraints.map Index.uniqueOn).filter fun i => t.lacksAll live i.columns

/-- The values of a column may not repeat, or an operation has an index over it and no other. -/
def Operation.IndexesAlone (op : Operation) (c : Column) : Prop :=
  c.isUnique = true ∨ ∃ i ∈ op.statedIndexes, Value.sameKeys i.columns [c.name] = true

namespace Extension

variable {x : Extension} {t : Table} {live : List LiveTable} {l : LiveTable} {d : Dialect}

theorem carriesIndexesOf (t : Table) (live : List LiveTable) :
    (t.extensionBy (t.fieldsLacking live)).CarriesIndexesOf t live := by
  have hwithin : Table.isWithin (t.fieldsLacking live).names = t.lacksAll live :=
    funext Table.isWithin_fieldsLacking
  refine ⟨rfl, rfl, ?_⟩
  rw [List.filter_append, List.filter_map, Table.extensionBy, Table.indexesWithin, hwithin]
  rfl

/-- An extension is planned if its indexes name columns that it adds, by keys. -/
theorem plan_eq_ok (hkeys : ∀ g ∈ x.groups, Value.checkKeys g = .ok ())
    (hknown : ∀ g ∈ x.groups, Table.isWithin x.fields.names g = true) (d : Dialect) :
    (x.plan d).outcome = .ok (.add (x.addition d)) := by
  have hgroupKeys : checkGroupKeys x.groups = .ok () := by
    refine Except.mapError_eq_ok.2 (Except.forM_eq_ok.2 fun v hv => ?_)
    obtain ⟨g, hg, hv⟩ := List.mem_flatten.1 hv
    exact Except.forM_eq_ok.1 (hkeys g hg) v hv
  have hgroups : checkGroups x.table (x.addition d).columnNames x.groups = .ok () := by
    have hnone : (x.groups.map (unknownColumns x.fields.names)).find? (!·.isEmpty) = none := by
      refine List.find?_eq_none.2 fun _ hunknown => ?_
      obtain ⟨g, hg, rfl⟩ := List.mem_map.1 hunknown
      have hwithin := hknown g hg
      simp_all [unknownColumns, Table.isWithin]
    rw [checkGroups, columnNames_addition, hnone]
    rfl
  rw [plan, hgroupKeys, hgroups]
  rfl

theorem isWithin_groups_extensionBy {missing : Bag} {g : Columns}
    (hg : g ∈ (t.extensionBy missing).groups) : Table.isWithin missing.names g = true := by
  obtain ⟨i, hi, rfl⟩ := List.mem_map.1 hg
  rcases List.mem_append.1 hi with hi | hi
  · exact (List.mem_filter.1 hi).2
  · obtain ⟨constraint, hconstraint, rfl⟩ := List.mem_map.1 hi
    exact (List.mem_filter.1 hconstraint).2

theorem checkKeys_groups_extensionBy (hcheck : t.checkColumnKeys = .ok ())
    (keys : ∀ e ∈ t.fields, e.1.notKey? = none) {missing : Bag} {g : Columns}
    (hg : g ∈ (t.extensionBy missing).groups) : Value.checkKeys g = .ok () := by
  obtain ⟨hindexes, hconstraints⟩ := Table.checkColumnKeys_eq_ok.1 hcheck
  obtain ⟨i, hi, rfl⟩ := List.mem_map.1 hg
  rcases List.mem_append.1 hi with hi | hi
  · rcases List.mem_append.1 (List.mem_of_mem_filter hi) with hi | hi
    · exact hindexes i hi
    · obtain ⟨e, he, rfl⟩ := List.mem_map.1 hi
      have hkey := Value.checkKey_eq_ok_iff.2 (keys e (List.mem_of_mem_filter he))
      exact Except.forM_eq_ok.2 fun v hv => List.mem_singleton.1 hv ▸ hkey
  · obtain ⟨constraint, hconstraint, rfl⟩ := List.mem_map.1 hi
    exact hconstraints constraint (List.mem_of_mem_filter hconstraint)

end Extension

/-- Columns are not looked up by what cannot be a key: an extension is refused for it. -/
theorem SchemaEntry.checkColumnKeys_of_compare {t : Table} {live : List LiveTable} {d : Dialect}
    {l : LiveTable} {k : Lack} (hl : liveTable? live t.name = some l)
    (hmissing : t.missingFields l ≠ [])
    (h : (SchemaEntry.compare live d (.table t)).outcome = .ok k) : t.checkColumnKeys = .ok () := by
  rw [compare] at h
  simp only [hl, Table.extension?_eq_some.2 ⟨hmissing, rfl⟩, Option.isSome_some, if_true] at h
  obtain ⟨-, -, h⟩ := Logged.outcome_bind_eq_ok.1 h
  obtain ⟨⟨⟩, hcheck, -⟩ := Logged.outcome_bind_eq_ok.1 h
  exact Except.mapError_eq_ok.1 hcheck

theorem Table.isWithin_singleton {b : Bag} {e : Value × Field} (he : e ∈ b)
    (hkey : e.1.notKey? = none) : isWithin b.names [e.1] = true := by
  have hin : e.1.isIn b.names = true :=
    List.any_eq_true.2 ⟨e.1, List.mem_map_of_mem he, Value.sameKey_self hkey⟩
  simpa [isWithin] using hin

section Indexed

variable {entries : List SchemaEntry} {live : List LiveTable} {d : Dialect} {plan : Plan}
  {found : Difference} (keyed : AreKeyed entries)
include keyed

/-- The field of a column that is created or added is the one that goes by its name. -/
theorem AreKeyed.eq_column {t : Table} (ht : .table t ∈ entries) {e : Value × Field}
    (he : e ∈ t.fields) {b : Bag} (hb : b.Subset t.fields) {covered : Columns} {c : Column}
    (hc : c ∈ b.map fun f => f.2.column f.1 d covered) (hname : c.name.sameKey e.1 = true) :
    e ∈ b ∧ c = e.2.column e.1 d covered := by
  obtain ⟨e', he', rfl⟩ := List.mem_map.1 hc
  obtain rfl := Bag.eq_of_sameKey (keyed.distinct t ht) (hb he') he hname
  exact ⟨he', rfl⟩

namespace Plan

/-- A column of which the field is indexed is unique, or has an index of its own in the operation
    that makes it. -/
theorem MakesUpFor.indexesAlone (h : plan.MakesUpFor entries live d) {op : Operation}
    (hop : op ∈ plan.operations) {t : Table} (ht : .table t ∈ entries) (htable : t.name = op.table)
    {e : Value × Field} (he : e ∈ t.fields)
    (hindexed : e.2.isIndexed = true ∨ e.2.isUnique = true) {c : Column} (hc : c ∈ op.columns)
    (hname : c.name.sameKey e.1 = true) : op.IndexesAlone c := by
  have hsame : ∀ u, .table u ∈ entries → u.name = t.name → u = t := fun u hu hname =>
    SchemaEntry.table.inj (List.inj_on_of_nodup_map keyed.names hu ht hname)
  have hkey := keyed.keys t ht e he
  have hindex := Table.exists_index_of_isIndexed he hkey hindexed
  rcases (h.mem_operations_iff op).1 hop with ⟨u, hu, hl, rfl⟩ | ⟨u, l, x, hu, hl, hx, rfl⟩
  · obtain rfl := hsame u hu htable.symm
    rcases List.mem_cons.1 hc with rfl | hc
    · -- no field goes by the name of the key
      have hreserved := (Bool.or_eq_false_iff.1 (h.declares_no_key u hu hl e he)).1
      rw [Value.sameKey_comm] at hreserved
      exact absurd hname (Bool.eq_false_iff.1 hreserved)
    · obtain ⟨-, rfl⟩ := keyed.eq_column hu he (List.Subset.refl _) hc hname
      exact hindex
  · obtain rfl := hsame u hu ((Table.table_of_extension? hx).symm.trans htable.symm)
    obtain ⟨-, rfl⟩ := Table.extension?_eq_some.1 hx
    obtain ⟨hmissing, rfl⟩ := keyed.eq_column hu he (List.filter_subset_self _) hc hname
    refine hindex.imp_right fun ⟨i, hi, hcolumns⟩ => ⟨i, List.mem_append_left _ ?_, hcolumns⟩
    rw [Value.sameKeys_comm] at hcolumns
    exact List.mem_filter.2
      ⟨hi, Table.isWithin_of_sameKeys hcolumns (Table.isWithin_singleton hmissing hkey)⟩

end Plan

/-- What a difference adds is planned, with those indexes and unique constraints of its table that
    are over columns it adds.  In the plan, each column of which the field is indexed or unique is
    unique or has an index of its own. -/
theorem difference_indexes (hfound : (difference entries live d).outcome = .ok found) :
    (∀ x ∈ found.toAdd, (∃ t, .table t ∈ entries ∧ x.CarriesIndexesOf t live) ∧
        (x.plan d).outcome = .ok (.add (x.addition d))) ∧
      ∀ plan, (Plan.build found.toCreate found.toAdd d).outcome = .ok plan →
        ∀ op ∈ plan.operations, ∀ t, .table t ∈ entries → t.name = op.table →
          ∀ e ∈ t.fields, e.2.isIndexed = true ∨ e.2.isUnique = true →
            ∀ c ∈ op.columns, c.name.sameKey e.1 = true → op.IndexesAlone c := by
  constructor
  · intro x hx
    obtain ⟨hcompare, -, hadd⟩ := difference_eq_ok.1 hfound
    rw [hadd] at hx
    obtain ⟨t, l, ht, hl, hx⟩ :=
      SchemaEntry.mem_extensions.1 ((byOrderAndName_perm ..).mem_iff.1 hx)
    obtain ⟨hmissing, rfl⟩ := Table.extension?_eq_some.1 hx
    have hcheck := SchemaEntry.checkColumnKeys_of_compare hl hmissing (hcompare _ ht)
    refine ⟨⟨t, ht, ?_⟩, Extension.plan_eq_ok (fun g hg => ?_) (fun g hg => ?_) d⟩
    · rw [← Table.fieldsLacking_of_live hl]
      exact Extension.carriesIndexesOf t live
    · exact Extension.checkKeys_groups_extensionBy hcheck (keyed.keys t ht) hg
    · exact Extension.isWithin_groups_extensionBy hg
  · intro plan hplan op hop t ht htable e he hindexed c hc hname
    have hmakes := Plan.build_difference_makesUpFor keyed.names hfound hplan
    exact hmakes.indexesAlone keyed hop ht htable he hindexed hc hname

end Indexed

/-- The label of a unit is indexed by name, its code is unique, and its kind is live. -/
theorem units_and_rooms_indexed :
    let entries := [.malformed "cellar", .table unitTable, .table roomTable]
    AreKeyed entries ∧ ∃ found plan,
      (difference entries [liveUnit] .mssql).outcome = .ok found ∧
      (Plan.build found.toCreate found.toAdd .mssql).outcome = .ok plan ∧
      (∀ x ∈ found.toAdd, ∃ t, .table t ∈ entries ∧ x.CarriesIndexesOf t [liveUnit]) ∧
      ∀ op ∈ plan.operations, ∀ t, .table t ∈ entries → t.name = op.table →
        ∀ e ∈ t.fields, e.2.isIndexed = true ∨ e.2.isUnique = true →
          ∀ c ∈ op.columns, c.name.sameKey e.1 = true → op.IndexesAlone c := by
  intro entries
  have hcases : ∀ t, .table t ∈ entries → t = unitTable ∨ t = roomTable := by
    intro t ht
    simpa [entries] using ht
  have keyed : AreKeyed entries := by
    refine ⟨by decide, fun t ht => ?_, fun t ht => ?_⟩
    · rcases hcases t ht with rfl | rfl <;> simp [unitTable, roomTable, Value.notKey?]
    · rcases hcases t ht with rfl | rfl <;>
        simp [unitTable, roomTable, Bag.HasDistinctNames, Bag.names, Value.sameKey_text]
  obtain ⟨found, plan, hfound, hplan⟩ :=
    exists_of_canBePlanned (by decide +kernel : canBePlanned entries [liveUnit] .mssql = true)
  obtain ⟨hadded, hplanned⟩ := difference_indexes keyed hfound
  exact ⟨keyed, found, plan, hfound, hplan, fun x hx => (hadded x hx).1, hplanned plan hplan⟩

end Accrete
