import Accrete.Proofs.Keys
import Accrete.Proofs.Planning.AddedReferences
import Mathlib

/-!
# Columns that are created or added

A table that is created has all its columns and indexes, while one that is extended gets the
columns it lacks, and of its indexes those that lie within them.  A column is to be the same either
way.

* `Plan.AgreesOn`           -- a plan adds a column just as another creates it
* `Field.NeedsCover`        -- a text of which the type depends on the indexes over it
* `Table.LosesCover`        -- a missing field is indexed only together with columns that are live
* `Plan.agreesOn_iff`       -- plans agree on a column unless it loses its cover

Where they do not, the columns differ in their types alone: the one that is added is unbounded.
-/

namespace Accrete

/-! ## Types -/

/-- A text that takes a bounded type only where an index or a constraint covers it. -/
structure Field.NeedsCover (f : Field) (d : Dialect) : Prop where
  text : f.type = .string
  isFree : f.hasReference = false
  notUnique : f.isUnique = false
  notIndexed : f.isIndexed = false
  bounded : d = .mysql ∨ d = .mssql

namespace Field

variable {f : Field} {d : Dialect}

theorem NeedsCover.columnType (h : f.NeedsCover d) (covered : Bool) :
    f.columnType d covered = if covered then "varchar(255)" else "text" := by
  have htype : d.indexedTextType = "varchar(255)" := by
    rcases h.bounded with rfl | rfl <;> rfl
  simp [Field.columnType, h.text, h.isFree, h.notUnique, h.notIndexed, htype]

theorem columnType_of_not_needsCover (h : ¬ f.NeedsCover d) (covered : Bool) :
    f.columnType d covered = f.columnType d false := by
  rw [columnType, columnType]
  split
  next htype =>
    by_cases href : f.hasReference = true
    · simp [href]
    by_cases hown : (f.isUnique || f.isIndexed) = true
    · simp [hown]
    have hunbounded : d.indexedTextType = "text" := by
      rw [Bool.or_eq_true, not_or] at hown
      have hdialect : ¬ (d = .mysql ∨ d = .mssql) := fun hd =>
        h ⟨htype, by simpa using href, by simpa using hown.1, by simpa using hown.2, hd⟩
      cases d <;> simp_all [Dialect.indexedTextType]
    simp [hunbounded]
  all_goals rfl

/-- A column depends on the indexes over it by whether any covers it, if at all. -/
theorem column_eq_iff (name : Value) (covered covered' : Columns) :
    f.column name d covered = f.column name d covered' ↔
      (f.NeedsCover d → name.isIn covered = name.isIn covered') := by
  simp only [column, Column.mk.injEq, true_and, and_true]
  by_cases h : f.NeedsCover d
  · rw [h.columnType, h.columnType]
    cases name.isIn covered <;> cases name.isIn covered' <;> simp [h]
  · rw [columnType_of_not_needsCover h (name.isIn covered),
      columnType_of_not_needsCover h (name.isIn covered')]
    simp [h]

end Field

/-! ## Covers -/

theorem Value.isIn_flatten {v : Value} {groups : List Columns} :
    v.isIn groups.flatten = true ↔ ∃ g ∈ groups, v.isIn g = true := by
  simp [isIn, List.any_flatten]

theorem Bag.eq_of_sameKey {b : Bag} (distinct : b.HasDistinctNames) {e e' : Value × Field}
    (he : e ∈ b) (he' : e' ∈ b) (hsame : e.1.sameKey e'.1 = true) : e = e' := by
  by_contra hne
  have hpairs := List.pairwise_map.1 distinct
  have : Std.Symm fun e e' : Value × Field => e.1.sameKey e'.1 = false :=
    ⟨fun e e' h => (Value.sameKey_comm ..).trans h⟩
  exact absurd hsame (Bool.eq_false_iff.1 (hpairs.forall he he' hne))

namespace Table

variable {t : Table} {l : LiveTable} {d : Dialect} {e : Value × Field}

/-- A missing field depends on an index or a constraint for its type, and each one that covers it
    also has columns that are not missing. -/
structure LosesCover (t : Table) (l : LiveTable) (d : Dialect) (e : Value × Field) : Prop where
  needsCover : e.2.NeedsCover d
  covered : ∃ g ∈ t.groups, e.1.isIn g = true
  parted : ∀ g ∈ t.groups, e.1.isIn g = true → isWithin (t.missingFields l).names g = false

section Cover

variable (distinct : t.fields.HasDistinctNames) (he : e ∈ t.fields)
  (notIndexed : e.2.isIndexed = false)

include distinct he notIndexed

/-- The indexes that fields ask for cover no others. -/
theorem mem_indexes_of_isIn {i : Index} (hi : i ∈ t.allIndexes)
    (hin : e.1.isIn i.columns = true) : i ∈ t.indexes := by
  rcases List.mem_append.1 hi with hi | hi
  · exact hi
  · obtain ⟨e', he', rfl⟩ := List.mem_map.1 hi
    obtain ⟨he', hwants⟩ := List.mem_filter.1 he'
    have hsame : e.1.sameKey e'.1 = true := by
      simpa [Index.onColumn, Value.isIn] using hin
    obtain rfl := Bag.eq_of_sameKey distinct he he' hsame
    simp [wantsIndex, notIndexed] at hwants

theorem isIn_groups_complete :
    e.1.isIn t.complete.groups.flatten = true ↔ ∃ g ∈ t.groups, e.1.isIn g = true := by
  simp only [Value.isIn_flatten, groups, complete, List.mem_append, List.mem_map]
  constructor
  · rintro ⟨g, hg | ⟨i, hi, rfl⟩, hin⟩
    · exact ⟨g, .inl hg, hin⟩
    · exact ⟨_, .inr ⟨i, mem_indexes_of_isIn distinct he notIndexed hi hin, rfl⟩, hin⟩
  · rintro ⟨g, hg | ⟨i, hi, rfl⟩, hin⟩
    · exact ⟨g, .inl hg, hin⟩
    · exact ⟨_, .inr ⟨i, List.mem_append_left _ hi, rfl⟩, hin⟩

theorem isIn_groups_extensionBy (missing : Bag) :
    e.1.isIn (t.extensionBy missing).groups.flatten = true ↔
      ∃ g ∈ t.groups, e.1.isIn g = true ∧ isWithin missing.names g = true := by
  simp only [Value.isIn_flatten, Extension.groups, extensionBy, indexesWithin, groups,
    List.mem_append, List.mem_map, List.mem_filter]
  constructor
  · rintro ⟨_, ⟨i, ⟨hi, hwithin⟩ | ⟨g, ⟨hg, hwithin⟩, rfl⟩, rfl⟩, hin⟩
    · exact ⟨_, .inr ⟨i, mem_indexes_of_isIn distinct he notIndexed hi hin, rfl⟩, hin, hwithin⟩
    · exact ⟨g, .inl hg, hin, hwithin⟩
  · rintro ⟨g, hg | ⟨i, hi, rfl⟩, hin, hwithin⟩
    · exact ⟨g, ⟨_, .inr ⟨g, ⟨hg, hwithin⟩, rfl⟩, rfl⟩, hin⟩
    · exact ⟨_, ⟨i, .inl ⟨List.mem_append_left _ hi, hwithin⟩, rfl⟩, hin⟩

end Cover

theorem LosesCover.covers_created (h : t.LosesCover l d e) (distinct : t.fields.HasDistinctNames)
    (he : e ∈ t.fields) : e.1.isIn t.complete.groups.flatten = true :=
  (isIn_groups_complete distinct he h.needsCover.notIndexed).2 h.covered

theorem LosesCover.not_covers_added (h : t.LosesCover l d e)
    (distinct : t.fields.HasDistinctNames) (he : e ∈ t.fields) :
    e.1.isIn (t.extensionBy (t.missingFields l)).groups.flatten = false := by
  refine Bool.eq_false_iff.2 fun hin => ?_
  obtain ⟨g, hg, hin, hwithin⟩ :=
    (isIn_groups_extensionBy distinct he h.needsCover.notIndexed _).1 hin
  exact Bool.eq_false_iff.1 (h.parted g hg hin) hwithin

/-- A missing field makes the same column either way just if it does not lose its cover. -/
theorem column_extensionBy_eq_iff (distinct : t.fields.HasDistinctNames) (he : e ∈ t.fields) :
    e.2.column e.1 d (t.extensionBy (t.missingFields l)).groups.flatten =
        e.2.column e.1 d t.complete.groups.flatten ↔ ¬ t.LosesCover l d e := by
  rw [Field.column_eq_iff]
  constructor
  · intro hsame hloses
    have hcovers := hsame hloses.needsCover
    rw [hloses.covers_created distinct he, hloses.not_covers_added distinct he] at hcovers
    exact Bool.false_ne_true hcovers
  · intro hkeeps hneeds
    rw [Bool.eq_iff_iff, isIn_groups_complete distinct he hneeds.notIndexed,
      isIn_groups_extensionBy distinct he hneeds.notIndexed]
    refine ⟨fun ⟨g, hg, hin, _⟩ => ⟨g, hg, hin⟩, fun hcovered => ?_⟩
    by_contra hnone
    refine hkeeps ⟨hneeds, hcovered, fun g hg hin => Bool.eq_false_iff.2 fun hwithin => ?_⟩
    exact hnone ⟨g, hg, hin, hwithin⟩

end Table

/-! ## Plans -/

def Operation.column? (op : Operation) (name : Value) : Option Column :=
  op.columns.find? fun c => c.name.sameKey name

/-- A plan adds a column to a table, and another creates the table, with the same definition of the
    column. -/
def Plan.AgreesOn (adding creating : Plan) (table : String) (name : Value) : Prop :=
  ∃ a c column, .add a ∈ adding.operations ∧ a.table = table ∧
    .create c ∈ creating.operations ∧ c.table = table ∧
    (Operation.add a).column? name = some column ∧
    (Operation.create c).column? name = some column

theorem Bag.find?_columns {b : Bag} (distinct : b.HasDistinctNames) {e : Value × Field}
    (he : e ∈ b) (hkey : e.1.notKey? = none) (d : Dialect) (covered : Columns) :
    (b.map fun f => f.2.column f.1 d covered).find? (fun c => c.name.sameKey e.1) =
      some (e.2.column e.1 d covered) := by
  have hself := Value.sameKey_self hkey
  obtain ⟨e', hfound⟩ := Option.isSome_iff_exists.1
    (List.find?_isSome.2 ⟨e, he, hself⟩ : (b.find? fun f => f.1.sameKey e.1).isSome)
  obtain rfl := eq_of_sameKey distinct (List.mem_of_find?_eq_some hfound) he
    (by simpa using List.find?_some hfound)
  rw [List.find?_map]
  exact congrArg (Option.map _) hfound

namespace Plan

variable {entries : List SchemaEntry} {live live' : List LiveTable} {d : Dialect}
  {adding creating : Plan} {t : Table} {l : LiveTable} {e : Value × Field}

theorem MakesUpFor.exists_addition (h : adding.MakesUpFor entries live d)
    (ht : .table t ∈ entries) (hl : liveTable? live t.name = some l)
    (distinct : t.fields.HasDistinctNames) (he : e ∈ t.fields) (hkey : e.1.notKey? = none)
    (hmissing : l.column? e.1 = none) :
    ∃ a, .add a ∈ adding.operations ∧ a.table = t.name ∧ (Operation.add a).column? e.1 =
      some (e.2.column e.1 d (t.extensionBy (t.missingFields l)).groups.flatten) := by
  obtain ⟨x, hx⟩ := Table.exists_extension?_of_missing he hmissing
  obtain ⟨-, rfl⟩ := Table.extension?_eq_some.1 hx
  have hdistinct : (t.missingFields l).HasDistinctNames :=
    distinct.sublist (List.filter_sublist.map _)
  exact ⟨_, (h.mem_operations_iff _).2 (.inr ⟨t, l, _, ht, hl, hx, rfl⟩), rfl,
    Bag.find?_columns hdistinct (Table.mem_missingFields.2 ⟨he, hmissing⟩) hkey d _⟩

/-- The creation of a table with a field.  The generated primary key goes by another name. -/
theorem MakesUpFor.exists_creation (h : creating.MakesUpFor entries live d)
    (ht : .table t ∈ entries) (hl : liveTable? live t.name = none)
    (distinct : t.fields.HasDistinctNames) (he : e ∈ t.fields) (hkey : e.1.notKey? = none) :
    ∃ c, .create c ∈ creating.operations ∧ c.table = t.name ∧ (Operation.create c).column? e.1 =
      some (e.2.column e.1 d t.complete.groups.flatten) := by
  have hreserved := (Bool.or_eq_false_iff.1 (h.declares_no_key t ht hl e he)).1
  refine ⟨_, (h.mem_operations_iff _).2 (.inl ⟨t, ht, hl, rfl⟩), rfl, ?_⟩
  have hskip : (Table.keyColumn d).name.sameKey e.1 = false :=
    (Value.sameKey_comm ..).trans hreserved
  rw [Operation.column?, Operation.columns, Table.creation,
    List.find?_cons_of_neg (by simp [hskip])]
  exact Bag.find?_columns distinct he hkey d _

/-- A plan has one operation on a table, so that plans agree on the columns that these have. -/
theorem AgreesOn.column_eq {table : String} {name : Value} (h : adding.AgreesOn creating table name)
    (hadding : adding.MakesUpFor entries live d) (hcreating : creating.MakesUpFor entries live' d)
    {a : ColumnAddition} (ha : .add a ∈ adding.operations) (hat : a.table = table)
    {c : TableCreation} (hc : .create c ∈ creating.operations) (hct : c.table = table)
    {added created : Column} (hadded : (Operation.add a).column? name = some added)
    (hcreated : (Operation.create c).column? name = some created) : added = created := by
  obtain ⟨a', c', column, ha', hat', hc', hct', hadded', hcreated'⟩ := h
  obtain rfl := Operation.add.inj
    (List.inj_on_of_nodup_map hadding.nodup ha' ha (hat'.trans hat.symm))
  obtain rfl := Operation.create.inj
    (List.inj_on_of_nodup_map hcreating.nodup hc' hc (hct'.trans hct.symm))
  exact Option.some.inj ((hadded.symm.trans hadded').trans (hcreated'.symm.trans hcreated))

/-- Where a field loses its cover, its column is created of a bounded type and added of an unbounded
    one, and is the same otherwise. -/
theorem columns_of_losesCover (hadding : adding.MakesUpFor entries live d)
    (hcreating : creating.MakesUpFor entries live' d) (ht : .table t ∈ entries)
    (hl : liveTable? live t.name = some l) (hl' : liveTable? live' t.name = none)
    (distinct : t.fields.HasDistinctNames) (he : e ∈ t.fields) (hkey : e.1.notKey? = none)
    (hmissing : l.column? e.1 = none) (hloses : t.LosesCover l d e) :
    ∃ a c, ∃ column : Column, .add a ∈ adding.operations ∧ a.table = t.name ∧
      .create c ∈ creating.operations ∧ c.table = t.name ∧
      (Operation.add a).column? e.1 = some { column with type := "text" } ∧
      (Operation.create c).column? e.1 = some { column with type := "varchar(255)" } := by
  obtain ⟨a, ha, hat, hadded⟩ := hadding.exists_addition ht hl distinct he hkey hmissing
  obtain ⟨c, hc, hct, hcreated⟩ := hcreating.exists_creation ht hl' distinct he hkey
  refine ⟨a, c, e.2.column e.1 d [], ha, hat, hc, hct, ?_, ?_⟩
  · rw [hadded, Field.column, hloses.not_covers_added distinct he, hloses.needsCover.columnType]
    rfl
  · rw [hcreated, Field.column, hloses.covers_created distinct he, hloses.needsCover.columnType]
    rfl

/-- Whether a column is added to a live table or created with it, it has the same definition, unless
    it loses its cover. -/
theorem agreesOn_iff (names : (entries.map SchemaEntry.name).Nodup)
    {found found' : Difference}
    (hfound : (difference entries live d).outcome = .ok found)
    (hadding : (build found.toCreate found.toAdd d).outcome = .ok adding)
    (hfound' : (difference entries live' d).outcome = .ok found')
    (hcreating : (build found'.toCreate found'.toAdd d).outcome = .ok creating)
    (ht : .table t ∈ entries) (hl : liveTable? live t.name = some l)
    (hl' : liveTable? live' t.name = none) (distinct : t.fields.HasDistinctNames)
    (he : e ∈ t.fields) (hkey : e.1.notKey? = none) (hmissing : l.column? e.1 = none) :
    adding.AgreesOn creating t.name e.1 ↔ ¬ t.LosesCover l d e := by
  have hadding := build_difference_makesUpFor names hfound hadding
  have hcreating := build_difference_makesUpFor names hfound' hcreating
  obtain ⟨a, ha, hat, hadded⟩ := hadding.exists_addition ht hl distinct he hkey hmissing
  obtain ⟨c, hc, hct, hcreated⟩ := hcreating.exists_creation ht hl' distinct he hkey
  rw [← Table.column_extensionBy_eq_iff distinct he]
  constructor
  · intro hagrees
    exact hagrees.column_eq hadding hcreating ha hat hc hct hadded hcreated
  · intro hsame
    exact ⟨a, c, _, ha, hat, hc, hct, hsame ▸ hadded, hcreated⟩

end Plan

/-! ## A log that is extended -/

def canBePlanned (entries : List SchemaEntry) (live : List LiveTable) (d : Dialect) : Bool :=
  (do
    let found ← difference entries live d
    Plan.build found.toCreate found.toAdd d).outcome.isOk

theorem exists_of_canBePlanned {entries : List SchemaEntry} {live : List LiveTable} {d : Dialect}
    (h : canBePlanned entries live d = true) :
    ∃ found plan, (difference entries live d).outcome = .ok found ∧
      (Plan.build found.toCreate found.toAdd d).outcome = .ok plan := by
  obtain ⟨plan, hruns⟩ := Except.eq_ok_of_isOk h
  obtain ⟨found, hfound, hplan⟩ := Logged.outcome_bind_eq_ok.1 hruns
  exact ⟨found, plan, hfound, hplan⟩

def optionalText : Field := { Field.plain .string with required := .bool false }

/-- A log of which no two entries have one hash and version. -/
def hashedLog (indexes : List Index) : Table :=
  ⟨"log", [(.text "hash", optionalText), (.text "version", optionalText),
    (.text "author", optionalText)], Number.infinity, [[.text "hash", .text "version"]], indexes⟩

/-- The log as it was before its entries had versions. -/
def unversionedLog : LiveTable :=
  ⟨"log", [⟨"id", "varchar(36)", false⟩, ⟨"hash", "varchar(255)", true⟩]⟩

theorem hashedLog_distinct (indexes : List Index) :
    (hashedLog indexes).fields.HasDistinctNames := by
  have h : (hashedLog []).fields.names.Pairwise fun v w => v.sameKey w = false := by
    decide +kernel
  exact h

/-- The version makes the same column either way if it is also indexed together with the author,
    which the log lacks as well. -/
theorem version_agrees :
    let log := hashedLog [⟨[.text "version", .text "author"], false, none⟩]
    let entries := [.malformed "archive", .table log]
    (entries.map SchemaEntry.name).Nodup ∧ log.fields.HasDistinctNames ∧
      ∃ found adding found' creating,
        (difference entries [unversionedLog] .mysql).outcome = .ok found ∧
        (Plan.build found.toCreate found.toAdd .mysql).outcome = .ok adding ∧
        (difference entries [] .mysql).outcome = .ok found' ∧
        (Plan.build found'.toCreate found'.toAdd .mysql).outcome = .ok creating ∧
        adding.AgreesOn creating "log" (.text "version") := by
  intro log entries
  obtain ⟨found, adding, hfound, hadding⟩ :=
    exists_of_canBePlanned (by decide +kernel : canBePlanned entries [unversionedLog] .mysql = true)
  obtain ⟨found', creating, hfound', hcreating⟩ :=
    exists_of_canBePlanned (by decide +kernel : canBePlanned entries [] .mysql = true)
  have he : (.text "version", optionalText) ∈ log.fields := .tail _ (.head _)
  have hmissing : unversionedLog.column? (.text "version") = none := by decide
  have hwithin : Table.isWithin (log.missingFields unversionedLog).names
      [.text "version", .text "author"] = true := by decide +kernel
  have hin : (Value.text "version").isIn [.text "version", .text "author"] = true := by
    decide +kernel
  have hkeeps : ¬ log.LosesCover unversionedLog .mysql (.text "version", optionalText) := by
    intro hloses
    have hparted := hloses.parted _ (List.mem_append_right _ (List.mem_singleton_self _)) hin
    exact absurd hwithin (Bool.eq_false_iff.1 hparted)
  exact ⟨by decide, hashedLog_distinct _, found, adding, found', creating, hfound, hadding, hfound',
    hcreating, (Plan.agreesOn_iff (by decide) hfound hadding hfound' hcreating
      (.tail _ (.head _)) rfl rfl (hashedLog_distinct _) he rfl hmissing).2 hkeeps⟩

/-- The version of an entry is covered by a constraint.  It is unbounded if it is added to a log
    that has hashes. -/
theorem version_not_agrees :
    let log := hashedLog []
    let entries := [.table log]
    (.text "version", optionalText) ∈ log.fields ∧
      unversionedLog.column? (.text "version") = none ∧
      ∃ found adding found' creating,
        (difference entries [unversionedLog] .mysql).outcome = .ok found ∧
        (Plan.build found.toCreate found.toAdd .mysql).outcome = .ok adding ∧
        (difference entries [] .mysql).outcome = .ok found' ∧
        (Plan.build found'.toCreate found'.toAdd .mysql).outcome = .ok creating ∧
        ¬ adding.AgreesOn creating "log" (.text "version") := by
  intro log entries
  obtain ⟨found, adding, hfound, hadding⟩ :=
    exists_of_canBePlanned (by decide +kernel : canBePlanned entries [unversionedLog] .mysql = true)
  obtain ⟨found', creating, hfound', hcreating⟩ :=
    exists_of_canBePlanned (by decide +kernel : canBePlanned entries [] .mysql = true)
  have he : (.text "version", optionalText) ∈ log.fields := .tail _ (.head _)
  have hmissing : unversionedLog.column? (.text "version") = none := by decide
  have names : (entries.map SchemaEntry.name).Nodup := by decide
  have hmakes := Plan.build_difference_makesUpFor names hfound hadding
  have hmakes' := Plan.build_difference_makesUpFor names hfound' hcreating
  -- its only group has the hash too, which is live
  have hloses : log.LosesCover unversionedLog .mysql (.text "version", optionalText) := by
    refine ⟨⟨rfl, rfl, rfl, rfl, .inl rfl⟩, ⟨_, .head _, by decide +kernel⟩, fun g hg _ => ?_⟩
    obtain rfl := List.mem_singleton.1 hg
    decide +kernel
  obtain ⟨a, c, column, ha, hat, hc, hct, hadded, hcreated⟩ :=
    Plan.columns_of_losesCover hmakes hmakes' (.head _) rfl rfl (hashedLog_distinct _) he rfl
      hmissing hloses
  refine ⟨he, hmissing, found, adding, found', creating, hfound, hadding, hfound', hcreating,
    fun hagrees => ?_⟩
  have hsame := hagrees.column_eq hmakes hmakes' ha hat hc hct hadded hcreated
  have htypes : "text" = "varchar(255)" := congrArg Column.type hsame
  exact absurd htypes (by decide)

end Accrete
