import Accrete.Proofs.Migrating.Replanning
import Accrete.Proofs.Migrating.Success
import Accrete.Proofs.Writing.Addition
import Accrete.Proofs.Writing.Creation

/-!
# Names that clash

A database compares names without regard to case, and a comparison of a schema with it does so with
regard to case.  A plan that creates what is there already is refused by the database.

* `Value.sameColumn`             -- whether two values name the same column to a database
* `Plan.AvoidsClashes`           -- a plan makes nothing that goes by the name of something else
* `Schema.NamesAgree`            -- names that are the same to a database are equal
* `Migration.avoidsClashes_iff`  -- plans avoid clashes just where names agree
-/

namespace Accrete

/-! ## Names of columns -/

def Value.sameColumn (v w : Value) : Bool :=
  match columnNamed v, columnNamed w with
  | .ok name, .ok name' => sameName name name'
  | _, _ => false

theorem sameName_comm (a b : String) : sameName a b = sameName b a := BEq.comm

theorem Value.sameColumn_text_eq_false {name : String} {v : Value} :
    (Value.text name).sameColumn v = false ↔
      ∀ name', columnNamed v = .ok name' → sameName name name' = false := by
  rw [sameColumn, columnNamed_text]
  cases columnNamed v <;> simp

/-! ## Plans and schemas -/

/-- What a plan makes goes by the name of nothing else: no table that it creates is there already or
    is created twice, and no column of an operation is there already or is among the others. -/
structure Plan.AvoidsClashes (p : Plan) (db : Database) : Prop where
  tablesNew : ∀ c, .create c ∈ p.operations → db.table? c.table = none
  tablesDiffer : p.operations.Pairwise fun op op' => ∀ c c', op = .create c → op' = .create c' →
    sameName c.table c'.table = false
  columnsNew : ∀ a, .add a ∈ p.operations → ∀ u, db.table? a.table = some u → ∀ c ∈ a.columns,
    ∀ name, columnNamed c.name = .ok name → u.column? name = none
  columnsDiffer : ∀ op ∈ p.operations,
    (op.columns.map (·.name)).Pairwise fun v w => v.sameColumn w = false

/-- The columns that a table of a name has, or will be created with by itself. -/
def Database.columnsOf (db : Database) (table : String) : List String :=
  match db.tables.find? fun u => u.name == table with
  | some u => u.columnNames
  | none => [primaryKeyName]

/-- The columns of a definition that a table of its name does not have. -/
def Table.newColumns (t : Table) (db : Database) : Columns :=
  t.fields.names.filter fun v => !v.text?.any (db.columnsOf t.name).contains

/-- Names of a schema and a database that are the same to the database are equal. -/
@[mk_iff]
structure Schema.NamesAgree (s : Schema) (db : Database) : Prop where
  tables : ∀ t ∈ s, ∀ u ∈ db.tables, sameName u.name t.name = true →
    u.name = t.name ∧ Database.isReserved u.name = false
  tablesDiffer : s.Pairwise fun t t' => sameName t.name t'.name = false
  columns : ∀ t ∈ s, ∀ name ∈ db.columnsOf t.name, ∀ v ∈ t.newColumns db,
    (Value.text name).sameColumn v = false
  columnsDiffer : ∀ t ∈ s, (t.newColumns db).Pairwise fun v w => v.sameColumn w = false

instance (s : Schema) (db : Database) : Decidable (s.NamesAgree db) :=
  decidable_of_iff' _ (Schema.namesAgree_iff s db)

/-! ## Tables that are there -/

namespace Database

variable {db : Database}

theorem table?_eq_none_iff {name : String} : db.table? name = none ↔
    ∀ u ∈ db.tables, sameName u.name name = false := by
  simp [table?, List.find?_eq_none]

namespace NamesDiffer

variable (hdb : db.NamesDiffer) {u : StoredTable} (hu : u ∈ db.tables)
include hdb hu

theorem table?_name : db.table? u.name = some u := by
  cases htable : db.table? u.name with
  | none => exact absurd (table?_eq_none_iff.1 htable u hu) (by simp [sameName])
  | some u' =>
    obtain ⟨hu', hsame⟩ := table?_eq_some htable
    rw [hdb.eq_of_sameName hu' hu hsame]

theorem columnsOf_name : db.columnsOf u.name = u.columnNames := by
  have hnames : (db.tables.map StoredTable.name).Nodup := by
    refine List.Nodup.of_map Text.asciiLower ?_
    rwa [List.map_map]
  rw [columnsOf, find?_of_nodup_map hnames hu]

theorem shows_name_iff (hreserved : isReserved u.name = false) {column : String} :
    db.Shows u.name column ↔ column ∈ u.columnNames := by
  rw [Database.shows_iff_exists]
  constructor
  · rintro ⟨u', hu', -, hname, hcolumn⟩
    obtain rfl := hdb.eq_of_sameName hu' hu (sameName_iff.2 (by rw [hname]))
    exact hcolumn
  · exact fun hcolumn => ⟨u, hu, hreserved, rfl, hcolumn⟩

end NamesDiffer

end Database

theorem StoredTable.column?_eq_none_iff {u : StoredTable} {name : String} :
    u.column? name = none ↔ ∀ c ∈ u.columnNames, sameName c name = false := by
  simp [column?, columnNames, List.find?_eq_none]

/-! ## What a plan does -/

/-- A table of a definition is there under its name, and is reported. -/
structure Table.IsStoredAs (t : Table) (db : Database) (u : StoredTable) : Prop where
  mem : u ∈ db.tables
  name : u.name = t.name
  shown : Database.isReserved u.name = false

/-- A plan creates the tables of a schema that are not there, and adds the columns that are new to
    those that are there. -/
structure Plan.Completes (p : Plan) (s : Schema) (db : Database) : Prop where
  creates : ∀ t ∈ s, (¬ ∃ u, t.IsStoredAs db u) → ∃ c, .create c ∈ p.operations ∧
    c.table = t.name ∧ c.columnNames = .text primaryKeyName :: t.fields.names
  adds : ∀ t ∈ s, (∃ u, t.IsStoredAs db u) → t.newColumns db ≠ [] → ∃ a, .add a ∈ p.operations ∧
    a.table = t.name ∧ a.columnNames = t.newColumns db
  of_create : ∀ c, .create c ∈ p.operations → ∃ t ∈ s, (¬ ∃ u, t.IsStoredAs db u) ∧
    c.table = t.name ∧ c.columnNames = .text primaryKeyName :: t.fields.names
  of_add : ∀ a, .add a ∈ p.operations → ∃ t ∈ s, (∃ u, t.IsStoredAs db u) ∧ a.table = t.name ∧
    a.columnNames = t.newColumns db
  declares_no_key : ∀ t ∈ s, (¬ ∃ u, t.IsStoredAs db u) →
    ∀ v ∈ t.fields.names, v.text? ≠ some primaryKeyName
  nodup : (p.operations.map Operation.table).Nodup

section Planned

variable {db : Database} {live : List LiveTable} {s : Schema} {p : Plan} {t : Table}
  (hlive : (db.introspect none).outcome = .ok live)
include hlive

theorem isSome_liveTable?_iff_stored :
    (liveTable? live t.name).isSome ↔ ∃ u, t.IsStoredAs db u := by
  rw [Database.isSome_liveTable?_iff hlive, Database.mem_names_shown]
  constructor
  · rintro ⟨u, ⟨hu, hreserved⟩, hname⟩
    exact ⟨u, hu, hname, hreserved⟩
  · rintro ⟨u, hu, hname, hreserved⟩
    exact ⟨u, ⟨hu, hreserved⟩, hname⟩

theorem newColumns_of_live (hdb : db.NamesDiffer) {l : LiveTable}
    (hl : liveTable? live t.name = some l) : t.newColumns db = (t.missingFields l).names := by
  obtain ⟨u, hu, hname, hreserved⟩ := (isSome_liveTable?_iff_stored (t := t) hlive).1 (by simp [hl])
  -- what is reported of the columns are their names
  have hcolumn : ∀ v : Value, (l.column? v).isNone =
      !v.text?.any (db.columnsOf t.name).contains := by
    intro v
    have hiff : (l.column? v).isSome ↔ ∃ s, v.text? = some s ∧ s ∈ u.columnNames := by
      simp only [Database.isSome_column?_iff hdb hlive hl, ← hname, hdb.shows_name_iff hu hreserved]
    rw [← hname, hdb.columnsOf_name hu, ← Option.not_isSome, Bool.not_inj_iff, Bool.eq_iff_iff,
      hiff]
    simp [Option.any_eq_true]
  rw [Table.newColumns, Table.missingFields, Bag.names, Bag.names, List.filter_map]
  simp only [hcolumn]
  rfl

theorem completes_of_makesUpFor (hdb : db.NamesDiffer)
    (hmakes : p.MakesUpFor s.entries live .sqlite) : p.Completes s db := by
  -- a table is lacking just where none is stored under its name
  have hnone : ∀ {t : Table}, liveTable? live t.name = none ↔ ¬ ∃ u, t.IsStoredAs db u := by
    intro t
    rw [← isSome_liveTable?_iff_stored hlive, Option.not_isSome_iff_eq_none]
  refine ⟨fun t ht hfree => ?_, fun t ht hstored hnew => ?_, fun c hc => ?_, fun a ha => ?_,
    fun t ht hfree v hv => ?_, hmakes.nodup⟩
  · exact ⟨_, (hmakes.mem_operations_iff _).2
      (.inl ⟨t, Schema.mem_entries.2 ht, hnone.2 hfree, rfl⟩), rfl, Table.columnNames_creation⟩
  · obtain ⟨l, hl⟩ := Option.isSome_iff_exists.1 ((isSome_liveTable?_iff_stored hlive).2 hstored)
    rw [newColumns_of_live hlive hdb hl] at hnew ⊢
    have hmissing : t.missingFields l ≠ [] := fun hnil => hnew (by rw [hnil]; rfl)
    have hx := Table.extension?_eq_some.2 ⟨hmissing, rfl⟩
    exact ⟨_, (hmakes.mem_operations_iff _).2
      (.inr ⟨t, l, _, Schema.mem_entries.2 ht, hl, hx, rfl⟩), rfl, Extension.columnNames_addition⟩
  · rcases (hmakes.mem_operations_iff _).1 hc with ⟨t, ht, hl, heq⟩ | ⟨t, l, x, -, -, -, heq⟩
    · obtain rfl := Operation.create.inj heq
      exact ⟨t, Schema.mem_entries.1 ht, hnone.1 hl, rfl, Table.columnNames_creation⟩
    · exact Operation.noConfusion heq
  · rcases (hmakes.mem_operations_iff _).1 ha with ⟨t, -, -, heq⟩ | ⟨t, l, x, ht, hl, hx, heq⟩
    · exact Operation.noConfusion heq
    · obtain rfl := Operation.add.inj heq
      obtain ⟨hname, hfields, -⟩ := Table.extension?_inv hx
      refine ⟨t, Schema.mem_entries.1 ht,
        (isSome_liveTable?_iff_stored hlive).1 (by simp [hl]), hname, ?_⟩
      rw [newColumns_of_live hlive hdb hl, Extension.columnNames_addition, hfields]
  · obtain ⟨e, he, rfl⟩ := List.mem_map.1 hv
    exact hmakes.text?_ne_key (Schema.mem_entries.2 ht) (hnone.2 hfree) he

end Planned

/-! ## Clashes -/

section Clashes

variable {db : Database} {s : Schema} {p : Plan} (hdb : db.NamesDiffer)

theorem Table.IsStoredAs.columnsOf {t : Table} {u : StoredTable} (h : t.IsStoredAs db u)
    (hdb : db.NamesDiffer) : db.table? t.name = some u ∧ db.columnsOf t.name = u.columnNames := by
  rw [← h.name]
  exact ⟨hdb.table?_name h.mem, hdb.columnsOf_name h.mem⟩

/-- A table that is not stored under its name is not there at all, if only such tables go by its
    name. -/
theorem not_there_of_not_stored {t : Table} (hfree : ¬ ∃ u, t.IsStoredAs db u)
    (hexact : ∀ u ∈ db.tables, sameName u.name t.name = true →
      u.name = t.name ∧ Database.isReserved u.name = false) :
    db.table? t.name = none ∧ db.columnsOf t.name = [primaryKeyName] := by
  have hnone : ∀ u ∈ db.tables, sameName u.name t.name = false := by
    intro u hu
    by_contra hsame
    obtain ⟨hname, hreserved⟩ := hexact u hu (by simpa using hsame)
    exact hfree ⟨u, hu, hname, hreserved⟩
  refine ⟨Database.table?_eq_none_iff.2 hnone, ?_⟩
  have hfind : db.tables.find? (fun u => u.name == t.name) = none := by
    refine List.find?_eq_none.2 fun u hu hname => ?_
    have hsame := hnone u hu
    rw [beq_iff_eq.1 hname] at hsame
    simp [sameName] at hsame
  rw [Database.columnsOf, hfind]

theorem newColumns_of_key {t : Table} (hcolumns : db.columnsOf t.name = [primaryKeyName])
    (hkey : ∀ v ∈ t.fields.names, v.text? ≠ some primaryKeyName) :
    t.newColumns db = t.fields.names := by
  refine List.filter_eq_self.2 fun v hv => ?_
  have hne := hkey v hv
  rw [hcolumns]
  cases htext : v.text? with
  | none => rfl
  | some name => simpa [htext] using hne

variable (h : p.Completes s db) (names : (s.map Table.name).Nodup)
include hdb h

theorem Plan.AvoidsClashes.tables (havoids : p.AvoidsClashes db) {t : Table} (ht : t ∈ s)
    {u : StoredTable} (hu : u ∈ db.tables) (hsame : sameName u.name t.name = true) :
    u.name = t.name ∧ Database.isReserved u.name = false := by
  by_cases hstored : ∃ u, t.IsStoredAs db u
  · obtain ⟨u', hu', hname, hreserved⟩ := hstored
    obtain rfl := hdb.eq_of_sameName hu hu' (hname ▸ hsame)
    exact ⟨hname, hreserved⟩
  · obtain ⟨c, hc, hname, -⟩ := h.creates t ht hstored
    have hnone := Database.table?_eq_none_iff.1 (havoids.tablesNew c hc) u hu
    rw [hname, hsame] at hnone
    exact Bool.noConfusion hnone

/-- The columns of a table that is there are followed by those that are added, and those of a
    table that is created by its fields. -/
theorem Plan.AvoidsClashes.columns (havoids : p.AvoidsClashes db) {t : Table} (ht : t ∈ s) :
    (∀ name ∈ db.columnsOf t.name, ∀ v ∈ t.newColumns db,
      (Value.text name).sameColumn v = false) ∧
      (t.newColumns db).Pairwise fun v w => v.sameColumn w = false := by
  by_cases hstored : ∃ u, t.IsStoredAs db u
  · -- the table is there, and is added to unless nothing is new
    by_cases hnew : t.newColumns db = []
    · simp [hnew]
    obtain ⟨a, ha, hname, hnames⟩ := h.adds t ht hstored hnew
    obtain ⟨u, hu⟩ := hstored
    obtain ⟨htable, hcolumnsOf⟩ := hu.columnsOf hdb
    rw [← hname] at htable
    rw [hcolumnsOf, ← hnames]
    refine ⟨fun name hmem v hv => ?_, havoids.columnsDiffer _ ha⟩
    obtain ⟨c, hc, rfl⟩ := List.mem_map.1 hv
    refine Value.sameColumn_text_eq_false.2 fun name' hname' => ?_
    have hnone := havoids.columnsNew a ha u htable c hc name' hname'
    exact StoredTable.column?_eq_none_iff.1 hnone name hmem
  · -- the table is created, with its key in front of all that is new
    obtain ⟨c, hc, hname, hnames⟩ := h.creates t ht hstored
    obtain ⟨-, hcolumnsOf⟩ := not_there_of_not_stored hstored
      fun u hu => havoids.tables hdb h ht hu
    rw [newColumns_of_key hcolumnsOf (h.declares_no_key t ht hstored), hcolumnsOf]
    have hdiffer := havoids.columnsDiffer _ hc
    rw [show (Operation.create c).columns.map (·.name) = _ from hnames,
      List.pairwise_cons] at hdiffer
    exact ⟨fun name hmem v hv => List.mem_singleton.1 hmem ▸ hdiffer.1 v hv, hdiffer.2⟩

omit hdb in
theorem Schema.NamesAgree.columnsDiffer_operation (hagree : s.NamesAgree db) {op : Operation}
    (hop : op ∈ p.operations) :
    (op.columns.map (·.name)).Pairwise fun v w => v.sameColumn w = false := by
  cases op with
  | create c =>
    obtain ⟨t, ht, hfree, -, hnames⟩ := h.of_create c hop
    obtain ⟨-, hcolumnsOf⟩ := not_there_of_not_stored hfree (hagree.tables t ht)
    have hnew := newColumns_of_key hcolumnsOf (h.declares_no_key t ht hfree)
    rw [show (Operation.create c).columns.map (·.name) = _ from hnames, List.pairwise_cons,
      ← hnew]
    refine ⟨hagree.columns t ht primaryKeyName ?_, hagree.columnsDiffer t ht⟩
    rw [hcolumnsOf]
    exact List.mem_singleton_self _
  | add a =>
    obtain ⟨t, ht, -, -, hnames⟩ := h.of_add a hop
    rw [show (Operation.add a).columns.map (·.name) = _ from hnames]
    exact hagree.columnsDiffer t ht

include names

theorem Plan.AvoidsClashes.tablesDiffer_schema (havoids : p.AvoidsClashes db) :
    s.Pairwise fun t t' => sameName t.name t'.name = false := by
  have htables := fun {t} => havoids.tables hdb h (t := t)
  refine (List.Nodup.of_map _ names).pairwise_of_forall_ne fun t ht t' ht' hne => ?_
  have hname : t.name ≠ t'.name := fun heq => hne (List.inj_on_of_nodup_map names ht ht' heq)
  by_contra hsame
  rw [Bool.not_eq_false] at hsame
  -- a stored table is met under its exact name, which the other one does not have
  by_cases hstored : ∃ u, t.IsStoredAs db u
  · obtain ⟨u, hu, hut, -⟩ := hstored
    exact hname (hut ▸ (htables ht' hu (hut ▸ hsame)).1)
  by_cases hstored' : ∃ u, t'.IsStoredAs db u
  · obtain ⟨u, hu, hut, -⟩ := hstored'
    rw [sameName_comm] at hsame
    exact hname (hut ▸ (htables ht hu (hut ▸ hsame)).1).symm
  · -- both are created
    obtain ⟨c, hc, hct, -⟩ := h.creates t ht hstored
    obtain ⟨c', hc', hct', -⟩ := h.creates t' ht' hstored'
    have hsymm : Std.Symm fun op op' : Operation => ∀ c c', op = .create c → op' = .create c' →
        sameName c.table c'.table = false :=
      ⟨fun op op' h c c' hc hc' => sameName_comm .. ▸ h c' c hc' hc⟩
    have hdiffers := havoids.tablesDiffer.forall hc hc' fun heq => hname <| by
      rw [← hct, ← hct', Operation.create.inj heq]
    have hdiffers := hdiffers c c' rfl rfl
    rw [hct, hct', hsame] at hdiffers
    exact Bool.noConfusion hdiffers

theorem avoidsClashes_iff_namesAgree : p.AvoidsClashes db ↔ s.NamesAgree db := by
  constructor
  · intro havoids
    exact ⟨fun t ht u hu => havoids.tables hdb h ht hu, havoids.tablesDiffer_schema hdb h names,
      fun t ht => (havoids.columns hdb h ht).1, fun t ht => (havoids.columns hdb h ht).2⟩
  · intro hagree
    refine ⟨fun c hc => ?_, ?_, fun a ha u hu c hc name hname => ?_,
      fun op hop => hagree.columnsDiffer_operation h hop⟩
    · obtain ⟨t, ht, hfree, hname, -⟩ := h.of_create c hc
      rw [hname]
      exact (not_there_of_not_stored hfree (hagree.tables t ht)).1
    · refine (List.Nodup.of_map _ h.nodup).pairwise_of_forall_ne fun op hop op' hop' hne => ?_
      rintro c c' rfl rfl
      obtain ⟨t, ht, -, hname, -⟩ := h.of_create c hop
      obtain ⟨t', ht', -, hname', -⟩ := h.of_create c' hop'
      have hsymm : Std.Symm fun t t' : Table => sameName t.name t'.name = false :=
        ⟨fun t t' h => sameName_comm .. ▸ h⟩
      rw [hname, hname']
      refine hagree.tablesDiffer.forall ht ht' fun heq => hne ?_
      exact List.inj_on_of_nodup_map h.nodup hop hop' (hname.trans (heq ▸ hname'.symm))
    · obtain ⟨t, ht, ⟨u', hstored⟩, htable, hnames⟩ := h.of_add a ha
      obtain ⟨hfound, hcolumnsOf⟩ := hstored.columnsOf hdb
      rw [htable, hfound] at hu
      obtain rfl := Option.some.inj hu
      refine StoredTable.column?_eq_none_iff.2 fun name' hmem => ?_
      have hnew : c.name ∈ t.newColumns db := hnames ▸ List.mem_map_of_mem hc
      have hdiffers := hagree.columns t ht name' (hcolumnsOf ▸ hmem) c.name hnew
      exact Value.sameColumn_text_eq_false.1 hdiffers name hname

end Clashes

/-! ## Migrations -/

namespace Migration

/-- A migration that is planned for SQLite avoids clashes just if names of the schema and the
    database that are the same to the database are equal. -/
theorem avoidsClashes_iff {db : Database} {fragments : List Fragment} {stated : Option String}
    {m : Migration} (hdb : db.NamesDiffer)
    (hstated : ∀ name ∈ stated, Dialect.ofName? name = some .sqlite)
    (hm : (prepare db fragments stated none).outcome = .ok m) :
    ∃ schema, (Schema.assemble fragments).outcome = .ok schema ∧
      (m.plan.AvoidsClashes db ↔ schema.NamesAgree db) := by
  obtain ⟨target, htarget, -⟩ := Logged.outcome_bind_eq_ok.1 hm
  obtain ⟨schema, hschema, -⟩ := Logged.outcome_bind_eq_ok.1 htarget
  obtain ⟨live, hlive, hfound, hplan⟩ :=
    against_eq_ok.1 ((prepare_of_assemble db hstated hschema).1.symm.trans hm)
  have names := Schema.assemble_nodup hschema
  have hmakes := Plan.build_difference_makesUpFor (Schema.entries_nodup names) hfound hplan
  exact ⟨schema, hschema,
    avoidsClashes_iff_namesAgree hdb (completes_of_makesUpFor hlive hdb hmakes) names⟩

/-- Names that differ in the case of a letter beyond ASCII are different to a database. -/
def floors : List Fragment :=
  [⟨"door", Bag.toValue [(.text "étage", Field.plain .number), (.text "Étage", Field.plain .string),
      (.text "room", { Field.plain .string with
        references := .reference ⟨.text "room", .text "id", none⟩ })], none, none, [], []⟩,
    ⟨"room", Bag.toValue [(.text "id", Field.plain .string),
      (.text "size", { Field.plain .number with required := .bool false })],
      some (.int 1), none, [], []⟩]

theorem floors_avoidsClashes :
    let db : Database := ⟨[storedRoom], [], .none⟩
    db.NamesDiffer ∧ ∃ m, (prepare db floors none none).outcome = .ok m ∧
      m.plan.operations.map Operation.table = ["room", "door"] ∧ m.plan.AvoidsClashes db := by
  intro db
  have hdb : db.NamesDiffer := List.nodup_singleton _
  have hplanned : (prepare db floors none none).outcome.toOption.any (fun m =>
      m.plan.operations.map Operation.table == ["room", "door"]) = true := by decide +kernel
  obtain ⟨m, hm, htables⟩ := Except.exists_of_any hplanned
  obtain ⟨schema, hschema, hiff⟩ := avoidsClashes_iff hdb (by simp) hm
  have hagrees : (Schema.assemble floors).outcome.toOption.any (fun s =>
      decide (s.NamesAgree db)) = true := by decide +kernel
  obtain ⟨schema', hschema', hagrees⟩ := Except.exists_of_any hagrees
  obtain rfl := Except.ok.inj (hschema.symm.trans hschema')
  exact ⟨hdb, m, hm, by simpa using htables, hiff.2 (by simpa using hagrees)⟩

/-- A table with a key of its own, which is the generated one but for its case. -/
def ownKey : List Fragment :=
  [⟨"room", Bag.toValue [(.text "ID", Field.plain .string)], none, none, [], []⟩]

/-- The key is not reserved by that name, and so the database refuses the table. -/
theorem ownKey_not_avoidsClashes :
    Database.empty.NamesDiffer ∧ ∃ m, (prepare .empty ownKey none none).outcome = .ok m ∧
      ¬ m.plan.AvoidsClashes .empty ∧ (m.run .engine .empty).failure.isSome = true := by
  have hplanned : (prepare .empty ownKey none none).outcome.toOption.any (fun m =>
      (m.plan.operations.any fun op =>
        !decide ((op.columns.map (·.name)).Pairwise fun v w => v.sameColumn w = false)) &&
      (m.run .engine .empty).failure.isSome) = true := by decide +kernel
  obtain ⟨m, hm, hplanned⟩ := Except.exists_of_any hplanned
  rw [Bool.and_eq_true, List.any_eq_true] at hplanned
  obtain ⟨⟨op, hop, hsame⟩, hfails⟩ := hplanned
  refine ⟨Database.empty_namesDiffer, m, hm, fun havoids => ?_, hfails⟩
  exact absurd (havoids.columnsDiffer op hop) (by simpa using hsame)

end Migration

end Accrete
