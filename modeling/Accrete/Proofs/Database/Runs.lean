import Accrete.Proofs.Database.Repeating

/-!
# Statements in sequence

Statements that take effect one after the other.  Nothing that they find or make is lost, so none
of them can make what was there before.

* `Database.Runs`           -- statements lead from one database to another
* `Statement.IsPlanned`     -- a statement as it is planned for SQLite
* `Database.Grows`          -- tables keep their names and their columns
* `Database.Runs.grows`     -- which they do whatever planned statements are run
* `Database.Runs.not_has`, `Database.Runs.has` -- a column that is added was not there, and then is
-/

namespace Accrete

/-- A statement as it is planned for SQLite. -/
inductive Statement.IsPlanned : Statement → Prop where
  | createTable {table : String} {c : ColumnSpec} {cs : List ColumnSpec} {key : List String}
      {others : List Constraint} (hc : c.type ∈ sqliteTypes)
      (hcs : ∀ c ∈ cs, c.type ∈ sqliteTypes) :
      IsPlanned (.createTable table (c :: cs) (.primaryKey key :: others))
  | addColumn {table : String} {c : ColumnSpec} {references : Option InlineReference}
      (hc : c.type ∈ sqliteTypes) : IsPlanned (.addColumn table c false references)
  | createIndex {index table : String} {columns : List String} {unique : Bool} :
      IsPlanned (.createIndex index table columns unique)

namespace Database

variable {db db' db'' : Database} {s : Statement} {ss : List Statement}

/-- A statement is written, and leads from one database to another. -/
def Executes (db : Database) (s : Statement) (db' : Database) : Prop :=
  ∃ text, s.sent .sqlite = .ok text ∧ db.execute s text = .ok db'

/-- Statements lead from one database to another, one after the other. -/
inductive Runs : Database → List Statement → Database → Prop where
  | nil {db : Database} : Runs db [] db
  | cons {db db' db'' : Database} {s : Statement} {ss : List Statement} :
      db.Executes s db' → Runs db' ss db'' → Runs db (s :: ss) db''

theorem runs_nil : db.Runs [] db' ↔ db' = db :=
  ⟨fun h => by cases h; rfl, fun h => h ▸ .nil⟩

theorem runs_cons : db.Runs (s :: ss) db'' ↔ ∃ db', db.Executes s db' ∧ db'.Runs ss db'' :=
  ⟨fun h => by cases h with | cons hs hss => exact ⟨_, hs, hss⟩, fun ⟨_, hs, hss⟩ => .cons hs hss⟩

theorem runs_append {before after : List Statement} :
    db.Runs (before ++ after) db'' ↔ ∃ db', db.Runs before db' ∧ db'.Runs after db'' := by
  induction before generalizing db with
  | nil => simp [runs_nil]
  | cons s before ih =>
    simp only [List.cons_append, runs_cons, ih]
    exact ⟨fun ⟨_, hs, _, hb, ha⟩ => ⟨_, ⟨_, hs, hb⟩, ha⟩,
      fun ⟨_, ⟨_, hs, hb⟩, ha⟩ => ⟨_, hs, _, hb, ha⟩⟩

theorem Executes.unique (h : db.Executes s db') (h' : db.Executes s db'') : db' = db'' := by
  obtain ⟨text, hsent, hexecute⟩ := h
  obtain ⟨text', hsent', hexecute'⟩ := h'
  obtain rfl := Except.ok.inj (hsent.symm.trans hsent')
  exact Except.ok.inj (hexecute.symm.trans hexecute')

theorem Runs.unique (h : db.Runs ss db') (h' : db.Runs ss db'') : db' = db'' := by
  induction h with
  | nil => exact (runs_nil.1 h').symm
  | cons hs _ ih =>
    obtain ⟨_, hs', hss'⟩ := runs_cons.1 h'
    exact ih (hs.unique hs' ▸ hss')

theorem Runs.exists_sent (h : db.Runs ss db') (hs : s ∈ ss) :
    ∃ text, s.sent .sqlite = .ok text := by
  induction h with
  | nil => exact absurd hs List.not_mem_nil
  | cons hfirst _ ih =>
    rcases List.mem_cons.1 hs with rfl | hs
    · obtain ⟨text, hsent, -⟩ := hfirst
      exact ⟨text, hsent⟩
    · exact ih hs

/-! ## Growth -/

/-- Tables keep their names, and their columns come first. -/
def Grows (db db' : Database) : Prop :=
  ∀ t ∈ db.tables, ∃ t' ∈ db'.tables, t'.name = t.name ∧ t.columns <+: t'.columns

namespace Grows

theorem refl (db : Database) : db.Grows db := fun t ht => ⟨t, ht, rfl, List.prefix_rfl⟩

theorem trans (h : db.Grows db') (h' : db'.Grows db'') : db.Grows db'' := by
  intro t ht
  obtain ⟨t', ht', hname, hcolumns⟩ := h t ht
  obtain ⟨t'', ht'', hname', hcolumns'⟩ := h' t' ht'
  exact ⟨t'', ht'', hname'.trans hname, hcolumns.trans hcolumns'⟩

theorem hasTable (h : db.Grows db') {table : String} (hdb : db.HasTable table) :
    db'.HasTable table := by
  obtain ⟨t, ht, hsame⟩ := hdb
  obtain ⟨t', ht', hname, -⟩ := h t ht
  exact ⟨t', ht', hname ▸ hsame⟩

theorem has (h : db.Grows db') {table column : String} (hdb : db.Has table column) :
    db'.Has table column := by
  obtain ⟨t, ht, hsame, c, hc, hcsame⟩ := hdb
  obtain ⟨t', ht', hname, hcolumns⟩ := h t ht
  exact ⟨t', ht', hname ▸ hsame, c, hcolumns.subset hc, hcsame⟩

end Grows

theorem Executes.namesDiffer (hdb : db.NamesDiffer) (h : db.Executes s db') : db'.NamesDiffer := by
  obtain ⟨text, -, hexecute⟩ := h
  exact execute_namesDiffer hdb hexecute

theorem grows_withTable (t : StoredTable) : db.Grows (db.withTable t) := by
  obtain ⟨own, htables, -⟩ := tables_withTable db t
  refine fun u hu => ⟨u, ?_, rfl, List.prefix_rfl⟩
  rw [htables, List.append_assoc]
  exact List.mem_append_left _ hu

theorem grows_update (hdb : db.NamesDiffer) {t whole : StoredTable} (ht : t ∈ db.tables)
    (hname : whole.name = t.name) (hcolumns : t.columns <+: whole.columns) :
    db.Grows (db.update t.name fun _ => whole) := by
  intro u hu
  refine ⟨_, List.mem_map_of_mem hu, ?_⟩
  split
  next hsame =>
    obtain rfl := hdb.eq_of_sameName hu ht hsame
    exact ⟨hname, hcolumns⟩
  · exact ⟨rfl, List.prefix_rfl⟩

theorem mem_update {t whole : StoredTable} (ht : t ∈ db.tables) :
    whole ∈ (db.update t.name fun _ => whole).tables :=
  List.mem_map.2 ⟨t, ht, if_pos (sameName_iff.2 rfl)⟩

theorem Executes.grows (hdb : db.NamesDiffer) (hs : s.IsPlanned) (h : db.Executes s db') :
    db.Grows db' := by
  obtain ⟨text, hsent, hexecute⟩ := h
  cases hs with
  | createTable hc hcs =>
    obtain ⟨t, rfl, -⟩ := createTable_eq_withTable hc hcs hsent hexecute
    exact grows_withTable t
  | addColumn hc =>
    obtain ⟨t, ht, -, whole, column, hname, hcolumns, -, rfl⟩ :=
      addColumn_eq_update hc hsent hexecute
    exact grows_update hdb ht hname (hcolumns ▸ List.prefix_append ..)
  | createIndex =>
    rw [Grows, tables_createIndex hexecute]
    exact Grows.refl db

namespace Runs

theorem namesDiffer (hdb : db.NamesDiffer) (h : db.Runs ss db') : db'.NamesDiffer := by
  induction h with
  | nil => exact hdb
  | cons hs _ ih => exact ih (hs.namesDiffer hdb)

variable (hdb : db.NamesDiffer) (hplanned : ∀ s ∈ ss, s.IsPlanned) (h : db.Runs ss db')
include hdb hplanned h

theorem grows : db.Grows db' := by
  induction h with
  | nil => exact .refl _
  | cons hs _ ih =>
    obtain ⟨hfirst, hrest⟩ := List.forall_mem_cons.1 hplanned
    exact (hs.grows hdb hfirst).trans (ih (hs.namesDiffer hdb) hrest)

/-- A statement of a sequence is executed somewhere on the way. -/
theorem exists_executes (hs : s ∈ ss) : ∃ d d' : Database,
    d.NamesDiffer ∧ db.Grows d ∧ d.Executes s d' ∧ d'.Grows db' := by
  obtain ⟨before, after, rfl⟩ := List.append_of_mem hs
  obtain ⟨d, hbefore, hrest⟩ := runs_append.1 h
  obtain ⟨d', hexecutes, hafter⟩ := runs_cons.1 hrest
  have hd := hbefore.namesDiffer hdb
  exact ⟨d, d', hd, hbefore.grows hdb fun s hs => hplanned s (List.mem_append_left _ hs), hexecutes,
    hafter.grows (hexecutes.namesDiffer hd) fun s hs =>
      hplanned s (List.mem_append_right _ (List.mem_cons_of_mem _ hs))⟩

section Column

variable {table : String} {c : ColumnSpec} {references : Option InlineReference}
  (hs : .addColumn table c false references ∈ ss)
include hs

/-- A column that is added was not there before, and its name is no word that starts a
    constraint. -/
theorem not_has : Definition.startsConstraint c = false ∧
    ¬ db.Has (Dialect.sqlite.readBack table) (Dialect.sqlite.readBack c.name) := by
  obtain ⟨d, d', hd, hgrows, ⟨text, hsent, hexecute⟩, -⟩ := h.exists_executes hdb hplanned hs
  cases hplanned _ hs with | addColumn hc =>
  obtain ⟨hstarts, hnot⟩ := addColumn_fresh hd hc hsent hexecute
  -- had it been there before, it would still be there when the statement is executed
  exact ⟨hstarts, fun hhas => hnot (hgrows.has hhas)⟩

theorem has : db'.Has (Dialect.sqlite.readBack table) (Dialect.sqlite.readBack c.name) := by
  obtain ⟨d, d', hd, -, ⟨text, hsent, hexecute⟩, hgrows⟩ := h.exists_executes hdb hplanned hs
  cases hplanned _ hs with | addColumn hc =>
  obtain ⟨t, ht, hsame, whole, column, hname, hcolumns, hdeclared, rfl⟩ :=
    addColumn_eq_update hc hsent hexecute
  have hcolumn : column.name = _ := (Prod.mk.inj hdeclared).1
  -- no later statement takes the column away
  refine hgrows.has ⟨whole, mem_update ht, hname ▸ hsame, column, ?_, ?_⟩
  · rw [hcolumns]
    exact List.mem_append_right _ List.mem_cons_self
  · rw [hcolumn, sameName_iff]

end Column

section Table

variable {table : String} {cs : List ColumnSpec} {constraints : List Constraint}
  (hs : .createTable table cs constraints ∈ ss)
include hs

theorem not_hasTable : ¬ db.HasTable (Dialect.sqlite.readBack table) := by
  obtain ⟨d, d', hd, hgrows, ⟨text, hsent, hexecute⟩, -⟩ := h.exists_executes hdb hplanned hs
  cases hplanned _ hs with | createTable hc hcs =>
  exact fun hhas => createTable_fresh hc hcs hsent hexecute (hgrows.hasTable hhas)

theorem exists_created : ∃ c cs', cs = c :: cs' ∧ ∃ t ∈ db'.tables,
    sameName t.name (Dialect.sqlite.readBack table) = true ∧
      Definition.readAs c :: Definition.declaredBy cs' <+: t.declared := by
  obtain ⟨d, d', hd, -, ⟨text, hsent, hexecute⟩, hgrows⟩ := h.exists_executes hdb hplanned hs
  cases hplanned _ hs with | createTable hc hcs =>
  obtain ⟨t, rfl, hname, hdeclared, -⟩ := createTable_eq_withTable hc hcs hsent hexecute
  obtain ⟨t', ht', hname', hcolumns⟩ :=
    hgrows t (List.mem_append_right _ List.mem_cons_self)
  refine ⟨_, _, rfl, t', ht', ?_, ?_⟩
  · rw [hname', hname, sameName_iff]
  · rw [← hdeclared]
    exact hcolumns.map _

theorem hasTable : db'.HasTable (Dialect.sqlite.readBack table) := by
  obtain ⟨-, -, -, t, ht, hsame, -⟩ := h.exists_created hdb hplanned hs
  exact ⟨t, ht, hsame⟩

/-- All columns of a table that is created are there, if none is taken for a constraint. -/
theorem has_of_created (hstarts : ∀ c ∈ cs, Definition.startsConstraint c = false) {c : ColumnSpec}
    (hc : c ∈ cs) : db'.Has (Dialect.sqlite.readBack table) (Dialect.sqlite.readBack c.name) := by
  obtain ⟨first, later, rfl, t, ht, hsame, hdeclared⟩ := h.exists_created hdb hplanned hs
  -- the columns that are read end where a constraint seems to start
  have hall : Definition.declaredBy later = later.map Definition.readAs := by
    rw [Definition.declaredBy, List.takeWhile_eq_self_iff.2 fun c hc => ?_]
    simp [hstarts c (List.mem_cons_of_mem _ hc)]
  rw [hall, ← List.map_cons] at hdeclared
  obtain ⟨column, hcolumn, heq⟩ := List.mem_map.1 (hdeclared.subset (List.mem_map_of_mem hc))
  have hname : column.name = _ := (Prod.mk.inj heq).1
  exact ⟨t, ht, hsame, column, hcolumn, by rw [hname, sameName_iff]⟩

end Table

end Runs

end Database

end Accrete
