import Accrete.Database
import Accrete.Proofs.Database.ReadingStatements
import Mathlib.Data.List.Nodup

/-!
# What statements do to a database

A statement of a migration changes one table or adds one, as it says.

* `Database.NamesDiffer`            -- no two tables go by the same name
* `Database.Reachable.namesDiffer`  -- which holds of all databases that can be come by
* `Database.shown`                  -- the tables that are not kept for the database itself
* `Database.createTable_eq_withTable`, `Database.addColumn_eq_update` -- what statements of a
  migration do
* `Database.shown_createTable`, `Database.shown_addColumn`, `Database.shown_createIndex` -- and what
  they do to the tables that are shown
-/

namespace Accrete

theorem sameName_iff {a b : String} :
    sameName a b = true ↔ Text.asciiLower a = Text.asciiLower b := beq_iff_eq

def StoredTable.declared (t : StoredTable) : List (String × Option String) :=
  t.columns.map StoredColumn.declared

theorem TableStatement.table_eq_ok {s : TableStatement} {reread : Bool} {t : StoredTable}
    (h : s.table reread = .ok t) :
    t.name = s.definition.name ∧ t.declared = s.definition.declared := by
  obtain ⟨d, hd, h⟩ := Except.bind_eq_ok.1 h
  have ht : d.table s.options s.source = t := by
    cases hfault : s.fault with
    | none => simpa [hfault] using h
    | some fault => simp [hfault, bind, Except.bind] at h
  subst ht
  exact Definition.complete_eq_ok hd

theorem Inserting.bind_eq_ok {α β : Type} {x : Inserting α} {f : α → Inserting β} {n n' : Nat}
    {b : β} : (x >>= f).run n = .ok (b, n') ↔
      ∃ a m, x.run n = .ok (a, m) ∧ (f a).run m = .ok (b, n') := by
  rw [StateT.run_bind, Except.bind_eq_ok]
  exact ⟨fun ⟨⟨a, m⟩, hx, hf⟩ => ⟨a, m, hx, hf⟩, fun ⟨a, m, hx, hf⟩ => ⟨(a, m), hx, hf⟩⟩

namespace Database

variable {db db' : Database} {text : String}

/-- No two tables of a database go by the same name. -/
def NamesDiffer (db : Database) : Prop :=
  (db.tables.map fun t => Text.asciiLower t.name).Nodup

theorem NamesDiffer.eq_of_sameName (h : db.NamesDiffer) {t u : StoredTable} (ht : t ∈ db.tables)
    (hu : u ∈ db.tables) (hsame : sameName t.name u.name = true) : t = u :=
  List.inj_on_of_nodup_map h ht hu (sameName_iff.1 hsame)

theorem namesDiffer_of_map_eq {f : StoredTable → StoredTable} (h : db.NamesDiffer)
    (hmap : db'.tables = db.tables.map f)
    (hf : ∀ t ∈ db.tables, sameName (f t).name t.name = true) : db'.NamesDiffer := by
  have hkeys : db'.tables.map (fun t => Text.asciiLower t.name) =
      db.tables.map fun t => Text.asciiLower t.name := by
    rw [hmap, List.map_map]
    exact List.map_congr_left fun t ht => sameName_iff.1 (hf t ht)
  rwa [NamesDiffer, hkeys]

theorem notMem_of_table?_eq_none {name : String} (h : db.table? name = none) :
    Text.asciiLower name ∉ db.tables.map fun t => Text.asciiLower t.name := by
  intro hmem
  obtain ⟨t, ht, hname⟩ := List.mem_map.1 hmem
  exact List.find?_eq_none.1 h t ht (sameName_iff.2 hname)

theorem table?_eq_some {name : String} {t : StoredTable} (h : db.table? name = some t) :
    t ∈ db.tables ∧ sameName t.name name = true :=
  ⟨List.mem_of_find?_eq_some h, by simpa using List.find?_some h⟩

/-! ## Tables -/

theorem createTable_eq_ok (h : db.createTable text = .ok db') :
    ∃ s t, (TableStatement.reader false db.nameFault?).run text = .ok s ∧
      s.table false = .ok t ∧ db' = db.withTable t := by
  obtain ⟨⟨⟩, -, h⟩ := Except.bind_eq_ok.1 h
  obtain ⟨s, hs, h⟩ := Except.bind_eq_ok.1 h
  obtain ⟨t, ht, h⟩ := Except.bind_eq_ok.1 h
  obtain ⟨-, h⟩ := Except.guard_eq_ok.1 h
  obtain ⟨⟨⟩, -, h⟩ := Except.bind_eq_ok.1 h
  exact ⟨s, t, hs, ht, (Except.ok.inj h).symm⟩

theorem nameFault?_eq_none {t : Token} (h : db.nameFault? t = none) :
    isReserved t.value = false ∧ db.table? t.value = none := by
  rw [nameFault?] at h
  split at h
  · exact absurd h (by simp)
  next hreserved =>
    split at h
    · exact absurd h (by simp)
    next htable => exact ⟨by simpa using hreserved, by simpa using htable⟩

/-- A further table comes with at most one that the database keeps for itself. -/
theorem tables_withTable (db : Database) (t : StoredTable) :
    ∃ own, (db.withTable t).tables = db.tables ++ own ++ [t] ∧
      (own = [] ∨ own = [sequenceTable] ∧ db.table? sequenceTable.name = none) := by
  refine ⟨_, rfl, ?_⟩
  by_cases h : (t.rowKey.any (·.counting) && (db.table? sequenceTable.name).isNone) = true
  · exact .inr ⟨if_pos h, by simpa using (Bool.and_eq_true_iff.1 h).2⟩
  · exact .inl (if_neg h)

theorem isReserved_congr {a b : String} (h : Text.asciiLower a = Text.asciiLower b) :
    isReserved a = isReserved b := by rw [isReserved, isReserved, h]

theorem isReserved_sequenceTable : isReserved sequenceTable.name = true := by decide +kernel

theorem namesDiffer_withTable (h : db.NamesDiffer) {t : StoredTable}
    (hreserved : isReserved t.name = false) (htable : db.table? t.name = none) :
    (db.withTable t).NamesDiffer := by
  obtain ⟨own, htables, hown⟩ := tables_withTable db t
  rw [NamesDiffer, htables, List.map_append, List.map_append]
  have hnew := notMem_of_table?_eq_none htable
  rcases hown with rfl | ⟨rfl, hsequence⟩
  · rw [List.map_nil, List.append_nil]
    exact List.nodup_append'.2 ⟨h, List.nodup_singleton _, by simpa using hnew⟩
  · -- the table that comes with it has a reserved name
    have hdiffers : Text.asciiLower t.name ≠ Text.asciiLower sequenceTable.name := by
      intro hsame
      rw [isReserved_congr hsame, isReserved_sequenceTable] at hreserved
      exact absurd hreserved (by simp)
    have hold := notMem_of_table?_eq_none hsequence
    refine List.nodup_append'.2 ⟨List.nodup_append'.2 ⟨h, List.nodup_singleton _, ?_⟩,
      List.nodup_singleton _, ?_⟩
    · simpa using hold
    · simp only [List.map_cons, List.map_nil, List.disjoint_singleton, List.mem_append,
        List.mem_singleton, not_or]
      exact ⟨hnew, hdiffers⟩

theorem createTable_namesDiffer (hdb : db.NamesDiffer) (h : db.createTable text = .ok db') :
    db'.NamesDiffer := by
  obtain ⟨s, t, hs, ht, rfl⟩ := createTable_eq_ok h
  obtain ⟨token, hname, hfault⟩ := Reader.of_run (TableStatement.ensures_name _ _ _) hs
  obtain ⟨hreserved, htable⟩ := nameFault?_eq_none hfault
  rw [← hname, ← (TableStatement.table_eq_ok ht).1] at hreserved htable
  exact namesDiffer_withTable hdb hreserved htable

/-! ## Columns -/

/-- A table that was read again with a further column.  It keeps its name and its rows. -/
def widened (t whole : StoredTable) (added : Definition) (a : Activity) : StoredTable :=
  let whole := { whole with name := t.name, columns := added.columns }
  { whole with rows := t.rows.map (extendRow whole a added.last) }

/-- Adding a column replaces one table by what is read of it again. -/
theorem addColumn_eq_widened (h : db.addColumn text = .ok db') :
    ∃ s t whole, (ColumnStatement.reader db.columnsBefore).run text = .ok s ∧
      db.table? s.table.value = some t ∧ rereadTable t s.source = .ok whole ∧
      db' = db.update t.name fun _ => widened t whole s.definition db.activity := by
  obtain ⟨⟨⟩, -, h⟩ := Except.bind_eq_ok.1 h
  obtain ⟨s, hs, h⟩ := Except.bind_eq_ok.1 h
  dsimp only at h
  split at h
  · exact absurd h (by simp [throw, throwThe, MonadExceptOf.throw])
  next t ht =>
    -- all that stands between the table and its rereading are reasons to refuse the column
    obtain ⟨-, h⟩ := Except.guard_eq_ok.1 h
    obtain ⟨-, h⟩ := Except.guard_eq_ok.1 h
    obtain ⟨-, h⟩ := Except.guard_eq_ok.1 h
    obtain ⟨-, h⟩ := Except.guard_eq_ok.1 h
    have h := Except.of_check_eq_ok h
    obtain ⟨whole, hwhole, h⟩ := Except.bind_eq_ok.1 h
    obtain ⟨⟨⟩, -, h⟩ := Except.bind_eq_ok.1 h
    obtain ⟨⟨⟩, -, h⟩ := Except.bind_eq_ok.1 h
    obtain rfl := Except.ok.inj h
    exact ⟨s, t, whole, hs, ht, hwhole, rfl⟩

/-- Adding a column replaces one table by one of the same name, with the columns that are stated. -/
theorem addColumn_eq_ok (h : db.addColumn text = .ok db') :
    ∃ s t whole, (ColumnStatement.reader db.columnsBefore).run text = .ok s ∧
      db.table? s.table.value = some t ∧ whole.name = t.name ∧
      whole.columns = s.definition.columns ∧ db' = db.update t.name fun _ => whole := by
  obtain ⟨s, t, whole, hs, ht, -, rfl⟩ := addColumn_eq_widened h
  exact ⟨s, t, widened t whole s.definition db.activity, hs, ht, rfl, rfl, rfl⟩

theorem addColumn_namesDiffer (hdb : db.NamesDiffer) (h : db.addColumn text = .ok db') :
    db'.NamesDiffer := by
  obtain ⟨s, t, whole, -, -, hname, -, rfl⟩ := addColumn_eq_ok h
  refine namesDiffer_of_map_eq hdb rfl fun u _ => ?_
  split
  next hsame => rwa [hname, sameName_iff, eq_comm, ← sameName_iff]
  · exact sameName_iff.2 rfl

/-! ## Indexes -/

/-- A statement that creates an index puts it after those that are there. -/
theorem createIndex_eq_ok (h : db.createIndex text = .ok db') :
    ∃ i, db' = { db with indexes := db.indexes ++ [i] } := by
  obtain ⟨⟨⟩, -, h⟩ := Except.bind_eq_ok.1 h
  obtain ⟨s, -, h⟩ := Except.bind_eq_ok.1 h
  obtain ⟨t, -, h⟩ := Except.bind_eq_ok.1 h
  obtain ⟨⟨⟩, -, h⟩ := Except.bind_eq_ok.1 h
  obtain ⟨parts, -, h⟩ := Except.bind_eq_ok.1 h
  obtain ⟨-, h⟩ := Except.guard_eq_ok.1 h
  obtain ⟨-, h⟩ := Except.guard_eq_ok.1 h
  exact ⟨_, (Except.ok.inj h).symm⟩

theorem tables_createIndex (h : db.createIndex text = .ok db') : db'.tables = db.tables := by
  obtain ⟨i, rfl⟩ := createIndex_eq_ok h
  rfl

/-! ## Rows -/

theorem insertCells_namesDiffer (hdb : db.NamesDiffer) {t : StoredTable}
    {values : List (String × Cell)} {n n' : Nat}
    (h : (db.insertCells t values).run n = .ok (db', n')) : db'.NamesDiffer := by
  obtain ⟨row, _, -, h⟩ := Inserting.bind_eq_ok.1 h
  obtain ⟨checked, _, -, h⟩ := Inserting.bind_eq_ok.1 h
  -- a row may be ignored for its nulls or for what it conflicts with, and then all tables stay
  cases checked with
  | none =>
    obtain ⟨rfl, rfl⟩ := Prod.mk.inj (Except.ok.inj h)
    exact hdb
  | some row =>
    obtain ⟨⟨⟩, _, -, h⟩ := Inserting.bind_eq_ok.1 h
    obtain ⟨⟨⟩, _, -, h⟩ := Inserting.bind_eq_ok.1 h
    obtain ⟨cleared, _, -, h⟩ := Inserting.bind_eq_ok.1 h
    cases cleared with
    | none =>
      obtain ⟨rfl, rfl⟩ := Prod.mk.inj (Except.ok.inj h)
      exact hdb
    | some rows =>
      obtain ⟨rfl, rfl⟩ := Prod.mk.inj (Except.ok.inj h)
      refine namesDiffer_of_map_eq hdb rfl fun u _ => ?_
      split <;> exact sameName_iff.2 rfl

theorem insert_namesDiffer (hdb : db.NamesDiffer) (table : String)
    (values : List (String × Value)) : (db.insert table values).1.NamesDiffer := by
  rw [insert]
  split
  · exact hdb
  split
  next h =>
    have hinserted := insertCells_namesDiffer hdb h
    exact hinserted
  · exact hdb

/-! ## Any statement -/

theorem empty_namesDiffer : empty.NamesDiffer := List.nodup_nil

theorem execute_namesDiffer (hdb : db.NamesDiffer) {s : Statement}
    (h : db.execute s text = .ok db') : db'.NamesDiffer := by
  cases s with
  | createTable => exact createTable_namesDiffer hdb h
  | addColumn => exact addColumn_namesDiffer hdb h
  | addForeignKey => exact addColumn_namesDiffer hdb h
  | createIndex =>
    rw [NamesDiffer, tables_createIndex h]
    exact hdb

theorem dropTable_namesDiffer (hdb : db.NamesDiffer) {name : String}
    (h : db.dropTable name = .ok db') : db'.NamesDiffer := by
  obtain ⟨⟨⟩, -, h⟩ := Except.bind_eq_ok.1 h
  dsimp only at h
  split at h
  · exact absurd h (by simp [throw, throwThe, MonadExceptOf.throw, bind, Except.bind])
  obtain ⟨-, h⟩ := Except.guard_eq_ok.1 h
  obtain rfl := Except.ok.inj h
  exact hdb.sublist (List.filter_sublist.map _)

/-- A database that can be come by: the empty one, and all that changes lead to. -/
inductive Reachable : Database → Prop where
  | empty : Reachable empty
  | execute {before after : Database} {s : Statement} {sent : String} :
      Reachable before → before.execute s sent = .ok after → Reachable after
  | dropTable {before after : Database} {name : String} :
      Reachable before → before.dropTable name = .ok after → Reachable after
  | insert {before : Database} {table : String} {values : List (String × Value)} :
      Reachable before → Reachable (before.insert table values).1

theorem Reachable.namesDiffer (h : db.Reachable) : db.NamesDiffer := by
  induction h with
  | empty => exact empty_namesDiffer
  | execute _ hexecute ih => exact execute_namesDiffer ih hexecute
  | dropTable _ hdrop ih => exact dropTable_namesDiffer ih hdrop
  | insert _ ih => exact insert_namesDiffer ih ..

/-! ## The tables that are shown -/

/-- The tables that are not kept for the database itself: their names and columns. -/
def shown (db : Database) : List (String × List StoredColumn) :=
  (db.tables.filter fun t => !isReserved t.name).map fun t => (t.name, t.columns)

theorem mem_names_shown {name : String} : name ∈ db.shown.map Prod.fst ↔
    ∃ t, (t ∈ db.tables ∧ isReserved t.name = false) ∧ t.name = name := by
  simp [shown]

theorem NamesDiffer.nodup_shown (h : db.NamesDiffer) : (db.shown.map Prod.fst).Nodup := by
  have hnames : (db.tables.map StoredTable.name).Nodup := by
    refine List.Nodup.of_map Text.asciiLower ?_
    rwa [List.map_map]
  rw [shown, List.map_map]
  exact hnames.sublist (List.filter_sublist.map _)

/-- A statement of a migration that creates a table adds the one that is read. -/
theorem createTable_eq_withTable {table : String} {c : ColumnSpec} {cs : List ColumnSpec}
    {key : List String} {others : List Constraint} (hc : c.type ∈ sqliteTypes)
    (hcs : ∀ c ∈ cs, c.type ∈ sqliteTypes)
    (hsent : (Statement.createTable table (c :: cs) (.primaryKey key :: others)).sent .sqlite =
      .ok text)
    (h : db.createTable text = .ok db') :
    ∃ t, db' = db.withTable t ∧ t.name = Dialect.sqlite.readBack table ∧
      t.declared = Definition.readAs c :: Definition.declaredBy cs ∧
      isReserved t.name = false ∧ db.table? t.name = none := by
  obtain ⟨s, t, hs, ht, rfl⟩ := createTable_eq_ok h
  obtain ⟨more, htext⟩ := Statement.scan_sent_createTable hc hcs hsent
  obtain ⟨hname, hdeclared, token, htoken, hfault⟩ := Reader.of_run
    (htext ▸ TableStatement.ensures_reader table hc hcs _ more) hs
  obtain ⟨hname', hdeclared'⟩ := TableStatement.table_eq_ok ht
  have hread := nameFault?_eq_none hfault
  rw [htoken, ← hname, ← hname'] at hread
  exact ⟨t, rfl, hname'.trans hname, hdeclared'.trans hdeclared, hread⟩

theorem shown_createTable {table : String} {c : ColumnSpec} {cs : List ColumnSpec}
    {key : List String} {others : List Constraint} (hc : c.type ∈ sqliteTypes)
    (hcs : ∀ c ∈ cs, c.type ∈ sqliteTypes)
    (hsent : (Statement.createTable table (c :: cs) (.primaryKey key :: others)).sent .sqlite =
      .ok text)
    (h : db.createTable text = .ok db') :
    ∃ columns, db'.shown = db.shown ++ [(Dialect.sqlite.readBack table, columns)] ∧
      columns.map StoredColumn.declared = Definition.readAs c :: Definition.declaredBy cs := by
  obtain ⟨t, rfl, hname, hdeclared, hreserved, -⟩ := createTable_eq_withTable hc hcs hsent h
  obtain ⟨own, htables, hown⟩ := tables_withTable db t
  -- a table that comes with it is not shown
  have hfilter : own.filter (fun t => !isReserved t.name) = [] := by
    rcases hown with rfl | ⟨rfl, -⟩
    · rfl
    · simp [isReserved_sequenceTable]
  have hnew : [t].filter (fun t => !isReserved t.name) = [t] := by simp [hreserved]
  refine ⟨t.columns, ?_, hdeclared⟩
  rw [shown, htables, List.filter_append, List.filter_append, hfilter, hnew, List.append_nil,
    List.map_append, ← shown, List.map_singleton, hname]

theorem columnsBefore_eq_ok {name : Token} {before : Definition}
    (h : db.columnsBefore name = .ok before) :
    ∃ t, db.table? name.value = some t ∧ before.columns = t.columns := by
  rw [columnsBefore] at h
  split at h
  · exact absurd h (by simp)
  split at h
  · exact absurd h (by simp)
  next t ht =>
    obtain rfl := Except.ok.inj h
    exact ⟨t, ht, rfl⟩

theorem shown_update (hdb : db.NamesDiffer) {t whole : StoredTable} (ht : t ∈ db.tables)
    (hname : whole.name = t.name) :
    (db.update t.name fun _ => whole).shown =
      db.shown.map fun u => if u.1 = t.name then (u.1, whole.columns) else u := by
  rw [shown, shown, update, List.filter_map, List.map_map, List.map_map]
  -- the table keeps its name, so that the same tables are shown
  have hkeep : db.tables.filter ((fun u : StoredTable => !isReserved u.name) ∘
      fun u => if sameName u.name t.name then whole else u) =
        db.tables.filter fun u => !isReserved u.name := by
    refine List.filter_congr fun u hu => ?_
    dsimp only [Function.comp]
    split
    next hsame => rw [hname, isReserved_congr (sameName_iff.1 hsame)]
    · rfl
  rw [hkeep]
  refine List.map_congr_left fun u hu => ?_
  have hu : u ∈ db.tables := (List.mem_filter.1 hu).1
  by_cases hsame : sameName u.name t.name = true
  · obtain rfl := hdb.eq_of_sameName hu ht hsame
    simp [hname, sameName_iff]
  · have hne : u.name ≠ t.name := fun heq => hsame (by rw [heq, sameName_iff])
    simp [hsame, hne]

/-- A statement of a migration that adds a column puts it after those of the table that is read. -/
theorem addColumn_eq_update {table : String} {c : ColumnSpec} {references : Option InlineReference}
    (hc : c.type ∈ sqliteTypes)
    (hsent : (Statement.addColumn table c false references).sent .sqlite = .ok text)
    (h : db.addColumn text = .ok db') :
    ∃ t ∈ db.tables, sameName t.name (Dialect.sqlite.readBack table) = true ∧
      ∃ (whole : StoredTable) (column : StoredColumn), whole.name = t.name ∧
        whole.columns = t.columns ++ [column] ∧ column.declared = Definition.readAs c ∧
        db' = db.update t.name fun _ => whole := by
  obtain ⟨s, t, whole, hs, ht, hname, hcolumns, rfl⟩ := addColumn_eq_ok h
  obtain ⟨more, htext⟩ := Statement.scan_sent_addColumn hc hsent
  obtain ⟨hvalue, before, hbefore, hextends⟩ := Reader.of_run
    (htext ▸ ColumnStatement.ensures_reader table hc db.columnsBefore references more) hs
  -- the statement was read with the columns of the very table that it is about
  obtain ⟨u, hu, hubefore⟩ := columnsBefore_eq_ok hbefore
  obtain rfl := Option.some.inj (ht.symm.trans hu)
  obtain ⟨column, hadded, hdeclared⟩ := hextends.columns
  obtain ⟨ht, hsame⟩ := table?_eq_some ht
  refine ⟨t, ht, hvalue ▸ hsame, whole, column, hname, ?_, hdeclared, rfl⟩
  rw [hcolumns, hadded, hubefore]

theorem shown_addColumn {table : String} {c : ColumnSpec} {references : Option InlineReference}
    (hdb : db.NamesDiffer) (hc : c.type ∈ sqliteTypes)
    (hsent : (Statement.addColumn table c false references).sent .sqlite = .ok text)
    (h : db.addColumn text = .ok db') :
    ∃ t ∈ db.tables, sameName t.name (Dialect.sqlite.readBack table) = true ∧
      ∃ column : StoredColumn, column.declared = Definition.readAs c ∧
        db'.shown = db.shown.map fun u => if u.1 = t.name then (u.1, u.2 ++ [column]) else u := by
  obtain ⟨t, ht, hsame, whole, column, hname, hcolumns, hdeclared, rfl⟩ :=
    addColumn_eq_update hc hsent h
  refine ⟨t, ht, hsame, column, hdeclared, ?_⟩
  rw [shown_update hdb ht hname]
  refine List.map_congr_left fun _ hmem => ?_
  obtain ⟨v, hv, rfl⟩ := List.mem_map.1 hmem
  by_cases hvname : v.name = t.name
  · obtain rfl := hdb.eq_of_sameName (List.mem_filter.1 hv).1 ht (sameName_iff.2 (hvname ▸ rfl))
    simp [hcolumns]
  · simp [hvname]

/-- The table of a kept name that is shown is the one that a column is added to. -/
theorem name_eq_of_shown (hdb : db.NamesDiffer) {table : String}
    (htable : Dialect.sqlite.KeepsName table) (hshown : table ∈ db.shown.map Prod.fst)
    {t : StoredTable} (ht : t ∈ db.tables)
    (hsame : sameName t.name (Dialect.sqlite.readBack table) = true) : t.name = table := by
  rw [Dialect.readBack_of_keepsName htable] at hsame
  obtain ⟨v, hv, rfl⟩ := mem_names_shown.1 hshown
  exact congrArg StoredTable.name (hdb.eq_of_sameName ht hv.1 hsame)

theorem shown_createIndex (h : db.createIndex text = .ok db') : db'.shown = db.shown := by
  rw [shown, shown, tables_createIndex h]

end Database

end Accrete
