import Accrete.Proofs.Migrating.Scripts

/-!
# Names that are not read back

No statement of a migration stores a name that would not be read back as it is.  So what was
announced under such a name is not there after the migration.

* `Database.Shows`             -- a column is shown of a table
* `Database.GainsKept`         -- all that is new goes by names that are kept
* `Database.Runs.gainsKept`    -- which holds of all planned statements
* `Plan.gainsKept_run`         -- and so of all runs without a failure
* `Difference.IsDone.isExact`  -- only operations with such names do what was announced
-/

namespace Accrete

namespace Database

variable {db db' db'' : Database} {s : Statement} {ss : List Statement} {table : String}
  {text : String}

/-- A column of a given name is shown of a table. -/
def Shows (db : Database) (table column : String) : Prop :=
  ∃ columns, (table, columns) ∈ db.shown ∧ column ∈ columns.map StoredColumn.name

theorem shows_iff {live : List LiveTable} (h : (db.introspect none).outcome = .ok live)
    {column : String} : db.Shows table column ↔
      ∃ l ∈ live, l.name = table ∧ column ∈ l.columns.map LiveColumn.name := by
  have hnames : ∀ {t l}, Accrete.IsReportedAs t l →
      l.columns.map LiveColumn.name = t.2.map StoredColumn.name := fun hl =>
    map_eq_map_of_forall₂ (hl.2.flip.imp fun _ _ hc => StoredColumn.IsReportedAs.name hc)
  constructor
  · rintro ⟨columns, ht, hcolumn⟩
    obtain ⟨l, hl⟩ := exists_isReportedAs h ht
    exact ⟨l, mem_of_isReportedAs h ht hl, hl.1, hnames hl ▸ hcolumn⟩
  · rintro ⟨l, hl, rfl, hcolumn⟩
    obtain ⟨⟨name, columns⟩, ht, htl⟩ := exists_shown_of_mem h hl
    obtain rfl : l.name = name := htl.1
    exact ⟨columns, ht, hnames htl ▸ hcolumn⟩

/-- A column that is shown was shown before, or it goes by names that are kept. -/
def GainsKept (db db' : Database) : Prop :=
  ∀ table column, db'.Shows table column →
    db.Shows table column ∨ Dialect.sqlite.KeepsName table ∧ Dialect.sqlite.KeepsName column

namespace GainsKept

theorem of_shown_eq (h : db'.shown = db.shown) : db.GainsKept db' := by
  rintro table column ⟨columns, ht, hcolumn⟩
  exact .inl ⟨columns, h ▸ ht, hcolumn⟩

theorem trans (h : db.GainsKept db') (h' : db'.GainsKept db'') : db.GainsKept db'' :=
  fun table column hshows => (h' table column hshows).elim (h table column) .inr

end GainsKept

/-- A table that is shown was shown before, or its name is kept. -/
def GainsKeptNames (db db' : Database) : Prop :=
  ∀ table ∈ db'.shown.map Prod.fst,
    table ∈ db.shown.map Prod.fst ∨ Dialect.sqlite.KeepsName table

/-! ## Statements -/

theorem gainsKept_of_shown_append {stored : List StoredColumn}
    (h : db'.shown = db.shown ++ [(Dialect.sqlite.readBack table, stored)])
    (hstored : ∀ c ∈ stored.map StoredColumn.declared, Dialect.sqlite.KeepsName c.1) :
    db.GainsKept db' := by
  rintro table' column ⟨columns, ht, hcolumn⟩
  rw [h, List.mem_append, List.mem_singleton] at ht
  rcases ht with ht | ht
  · exact .inl ⟨columns, ht, hcolumn⟩
  · obtain ⟨rfl, rfl⟩ := Prod.mk.inj ht
    obtain ⟨c, hc, rfl⟩ := List.mem_map.1 hcolumn
    exact .inr ⟨Dialect.keepsName_readBack .., hstored c.declared (List.mem_map_of_mem hc)⟩

/-- The table that is read for a name that is shown goes by a name that is kept. -/
theorem keepsName_of_sameName (hdb : db.NamesDiffer) (hlive : table ∈ db.shown.map Prod.fst)
    {t : StoredTable} (ht : t ∈ db.tables)
    (hsame : sameName t.name (Dialect.sqlite.readBack table) = true) :
    Dialect.sqlite.KeepsName t.name := by
  by_cases htable : Dialect.sqlite.KeepsName table
  · rwa [name_eq_of_shown hdb htable hlive ht hsame]
  · -- the line feed was overlooked, so that no name that ends in one is found
    refine .inr fun hend => ?_
    obtain ⟨-, -, -, hchars⟩ :=
      Dialect.needsQuotes_eq_false (Dialect.not_keepsName.1 htable).1
    have hlowered := congrArg (fun s => s.toList.getLast?) (sameName_iff.1 hsame)
    simp only [Text.asciiLower, String.toList_ofList, List.getLast?_map, hend,
      Option.map_some] at hlowered
    obtain ⟨c, hc, hlower⟩ := Option.map_eq_some_iff.1 hlowered.symm
    obtain rfl := Text.eq_of_toLower hlower
    exact absurd (hchars _ (List.mem_of_getLast? hc)) (by decide)

theorem gainsKept_addColumn (hdb : db.NamesDiffer) (hlive : table ∈ db.shown.map Prod.fst)
    {c : ColumnSpec} {references : Option InlineReference} (hc : c.type ∈ sqliteTypes)
    (hsent : (Statement.addColumn table c false references).sent .sqlite = .ok text)
    (h : db.addColumn text = .ok db') :
    db.GainsKept db' ∧ db'.shown.map Prod.fst = db.shown.map Prod.fst := by
  obtain ⟨t, ht, hsame, added, hdeclared, hshown⟩ := shown_addColumn hdb hc hsent h
  refine ⟨?_, hshown ▸ names_extended⟩
  rintro table' column ⟨columns, hmem, hcolumn⟩
  rw [hshown, List.mem_map] at hmem
  obtain ⟨u, hu, heq⟩ := hmem
  -- the column is new, or it was there
  split at heq
  next hname =>
    obtain ⟨rfl, rfl⟩ := Prod.mk.inj heq
    rw [List.map_append, List.mem_append, List.map_singleton, List.mem_singleton] at hcolumn
    rcases hcolumn with hcolumn | rfl
    · exact .inl ⟨u.2, hu, hcolumn⟩
    · refine .inr ⟨hname ▸ keepsName_of_sameName hdb hlive ht hsame, ?_⟩
      rw [show added.name = _ from (Prod.mk.inj hdeclared).1]
      exact Dialect.keepsName_readBack ..
  · obtain rfl := heq
    exact .inl ⟨columns, hu, hcolumn⟩

theorem Grows.mem_names (h : db.Grows db') (hshown : table ∈ db.shown.map Prod.fst) :
    table ∈ db'.shown.map Prod.fst := by
  obtain ⟨t, ⟨ht, hreserved⟩, rfl⟩ := mem_names_shown.1 hshown
  obtain ⟨t', ht', hname, -⟩ := h t ht
  exact mem_names_shown.2 ⟨t', ⟨ht', hname ▸ hreserved⟩, hname⟩

theorem Executes.gainsKept (hdb : db.NamesDiffer) (hs : s.IsPlanned)
    (hlive : ∀ table c unique references, s = .addColumn table c unique references →
      table ∈ db.shown.map Prod.fst) (h : db.Executes s db') :
    db.GainsKept db' ∧ db.GainsKeptNames db' := by
  obtain ⟨text, hsent, hexecute⟩ := h
  cases hs with
  | createTable hc hcs =>
    obtain ⟨columns, hshown, hdeclared⟩ := shown_createTable hc hcs hsent hexecute
    refine ⟨gainsKept_of_shown_append hshown fun column hcolumn => ?_, fun table ht => ?_⟩
    · rw [hdeclared, List.mem_cons] at hcolumn
      rcases hcolumn with rfl | hcolumn
      · exact Dialect.keepsName_readBack ..
      · exact Definition.keepsName_of_mem_declaredBy hcolumn
    · rw [hshown, List.map_append, List.mem_append, List.map_singleton, List.mem_singleton] at ht
      exact ht.imp_right fun (heq : table = _) => heq ▸ Dialect.keepsName_readBack ..
  | addColumn hc =>
    obtain ⟨hgains, hnames⟩ := gainsKept_addColumn hdb (hlive _ _ _ _ rfl) hc hsent hexecute
    exact ⟨hgains, fun table ht => .inl (hnames ▸ ht)⟩
  | createIndex =>
    have hshown := shown_createIndex hexecute
    exact ⟨.of_shown_eq hshown, fun table ht => .inl (hshown ▸ ht)⟩

/-- What planned statements make goes by names that are kept, if columns are only added to tables
    that are shown. -/
theorem Runs.gainsKept (hdb : db.NamesDiffer) (hplanned : ∀ s ∈ ss, s.IsPlanned)
    (hlive : ∀ table c unique references, .addColumn table c unique references ∈ ss →
      table ∈ db.shown.map Prod.fst) (h : db.Runs ss db') :
    db.GainsKept db' ∧ db.GainsKeptNames db' := by
  induction h with
  | nil => exact ⟨.of_shown_eq rfl, fun _ => .inl⟩
  | @cons db d db' s ss hs _ ih =>
    obtain ⟨hfirst, hrest⟩ := List.forall_mem_cons.1 hplanned
    -- tables that are shown stay so, so that the rest adds columns to such tables only
    have hgrows := hs.grows hdb hfirst
    obtain ⟨hcolumns, hnames⟩ := hs.gainsKept hdb hfirst fun table c unique references heq =>
      hlive table c unique references (heq ▸ List.mem_cons_self)
    obtain ⟨hcolumns', hnames'⟩ := ih (hs.namesDiffer hdb) hrest
      fun table c unique references hmem =>
        hgrows.mem_names (hlive table c unique references (List.mem_cons_of_mem _ hmem))
    exact ⟨hcolumns.trans hcolumns', fun table ht => (hnames' table ht).elim (hnames table) .inr⟩

end Database

/-! ## Plans -/

variable {db : Database}

/-- All that is new after a plan was run goes by names that are kept. -/
theorem Plan.gainsKept_run {p : Plan} {bind : BindKind} {as : List ColumnAddition}
    {cs : List TableCreation} (hdb : db.NamesDiffer) (hdialect : p.dialect = .sqlite)
    (hoperations : p.operations = as.map .add ++ cs.map .create)
    (hlive : ∀ a ∈ as, a.table ∈ db.shown.map Prod.fst)
    (hplanned : ∀ op ∈ p.operations, op.IsPlanned)
    (h : (p.run Database.backend bind db).failure = none) :
    db.GainsKept (p.run Database.backend bind db).state := by
  obtain ⟨hfailure, hstate⟩ := p.run_backend bind db
  rw [hfailure, hdialect] at h
  obtain ⟨hscripts, hruns⟩ := runs_of_runOperations h
  rw [hstate, hdialect]
  refine (hruns.gainsKept hdb (fun s hs => ?_) fun table c unique references hs => ?_).1
  · obtain ⟨op, hop, hs⟩ := List.mem_flatMap.1 hs
    exact (hplanned op hop).forall_script (hscripts op hop) s hs
  · -- the columns are added by an addition, whose table is shown
    obtain ⟨op, hop, hs⟩ := List.mem_flatMap.1 hs
    obtain ⟨a, rfl, rfl⟩ := Operation.exists_of_addColumn (hplanned op hop) (hscripts op hop) hs
    rw [hoperations, List.mem_append] at hop
    rcases hop with hop | hop
    · obtain ⟨b, hb, heq⟩ := List.mem_map.1 hop
      exact Operation.add.inj heq ▸ hlive b hb
    · obtain ⟨b, -, heq⟩ := List.mem_map.1 hop
      exact absurd heq (by simp)

/-! ## What was announced -/

namespace Difference.IsDone

variable {found : Difference} {before after : List LiveTable}

/-- A column that an operation makes is there under its name. -/
theorem exists_column {op : Operation} (h : found.IsDone before after)
    (hop : (∃ x ∈ found.toAdd, op = .add (x.addition .sqlite)) ∨
      ∃ t ∈ found.toCreate, op = .create (t.creation .sqlite)) {c : Column} (hc : c ∈ op.columns) :
    ∃ l ∈ after, l.name = op.table ∧ ∃ column ∈ l.columns, c.name = .text column.name := by
  rcases hop with ⟨x, hx, rfl⟩ | ⟨t, ht, rfl⟩
  · obtain ⟨l, -, hname, added, hafter, hadded⟩ := h.extended x hx
    obtain ⟨column, hshown, hmem⟩ := exists_mem_zip_of_forall₂ hadded hc
    exact ⟨_, hafter, hname, column, List.mem_append_right _ (List.of_mem_zip hmem).1, hshown.1⟩
  · obtain ⟨key, columns, hafter, hkey, hcolumns⟩ := h.created t ht
    obtain ⟨column, hshown, hmem⟩ := exists_mem_zip_of_forall₂ (.cons hkey hcolumns) hc
    exact ⟨_, hafter, rfl, column, (List.of_mem_zip hmem).1, hshown.1⟩

/-- What is announced is done only by operations of which all names are read back as they are. -/
theorem isExact {db : Database} {bind : BindKind} {entries : List SchemaEntry} {plan : Plan}
    (h : found.IsDone before after) (hdb : db.NamesDiffer)
    (names : (entries.map SchemaEntry.name).Nodup)
    (hbefore : (db.introspect none).outcome = .ok before)
    (hfound : (difference entries before .sqlite).outcome = .ok found)
    (hplan : (Plan.build found.toCreate found.toAdd .sqlite).outcome = .ok plan)
    (hrun : (plan.run Database.backend bind db).failure = none)
    (hafter : ((plan.run Database.backend bind db).state.introspect none).outcome = .ok after) :
    ∀ op ∈ plan.operations, op.IsExact := by
  obtain ⟨additions, tables, hadditions, htables, hdialect, hoperations, -, hlive⟩ :=
    Plan.build_difference_live names hbefore hfound hplan
  have hgains : db.GainsKept (plan.run Database.backend bind db).state :=
    Plan.gainsKept_run hdb hdialect hoperations
      (fun a ha => by
        obtain ⟨x, hx, rfl⟩ := List.mem_map.1 ha
        exact hlive x (hadditions.mem_iff.1 hx))
      (Plan.isPlanned_of_build hplan) hrun
  have hmakes := Plan.build_difference_makesUpFor names hfound hplan
  intro op hop
  have hop' : (∃ x ∈ found.toAdd, op = .add (x.addition .sqlite)) ∨
      ∃ t ∈ found.toCreate, op = .create (t.creation .sqlite) := by
    rw [hoperations, List.map_map, List.map_map, List.mem_append, List.mem_map,
      List.mem_map] at hop
    rcases hop with ⟨x, hx, rfl⟩ | ⟨t, ht, rfl⟩
    · exact .inl ⟨x, hadditions.mem_iff.1 hx, rfl⟩
    · exact .inr ⟨t, htables.mem_iff.1 ht, rfl⟩
  -- each column is there afterwards and was not before, so that it goes by names that are kept
  have hcolumn : ∀ c ∈ op.columns, ∃ name, c.name = .text name ∧
      Dialect.sqlite.KeepsName op.table ∧ Dialect.sqlite.KeepsName name := by
    intro c hc
    obtain ⟨l, hl, hname, column, hmem, hcname⟩ := h.exists_column hop' hc
    have hshows := (Database.shows_iff hafter).2 ⟨l, hl, hname, List.mem_map_of_mem hmem⟩
    rcases hgains _ _ hshows with hold | hkeeps
    · obtain ⟨l', hl', hname', hmem'⟩ := (Database.shows_iff hbefore).1 hold
      have hnone := hmakes.column?_eq_none hop
        (hname' ▸ liveTable?_of_mem (hdb.nodup_introspect hbefore) hl') c hc
      obtain ⟨column', hmem', heq⟩ := List.mem_map.1 hmem'
      rw [hcname, LiveTable.column?, Value.text?, Option.bind_some, List.find?_eq_none] at hnone
      exact absurd heq (by simpa using hnone column' hmem')
    · exact ⟨column.name, hcname, hkeeps⟩
  obtain ⟨c, hc⟩ : ∃ c, c ∈ op.columns := by
    rcases (hmakes.mem_operations_iff op).1 hop with ⟨u, -, -, rfl⟩ | ⟨u, l, x, -, -, hux, rfl⟩
    · exact ⟨_, List.mem_cons_self⟩
    · obtain ⟨-, -, hne⟩ := Table.extension?_inv hux
      obtain ⟨e, he⟩ := List.exists_mem_of_ne_nil _ hne
      exact ⟨_, List.mem_map_of_mem he⟩
  obtain ⟨-, -, htable, -⟩ := hcolumn c hc
  refine ⟨htable, fun c hc => ?_⟩
  obtain ⟨name, hname, -, hkeeps⟩ := hcolumn c hc
  exact ⟨name, hname, hkeeps⟩

end Difference.IsDone

end Accrete
