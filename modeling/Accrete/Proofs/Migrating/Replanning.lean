import Accrete.Proofs.Migrating.Exactness

/-!
# Planning again

A plan is stopped after some of its statements, and another one is made for the database as it is
then.  It finds the columns and the tables that were made, and none of those that were left.

* `Completion`              -- what makes up for all that a database lacks of a schema
* `Replanning`              -- a completion that is stopped, and another one from there
* `Replanning.missingFields_eq_drop`, `Replanning.exists_of_created` -- what was made is found
* `Replanning.extensions_eq`, `Replanning.creations_perm` -- what was left is planned again
-/

namespace Accrete

/-! ## What is shown -/

namespace Database

variable {db db' : Database} {s : Statement} {ss : List Statement} {table column : String}

theorem shows_iff_exists : db.Shows table column ↔ ∃ t ∈ db.tables, isReserved t.name = false ∧
    t.name = table ∧ column ∈ t.columns.map StoredColumn.name := by
  constructor
  · rintro ⟨columns, hshown, hcolumn⟩
    obtain ⟨t, hmem, heq⟩ := List.mem_map.1 hshown
    obtain ⟨ht, hreserved⟩ := List.mem_filter.1 hmem
    obtain ⟨rfl, rfl⟩ := Prod.mk.inj heq
    exact ⟨t, ht, by simpa using hreserved, rfl, hcolumn⟩
  · rintro ⟨t, ht, hreserved, rfl, hcolumn⟩
    exact ⟨t.columns, List.mem_map_of_mem (List.mem_filter.2 ⟨ht, by simpa using hreserved⟩),
      hcolumn⟩

theorem Grows.shows (h : db.Grows db') (hshows : db.Shows table column) :
    db'.Shows table column := by
  obtain ⟨t, ht, hreserved, rfl, hcolumn⟩ := shows_iff_exists.1 hshows
  obtain ⟨t', ht', hname, hcolumns⟩ := h t ht
  exact shows_iff_exists.2 ⟨t', ht', hname ▸ hreserved, hname, (hcolumns.map _).subset hcolumn⟩

/-- What is shown under names that are kept is there under what is read back of them. -/
theorem Shows.has (h : db.Shows table column) (htable : Dialect.sqlite.KeepsName table)
    (hcolumn : Dialect.sqlite.KeepsName column) :
    db.Has (Dialect.sqlite.readBack table) (Dialect.sqlite.readBack column) := by
  obtain ⟨t, ht, -, rfl, hmem⟩ := shows_iff_exists.1 h
  obtain ⟨c, hc, rfl⟩ := List.mem_map.1 hmem
  rw [Dialect.readBack_of_keepsName htable, Dialect.readBack_of_keepsName hcolumn]
  exact ⟨t, ht, sameName_iff.2 rfl, c, hc, sameName_iff.2 rfl⟩

theorem hasTable_of_mem_names (h : table ∈ db.shown.map Prod.fst)
    (htable : Dialect.sqlite.KeepsName table) :
    db.HasTable (Dialect.sqlite.readBack table) := by
  obtain ⟨t, ⟨ht, -⟩, rfl⟩ := mem_names_shown.1 h
  rw [Dialect.readBack_of_keepsName htable]
  exact ⟨t, ht, sameName_iff.2 rfl⟩

variable {live : List LiveTable}

theorem isSome_liveTable?_iff (h : (db.introspect none).outcome = .ok live) :
    (liveTable? live table).isSome ↔ table ∈ db.shown.map Prod.fst := by
  rw [← (names_introspect_perm h).mem_iff]
  simp [liveTable?, List.find?_isSome]

theorem isSome_column?_iff (hdb : db.NamesDiffer) (h : (db.introspect none).outcome = .ok live)
    {l : LiveTable} (hl : liveTable? live table = some l) {v : Value} :
    (l.column? v).isSome ↔ ∃ s, v.text? = some s ∧ db.Shows table s := by
  obtain ⟨hmem, rfl⟩ := mem_of_liveTable?_eq_some hl
  have hcolumn : ∀ s, db.Shows l.name s ↔ s ∈ l.columns.map LiveColumn.name := by
    intro s
    rw [shows_iff h]
    constructor
    · rintro ⟨l', hl', hname, hs⟩
      obtain rfl := List.inj_on_of_nodup_map (hdb.nodup_introspect h) hl' hmem hname
      exact hs
    · exact fun hs => ⟨l, hmem, rfl, hs⟩
  cases hv : v.text? with
  | none => simp [LiveTable.column?, hv]
  | some s => simp [LiveTable.column?, hv, hcolumn, List.find?_isSome]

end Database

/-! ## Completions -/

/-- Additions and creations that make up for what a database lacks of a schema.  Their statements
    lead to another database. -/
structure Completion (entries : List SchemaEntry) (db : Database) (live : List LiveTable)
    (xs : List Extension) (ts : List Table) (db' : Database) : Prop where
  reported : (db.introspect none).outcome = .ok live
  extensions : xs.Perm (SchemaEntry.extensions live entries)
  sorted : xs.Pairwise fun x y => sortKey x.order x.table ≤ sortKey y.order y.table
  creations : ts.Perm (SchemaEntry.creations live entries)
  extended : ∀ x ∈ xs, (x.addition .sqlite).statements .sqlite = .ok x.script
  created : ∀ t ∈ ts, (t.creation .sqlite).statements = .ok t.script
  runs : db.Runs (xs.flatMap Extension.script ++ ts.flatMap Table.script) db'

namespace Completion

variable {entries : List SchemaEntry} {db db' : Database} {live : List LiveTable}
  {xs : List Extension} {ts : List Table} {t : Table} {l : LiveTable} {e : Value × Field}

theorem mem_extensions (h : Completion entries db live xs ts db') {x : Extension} :
    x ∈ xs ↔ ∃ t l, .table t ∈ entries ∧ liveTable? live t.name = some l ∧
      t.missingFields l ≠ [] ∧ x = t.extensionBy (t.missingFields l) := by
  rw [h.extensions.mem_iff, SchemaEntry.mem_extensions]
  simp only [Table.extension?_eq_some]

theorem mem_creations (h : Completion entries db live xs ts db') {t : Table} :
    t ∈ ts ↔ ∃ u, .table u ∈ entries ∧ liveTable? live u.name = none ∧ t = u.complete := by
  rw [h.creations.mem_iff, SchemaEntry.mem_creations]

theorem nodup_extensions (h : Completion entries db live xs ts db')
    (names : (entries.map SchemaEntry.name).Nodup) : (xs.map Extension.table).Nodup :=
  (h.extensions.map _).nodup_iff.2 (List.nodup_append.1 (nodup_lacking live names)).1

theorem nodup_creations (h : Completion entries db live xs ts db')
    (names : (entries.map SchemaEntry.name).Nodup) : ts.Nodup :=
  .of_map Table.name <|
    (h.creations.map _).nodup_iff.2 (List.nodup_append.1 (nodup_lacking live names)).2.1

theorem isPlanned (h : Completion entries db live xs ts db') :
    ∀ s ∈ xs.flatMap Extension.script ++ ts.flatMap Table.script, s.IsPlanned := by
  refine List.forall_mem_append.2 ⟨fun s hs => ?_, fun s hs => ?_⟩
  · obtain ⟨x, hx, hs⟩ := List.mem_flatMap.1 hs
    exact x.isPlanned_addition.forall_script (h.extended x hx) s hs
  · obtain ⟨t, ht, hs⟩ := List.mem_flatMap.1 hs
    exact t.isPlanned_creation.forall_script (h.created t ht) s hs

/-- Columns are only added to tables that are shown. -/
theorem live_of_addColumn (h : Completion entries db live xs ts db') {table : String}
    {c : ColumnSpec} {unique : Bool} {references : Option InlineReference}
    (hs : .addColumn table c unique references ∈
      xs.flatMap Extension.script ++ ts.flatMap Table.script) :
    table ∈ db.shown.map Prod.fst := by
  rcases List.mem_append.1 hs with hs | hs
  · obtain ⟨x, hx, hs⟩ := List.mem_flatMap.1 hs
    obtain ⟨a, heq, rfl⟩ :=
      Operation.exists_of_addColumn x.isPlanned_addition (h.extended x hx) hs
    obtain rfl := Operation.add.inj heq
    obtain ⟨t, l, -, hl, -, rfl⟩ := h.mem_extensions.1 hx
    exact (Database.isSome_liveTable?_iff h.reported).1 (Option.isSome_of_eq_some hl)
  · obtain ⟨t, ht, hs⟩ := List.mem_flatMap.1 hs
    obtain ⟨a, heq, -⟩ :=
      Operation.exists_of_addColumn t.isPlanned_creation (h.created t ht) hs
    exact absurd heq (by simp)

section Addition

variable (h : Completion entries db live xs ts db') (ht : .table t ∈ entries)
  (hdistinct : t.fields.HasDistinctNames) (hl : liveTable? live t.name = some l)
include h ht hdistinct hl

/-- A table that lacks fields is extended by a statement for each of them, and then by indexes. -/
theorem script_extension (hne : t.missingFields l ≠ []) :
    ∃ (texts : List String) (indexes : List Statement),
      Bag.names (t.missingFields l) = texts.map .text ∧
      (t.extensionBy (t.missingFields l)).script =
        (t.missingFields l).map t.fieldAddition ++ indexes := by
  have hx := h.mem_extensions.2 ⟨t, l, ht, hl, hne, rfl⟩
  obtain ⟨texts, -, indexes, -, htexts, hscript, -⟩ := Table.statements_extensionBy
    (hdistinct.sublist (List.filter_sublist.map Prod.fst)) (h.extended _ hx)
  exact ⟨texts, indexes, htexts, hscript⟩

/-- A field that is missing is named by a text, and a statement adds its column. -/
theorem exists_addition (he : e ∈ t.missingFields l) : ∃ s, e.1 = .text s ∧
    t.fieldAddition e ∈ xs.flatMap Extension.script ++ ts.flatMap Table.script := by
  have hne := List.ne_nil_of_mem he
  have hx := h.mem_extensions.2 ⟨t, l, ht, hl, hne, rfl⟩
  obtain ⟨texts, indexes, htexts, hscript⟩ := h.script_extension ht hdistinct hl hne
  have hname : e.1 ∈ texts.map Value.text := htexts ▸ List.mem_map_of_mem he
  obtain ⟨s, -, hs⟩ := List.mem_map.1 hname
  refine ⟨s, hs.symm, List.mem_append_left _ (List.mem_flatMap.2 ⟨_, hx, ?_⟩)⟩
  rw [hscript]
  exact List.mem_append_left _ (List.mem_map_of_mem he)

/-- The column of a field that is missing was not there, and no word that starts a constraint is
    its name. -/
theorem not_has (hdb : db.NamesDiffer) (he : e ∈ t.missingFields l) {s : String}
    (hs : e.1 = .text s) :
    Definition.startsConstraint ((e.2.column e.1 .sqlite []).spec s) = false ∧
      ¬ db.Has (Dialect.sqlite.readBack t.name) (Dialect.sqlite.readBack s) := by
  obtain ⟨-, -, hmem⟩ := h.exists_addition ht hdistinct hl he
  have hstatement := h.runs.not_has hdb h.isPlanned hmem
  rwa [show (e.2.column e.1 .sqlite []).name.plain = s by rw [Field.column, hs]; rfl] at hstatement

end Addition

section Creation

variable (h : Completion entries db live xs ts db') (ht : .table t ∈ entries)
  (hl : liveTable? live t.name = none)
include h ht hl

/-- A table that is not live is created by a first statement, with a column for each field. -/
theorem script_creation : ∃ name names constraints indexes,
    List.Forall₂ Column.IsNamed (Table.keyColumn .sqlite :: t.complete.declaredColumns .sqlite)
      (name :: names) ∧
    t.complete.script = .createTable t.name
      ((Table.keyColumn .sqlite).spec name ::
        (names.zip (t.complete.declaredColumns .sqlite)).map fun (name, col) => col.spec name)
      constraints :: indexes := by
  have hmem := h.mem_creations.2 ⟨t, ht, hl, rfl⟩
  obtain ⟨key, columns, name, names, keys, others, indexes, hcolumns, hnames, hscript, -⟩ :=
    Operation.script_create t.complete.isPlanned_creation (h.created _ hmem)
  obtain ⟨rfl, rfl⟩ := List.cons.inj hcolumns
  exact ⟨name, names, _, indexes, hnames, hscript⟩

theorem exists_first : ∃ s, t.complete.script.head? = some s := by
  obtain ⟨name, names, constraints, indexes, -, hscript⟩ := h.script_creation ht hl
  rw [hscript]
  exact ⟨_, List.head?_cons⟩

theorem not_hasTable (hdb : db.NamesDiffer) :
    ¬ db.HasTable (Dialect.sqlite.readBack t.name) := by
  have hmem := h.mem_creations.2 ⟨t, ht, hl, rfl⟩
  have hsubset : ∀ s ∈ t.complete.script, s ∈ xs.flatMap Extension.script ++
      ts.flatMap Table.script :=
    fun s hs => List.mem_append_right _ (List.mem_flatMap.2 ⟨_, hmem, hs⟩)
  obtain ⟨name, names, constraints, indexes, -, hscript⟩ := h.script_creation ht hl
  rw [hscript] at hsubset
  exact h.runs.not_hasTable hdb h.isPlanned (hsubset _ List.mem_cons_self)

end Creation

end Completion

/-! ## Completions that are stopped -/

/-- A name that is stated otherwise than by a text is kept. -/
theorem columnNamed_eq_ok {v : Value} {name : String} (h : columnNamed v = .ok name) :
    v = .text name ∨ Dialect.sqlite.KeepsName name := by
  cases v with
  | text s => exact .inl (congrArg Value.text (Except.ok.inj h))
  | null =>
    obtain rfl := Except.ok.inj h
    exact .inr (by decide)
  | computedKind k =>
    obtain rfl := Except.ok.inj h
    exact .inr (by cases k <;> decide)
  | _ => exact absurd h (by simp [columnNamed, Value.text?])

/-- A completion of which only the first statements are executed, and another one of the database
    that they lead to. -/
structure Replanning (entries : List SchemaEntry) (db stopped full final : Database)
    (live live' : List LiveTable) (xs xs' : List Extension) (ts ts' : List Table)
    (before after : List Statement) : Prop where
  names : (entries.map SchemaEntry.name).Nodup
  distinct : ∀ t, .table t ∈ entries → t.fields.HasDistinctNames
  namesDiffer : db.NamesDiffer
  first : Completion entries db live xs ts full
  second : Completion entries stopped live' xs' ts' final
  cut : xs.flatMap Extension.script ++ ts.flatMap Table.script = before ++ after
  reached : db.Runs before stopped

namespace Replanning

variable {entries : List SchemaEntry} {db stopped full final : Database}
  {live live' : List LiveTable} {xs xs' : List Extension} {ts ts' : List Table}
  {before after : List Statement} {t : Table} {l l' : LiveTable} {e : Value × Field}
  (h : Replanning entries db stopped full final live live' xs xs' ts ts' before after)
include h

theorem isPlanned_before : ∀ s ∈ before, s.IsPlanned := fun s hs =>
  h.first.isPlanned s (h.cut ▸ List.mem_append_left _ hs)

theorem isPlanned_after : ∀ s ∈ after, s.IsPlanned := fun s hs =>
  h.first.isPlanned s (h.cut ▸ List.mem_append_right _ hs)

theorem runs_after : stopped.Runs after full := by
  have hruns := h.first.runs
  rw [h.cut, Database.runs_append] at hruns
  obtain ⟨stopped', hbefore, hafter⟩ := hruns
  exact hbefore.unique h.reached ▸ hafter

theorem stopped_namesDiffer : stopped.NamesDiffer := h.reached.namesDiffer h.namesDiffer

theorem grows : db.Grows stopped := h.reached.grows h.namesDiffer h.isPlanned_before

theorem gainsKept : db.GainsKept stopped ∧ db.GainsKeptNames stopped :=
  h.reached.gainsKept h.namesDiffer h.isPlanned_before fun _ _ _ _ hs =>
    h.first.live_of_addColumn (h.cut ▸ List.mem_append_left _ hs)

section Extended

variable (ht : .table t ∈ entries) (hl : liveTable? live t.name = some l)
include hl

theorem exists_live : ∃ l', liveTable? live' t.name = some l' :=
  Option.isSome_iff_exists.1 <| (Database.isSome_liveTable?_iff h.second.reported).2 <|
    h.grows.mem_names <| (Database.isSome_liveTable?_iff h.first.reported).1 <|
      Option.isSome_of_eq_some hl

variable (hl' : liveTable? live' t.name = some l')
include hl'

theorem isSome_column? {v : Value} (hv : (l.column? v).isSome) : (l'.column? v).isSome := by
  rw [Database.isSome_column?_iff h.namesDiffer h.first.reported hl] at hv
  obtain ⟨s, hs, hshows⟩ := hv
  exact (Database.isSome_column?_iff h.stopped_namesDiffer h.second.reported hl').2
    ⟨s, hs, h.grows.shows hshows⟩

include ht

/-- A column that was added is found: it could not be added again. -/
theorem isSome_column?_of_before (he : e ∈ t.missingFields l)
    (hmade : t.fieldAddition e ∈ before) : (l'.column? e.1).isSome := by
  by_contra hnone
  have he' : e ∈ t.missingFields l' :=
    Table.mem_missingFields.2 ⟨(Table.mem_missingFields.1 he).1, by simpa using hnone⟩
  obtain ⟨s, hs, -⟩ := h.first.exists_addition ht (h.distinct t ht) hl he
  obtain ⟨-, hnot⟩ :=
    h.second.not_has ht (h.distinct t ht) hl' h.stopped_namesDiffer he' hs
  have hhas := h.reached.has h.namesDiffer h.isPlanned_before hmade
  rw [Column.spec, Field.column, hs] at hhas
  exact hnot hhas

/-- A column that was left is not found: it can be added. -/
theorem column?_eq_none_of_after (he : e ∈ t.missingFields l)
    (hleft : t.fieldAddition e ∈ after) : l'.column? e.1 = none := by
  by_contra hsome
  obtain ⟨s, hs, -⟩ := h.first.exists_addition ht (h.distinct t ht) hl he
  obtain ⟨s', hs', hshows⟩ := (Database.isSome_column?_iff h.stopped_namesDiffer
    h.second.reported hl').1 (Option.isSome_iff_ne_none.2 hsome)
  rw [hs] at hs'
  obtain rfl := Option.some.inj hs'
  -- it was not shown before, so that it goes by names that are kept
  rcases h.gainsKept.1 _ _ hshows with hold | ⟨htable, hcolumn⟩
  · have hfound : (l.column? e.1).isSome :=
      (Database.isSome_column?_iff h.namesDiffer h.first.reported hl).2 ⟨s, hs ▸ rfl, hold⟩
    simp [(Table.mem_missingFields.1 he).2] at hfound
  · have hnot := (h.runs_after.not_has h.stopped_namesDiffer h.isPlanned_after hleft).2
    rw [Column.spec, Field.column, hs] at hnot
    exact hnot (hshows.has htable hcolumn)

/-- Fields of which the columns were left are still missing, and no others. -/
theorem missingFields_eq_drop {k : ℕ}
    (hmade : ∀ e ∈ (t.missingFields l).take k, t.fieldAddition e ∈ before)
    (hleft : ∀ e ∈ (t.missingFields l).drop k, t.fieldAddition e ∈ after) :
    t.missingFields l' = (t.missingFields l).drop k := by
  -- no column is lost, so that only fields are missing that were
  have hsubset : t.missingFields l' =
      (t.missingFields l).filter fun e => (l'.column? e.1).isNone := by
    rw [Table.missingFields, Table.missingFields, List.filter_filter]
    refine List.filter_congr fun e _ => ?_
    cases hnone : l'.column? e.1 with
    | some c => rfl
    | none =>
      have hold : (l.column? e.1).isNone := by
        by_contra hsome
        have hfound := h.isSome_column? hl hl' (v := e.1) (by
          simpa [Option.isSome_iff_ne_none] using hsome)
        simp [hnone] at hfound
      simp [hold]
  rw [hsubset]
  conv_lhs => rw [← List.take_append_drop k (t.missingFields l)]
  rw [List.filter_append, List.filter_eq_nil_iff.2, List.filter_eq_self.2, List.nil_append]
  · intro e he
    simpa using h.column?_eq_none_of_after ht hl hl' (List.mem_of_mem_drop he) (hleft e he)
  · intro e he
    simpa [← Option.isSome_iff_ne_none] using
      h.isSome_column?_of_before ht hl hl' (List.mem_of_mem_take he) (hmade e he)

/-- The same of an extension that was cut after some of its statements. -/
theorem missingFields_of_cut {k : ℕ} (hne : t.missingFields l ≠ [])
    (hmade : ∀ s ∈ (t.extensionBy (t.missingFields l)).script.take k, s ∈ before)
    (hleft : ∀ s ∈ (t.extensionBy (t.missingFields l)).script.drop k, s ∈ after) :
    t.missingFields l' = (t.missingFields l).drop k := by
  obtain ⟨texts, indexes, -, hscript⟩ := h.first.script_extension ht (h.distinct t ht) hl hne
  rw [hscript] at hmade hleft
  refine h.missingFields_eq_drop ht hl hl' (fun e he => hmade _ ?_) fun e he => hleft _ ?_
  · rw [List.take_append, ← List.map_take]
    exact List.mem_append_left _ (List.mem_map_of_mem he)
  · rw [List.drop_append, ← List.map_drop]
    exact List.mem_append_left _ (List.mem_map_of_mem he)

end Extended

section Created

variable (ht : .table t ∈ entries) (hl : liveTable? live t.name = none)
include hl

/-- A name that is not kept is not shown of a table that was not live. -/
theorem column?_eq_none_of_not_keepsName (hl' : liveTable? live' t.name = some l') {name : String}
    (hname : e.1 = .text name) (hkeeps : ¬ Dialect.sqlite.KeepsName name) :
    l'.column? e.1 = none := by
  by_contra hsome
  obtain ⟨s, hs, hshows⟩ := (Database.isSome_column?_iff h.stopped_namesDiffer
    h.second.reported hl').1 (Option.isSome_iff_ne_none.2 hsome)
  rw [hname] at hs
  obtain rfl := Option.some.inj hs
  rcases h.gainsKept.1 _ _ hshows with ⟨columns, hold, -⟩ | ⟨-, hcolumn⟩
  · have hlive := (Database.isSome_liveTable?_iff h.first.reported).2 (List.mem_map_of_mem hold)
    simp [hl] at hlive
  · exact hkeeps hcolumn

include ht

/-- No name of a column is a word that starts a constraint: it would be missing, and could not be
    added. -/
theorem startsConstraint_eq_false (hl' : liveTable? live' t.name = some l')
    {names : List String}
    (hnames : List.Forall₂ Column.IsNamed (t.complete.declaredColumns .sqlite) names) :
    ∀ spec ∈ (names.zip (t.complete.declaredColumns .sqlite)).map fun (name, col) => col.spec name,
      Definition.startsConstraint spec = false := by
  intro spec hspec
  obtain ⟨⟨own, col⟩, hmem, rfl⟩ := List.mem_map.1 hspec
  by_cases hkeeps : Dialect.sqlite.KeepsName own
  · exact Definition.startsConstraint_of_keepsName hkeeps
  obtain ⟨e, he, rfl⟩ := List.mem_map.1 (List.of_mem_zip hmem).2
  have hown := (List.forall₂_iff_zip.1 hnames.flip).2 hmem
  have hname : e.1 = .text own := (columnNamed_eq_ok hown).resolve_right hkeeps
  have hmissing : e ∈ t.missingFields l' := Table.mem_missingFields.2
    ⟨he, h.column?_eq_none_of_not_keepsName hl hl' hname hkeeps⟩
  have hstarts :=
    (h.second.not_has ht (h.distinct t ht) hl' h.stopped_namesDiffer hmissing hname).1
  exact hstarts

/-- A table that was created is found, and none of its fields is missing: it could not be created
    again, and no column of it could be added again. -/
theorem exists_of_created {s : Statement} (hs : t.complete.script.head? = some s)
    (hmade : s ∈ before) :
    ∃ l', liveTable? live' t.name = some l' ∧ t.missingFields l' = [] := by
  obtain ⟨name, names, constraints, indexes, hnames, hscript⟩ := h.first.script_creation ht hl
  rw [hscript, List.head?_cons] at hs
  obtain rfl := Option.some.inj hs
  obtain ⟨l', hl'⟩ : ∃ l', liveTable? live' t.name = some l' := by
    rw [← Option.isSome_iff_exists, Option.isSome_iff_ne_none]
    intro hnone
    exact h.second.not_hasTable ht hnone h.stopped_namesDiffer
      (h.reached.hasTable h.namesDiffer h.isPlanned_before hmade)
  refine ⟨l', hl', List.eq_nil_iff_forall_not_mem.2 fun e he => ?_⟩
  -- the field is missing, so that its column is added, though the creation made it
  obtain ⟨text, htext, -⟩ := h.second.exists_addition ht (h.distinct t ht) hl' he
  obtain ⟨hkey, hcolumns⟩ := List.forall₂_cons.1 hnames
  obtain rfl := hkey.eq rfl
  have hcolumn : e.2.column e.1 .sqlite t.complete.groups.flatten ∈
      t.complete.declaredColumns .sqlite :=
    List.mem_map.2 ⟨e, (Table.mem_missingFields.1 he).1, rfl⟩
  obtain ⟨own, hown, hmem⟩ := exists_mem_zip_of_forall₂ hcolumns hcolumn
  obtain rfl := hown.eq htext
  have hhas := h.reached.has_of_created h.namesDiffer h.isPlanned_before hmade
    (List.forall_mem_cons.2 ⟨Definition.startsConstraint_of_keepsName (by decide),
      h.startsConstraint_eq_false ht hl hl' hcolumns⟩)
    (List.mem_cons_of_mem _ (List.mem_map_of_mem hmem))
  exact (h.second.not_has ht (h.distinct t ht) hl' h.stopped_namesDiffer he htext).2 hhas

/-- A table that was left is not found: it can be created. -/
theorem liveTable?_eq_none_of_left {s : Statement} (hs : t.complete.script.head? = some s)
    (hleft : s ∈ after) : liveTable? live' t.name = none := by
  obtain ⟨name, names, constraints, indexes, hnames, hscript⟩ := h.first.script_creation ht hl
  rw [hscript, List.head?_cons] at hs
  obtain rfl := Option.some.inj hs
  by_contra hsome
  have hshown := (Database.isSome_liveTable?_iff h.second.reported).1
    (Option.isSome_iff_ne_none.2 hsome)
  rcases h.gainsKept.2 _ hshown with hold | hkeeps
  · have hlive := (Database.isSome_liveTable?_iff h.first.reported).2 hold
    simp [hl] at hlive
  · exact h.runs_after.not_hasTable h.stopped_namesDiffer h.isPlanned_after hleft
      (Database.hasTable_of_mem_names hshown hkeeps)

end Created

/-! ## What is planned again -/

/-- Whatever is missing of a table was missing before. -/
theorem exists_of_missing (ht : .table t ∈ entries) (hl' : liveTable? live' t.name = some l')
    (hne : t.missingFields l' ≠ []) :
    ∃ l, liveTable? live t.name = some l ∧ t.missingFields l ≠ [] := by
  cases hl : liveTable? live t.name with
  | none =>
    obtain ⟨s, hs⟩ := h.first.exists_first ht hl
    have hmem := h.first.mem_creations.2 ⟨t, ht, hl, rfl⟩
    have hcut : s ∈ before ++ after := h.cut ▸ List.mem_append_right _
      (List.mem_flatMap.2 ⟨_, hmem, List.mem_of_mem_head? hs⟩)
    rcases List.mem_append.1 hcut with hmade | hleft
    · obtain ⟨l'', hl'', hnil⟩ := h.exists_of_created ht hl hs hmade
      obtain rfl := Option.some.inj (hl'.symm.trans hl'')
      exact absurd hnil hne
    · exact absurd (hl'.symm.trans (h.liveTable?_eq_none_of_left ht hl hs hleft)) (by simp)
  | some l =>
    refine ⟨l, rfl, fun hnil => hne ?_⟩
    rw [h.missingFields_eq_drop (k := 0) ht hl hl' (by simp) (by simp [hnil]), hnil, List.drop_nil]

section Cuts

variable (cuts : List (Extension × ℕ)) (hcuts : cuts.map Prod.fst = xs)
  (hmade : ∀ p ∈ cuts, ∀ s ∈ p.1.script.take p.2, s ∈ before)
  (hleft : ∀ p ∈ cuts, ∀ s ∈ p.1.script.drop p.2, s ∈ after)
include hcuts hmade hleft

theorem mem_extensions {y : Extension} :
    y ∈ xs' ↔ ∃ p ∈ cuts, p.2 < p.1.fields.length ∧ p.1.after p.2 = y := by
  -- an extension that was cut is planned again as what is left of it, if fields are
  have hafter : ∀ p ∈ cuts, ∀ {t l l'}, .table t ∈ entries → liveTable? live t.name = some l →
      liveTable? live' t.name = some l' → t.missingFields l ≠ [] →
      p.1 = t.extensionBy (t.missingFields l) →
        p.1.after p.2 = t.extensionBy (t.missingFields l') ∧
          (p.2 < p.1.fields.length ↔ t.missingFields l' ≠ []) := by
    intro p hp t l l' ht hl hl' hne heq
    have hmissing := h.missingFields_of_cut ht hl hl' hne (heq ▸ hmade p hp) (heq ▸ hleft p hp)
    rw [heq, Table.extensionBy_after, hmissing]
    exact ⟨rfl, by simp [Table.extensionBy]⟩
  rw [h.second.mem_extensions]
  constructor
  · rintro ⟨t, l', ht, hl', hne', rfl⟩
    obtain ⟨l, hl, hne⟩ := h.exists_of_missing ht hl' hne'
    have hx := h.first.mem_extensions.2 ⟨t, l, ht, hl, hne, rfl⟩
    rw [← hcuts] at hx
    obtain ⟨p, hp, heq⟩ := List.mem_map.1 hx
    obtain ⟨hsame, hlt⟩ := hafter p hp ht hl hl' hne heq
    exact ⟨p, hp, hlt.2 hne', hsame⟩
  · rintro ⟨p, hp, hlt, rfl⟩
    obtain ⟨t, l, ht, hl, hne, heq⟩ := h.first.mem_extensions.1 (hcuts ▸ List.mem_map_of_mem hp)
    obtain ⟨l', hl'⟩ := h.exists_live hl
    obtain ⟨hsame, hlt'⟩ := hafter p hp ht hl hl' hne heq
    exact ⟨t, l', ht, hl', hlt'.1 hlt, hsame⟩

/-- The extensions that are planned again are what is left of those of which not all columns were
    added, in the same order. -/
theorem extensions_eq :
    xs' = (cuts.filter fun p => p.2 < p.1.fields.length).map fun p => p.1.after p.2 := by
  have hsorted := h.first.sorted
  have hnodup := h.first.nodup_extensions h.names
  have hnodup' := h.second.nodup_extensions h.names
  rw [← hcuts, List.pairwise_map] at hsorted
  rw [← hcuts, List.map_map] at hnodup
  -- the members are the same, and so is the order that they are sorted into
  have hperm : xs'.Perm
      ((cuts.filter fun p => p.2 < p.1.fields.length).map fun p => p.1.after p.2) := by
    refine (List.perm_ext_iff_of_nodup hnodup'.of_map ?_).2 fun y => ?_
    · refine List.Nodup.of_map Extension.table ?_
      rw [List.map_map]
      exact hnodup.sublist (List.filter_sublist.map _)
    · simp [h.mem_extensions cuts hcuts hmade hleft, and_assoc]
  refine hperm.eq_of_pairwise (fun x y hx hy hxy hyx => ?_) h.second.sorted ?_
  · have hname : x.table = y.table :=
      congrArg Prod.snd (ofLex.injective.eq_iff.2 (hxy.antisymm hyx))
    exact List.inj_on_of_nodup_map hnodup' hx (hperm.symm.subset hy) hname
  · -- what is left of an extension goes to the same place
    rw [List.pairwise_map]
    exact (hsorted.sublist List.filter_sublist).imp id

end Cuts

/-- The tables that are planned again are those of which the creation was left. -/
theorem creations_perm {made left : List Table} (hts : ts = made ++ left)
    (hmade : ∀ t ∈ made, ∀ s ∈ t.script.head?, s ∈ before)
    (hleft : ∀ t ∈ left, ∀ s ∈ t.script.head?, s ∈ after) : ts'.Perm left := by
  have hnodup := h.first.nodup_creations h.names
  rw [hts] at hnodup
  refine (List.perm_ext_iff_of_nodup (h.second.nodup_creations h.names)
    (List.nodup_append.1 hnodup).2.1).2 fun t => ?_
  constructor
  · intro ht
    obtain ⟨u, hu, hl', rfl⟩ := h.second.mem_creations.1 ht
    cases hl : liveTable? live u.name with
    | some l =>
      -- a live table stays live
      obtain ⟨l', hsome⟩ := h.exists_live hl
      exact absurd (hsome.symm.trans hl') (by simp)
    | none =>
      obtain ⟨s, hs⟩ := h.first.exists_first hu hl
      have hmem := h.first.mem_creations.2 ⟨u, hu, hl, rfl⟩
      rw [hts] at hmem
      -- and one that was created is live now
      refine (List.mem_append.1 hmem).resolve_left fun hmem => ?_
      obtain ⟨l', hsome, -⟩ := h.exists_of_created hu hl hs (hmade _ hmem s hs)
      exact absurd (hsome.symm.trans hl') (by simp)
  · intro ht
    obtain ⟨u, hu, hl, rfl⟩ := h.first.mem_creations.1 (hts ▸ List.mem_append_right _ ht)
    obtain ⟨s, hs⟩ := h.first.exists_first hu hl
    exact h.second.mem_creations.2
      ⟨u, hu, h.liveTable?_eq_none_of_left hu hl hs (hleft _ ht s hs), rfl⟩

end Replanning

end Accrete
