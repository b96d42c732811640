import Accrete.Proofs.Writing.Writable

/-!
# Writing additions

When the addition of columns can be written.

* `ColumnAddition.exists_selfTargets`           -- the columns by which a table references itself
* `ColumnAddition.statements_eq_ok_iff`         -- what the statements of an addition are
* `ColumnAddition.exists_statements_iff`        -- and when they all have a property
* `ColumnAddition.columnStatements_written_iff` -- a column's are written, by its reference in MySQL
* `Extension.exists_sql_addition_iff`           -- a typed extension is, just where it is writable
-/

namespace Accrete

variable {d : Dialect}

theorem Statement.isSent_addForeignKey {table : String} {k : ForeignKey} :
    (Statement.addForeignKey table k).IsSent d ↔ ∃ text, foreignKeyText d k = .ok text := by
  rw [IsSent, sent]
  cases foreignKeyText d k <;> simp [bind, Except.bind, pure, Except.pure]

theorem Statement.isSent_addColumn {table : String} {spec : ColumnSpec} {unique : Bool}
    {references : Option InlineReference}
    (typed : ∀ r, references = some r → ∃ t c, r.table = .name t ∧ r.column = .name c) :
    (Statement.addColumn table spec unique references).IsSent d := by
  rw [IsSent, sent]
  cases references with
  | none => exact ⟨_, rfl⟩
  | some r =>
    -- what is named by texts is written as it stands, and so is an action
    obtain ⟨t, c, ht, hc⟩ := typed r rfl
    obtain ⟨table, column, onDelete⟩ := r
    obtain rfl : table = .name t := ht
    obtain rfl : column = .name c := hc
    exact ⟨_, rfl⟩

namespace ColumnAddition

variable {a : ColumnAddition} {ns own further : List String}

theorem map_column_filter_reference? (table : String) {columns : List Column}
    (typed : ∀ c ∈ columns, c.references.IsTypedReference) :
    ((columns.filterMap (·.reference?)).filter fun r =>
      r.model.sameKey (.text table)).map (·.column) =
    (((columnTargets columns).filter fun p => p.1 == table).map Prod.snd).map .text := by
  induction columns with
  | nil => rfl
  | cons col columns ih =>
    obtain ⟨hcol, hcolumns⟩ := List.forall_mem_cons.1 typed
    have ih := ih hcolumns
    cases htarget : col.references.target? with
    | none =>
      obtain hnull : col.references = .null := hcol.resolve_right (by simp [htarget])
      have hreference : col.reference? = none := by rw [Column.reference?, hnull]
      rw [List.filterMap_cons_none hreference, columnTargets_cons_of_none htarget]
      exact ih
    | some p =>
      obtain ⟨action, href⟩ := Value.target?_eq_some.1 htarget
      have hreference : col.reference? = some ⟨.text p.1, .text p.2, action⟩ := by
        rw [Column.reference?, href]
      rw [List.filterMap_cons_some hreference, columnTargets_cons_of_some htarget,
        List.filter_cons, List.filter_cons, Value.sameKey_text]
      by_cases h : (p.1 == table) = true
      · rw [if_pos h, if_pos h]
        exact congrArg (Value.text p.2 :: ·) ih
      · rw [if_neg h, if_neg h]
        exact ih

/-- The columns by which a table references itself and which are not added. -/
theorem exists_selfTargets (hns : a.columnNames = ns.map .text)
    (typed : ∀ c ∈ a.columns, c.references.IsTypedReference) :
    ∃ further : List String, a.selfTargets = .ok (further.map .text) ∧ further.Nodup ∧
      ∀ s, s ∈ further ↔ (a.table, s) ∈ columnTargets a.columns ∧ s ∉ ns := by
  -- columns named by texts are left out by name
  have hrest : ∀ ss : List String, (ss.map Value.text).filter (fun v => !v.isIn (ns.map .text)) =
      (ss.filter fun s => !ns.contains s).map .text := by
    intro ss
    rw [List.filter_map]
    refine congrArg _ (List.filter_congr fun s _ => ?_)
    rw [Function.comp_apply, Value.isIn_map_text rfl]
  obtain ⟨sorted, hsorted, hnodup, hmem⟩ := Value.sort_map_text
    ((((columnTargets a.columns).filter fun p => p.1 == a.table).map Prod.snd).filter
      fun s => !ns.contains s)
  refine ⟨sorted, ?_, hnodup, fun s => by simp [hmem]⟩
  rw [selfTargets, hns]
  dsimp only
  rw [map_column_filter_reference? a.table typed, Value.checkKeys_map_text,
    Value.checkKeys_map_text, hrest]
  exact hsorted

/-- The statements of an addition: those of its columns, the indexes for uniqueness and the stated
    ones. -/
theorem statements_eq_ok_iff {targets : Columns} {ss : List Statement}
    (hown : a.columnNames.mapM columnNamed = .ok own) (htargets : a.selfTargets = .ok targets)
    (hfurther : targets.mapM columnNamed = .ok further) :
    a.statements d = .ok ss ↔
      checkNames a.table [] (own ++ further) = .ok () ∧
      ∃ others columns uniques indexes, KnownTables.ofColumns a.table a.columns = .ok others ∧
        (a.columns.mapM (a.columnStatements d
          (KnownTables.own a.table (own ++ further) :: others)
          ((own.zip a.columns).map (fun (name, col) => col.spec name) ++
            ((own ++ further).drop own.length).map fun name => ⟨name, d.idType, false⟩))) =
          .ok columns ∧
        a.uniqueIndexes d (own ++ further) = .ok uniques ∧
        (a.indexes.mapM fun i => i.statement a.table (own ++ further)) = .ok indexes ∧
        ss = columns.flatten ++ uniques ++ indexes := by
  rw [statements_parts_iff]
  constructor
  · rintro ⟨others, found, names, rest, columns, uniques, indexes, hothers, hfound, hnames, hrest,
      hcheck, hcolumns, huniques, hindexes, rfl⟩
    obtain rfl := Except.ok.inj (hfound.symm.trans htargets)
    obtain rfl := Except.ok.inj (hnames.symm.trans hown)
    obtain rfl := Except.ok.inj (hrest.symm.trans hfurther)
    exact ⟨hcheck, others, columns, uniques, indexes, hothers, hcolumns, huniques, hindexes, rfl⟩
  · rintro ⟨hcheck, others, columns, uniques, indexes, hothers, hcolumns, huniques, hindexes, rfl⟩
    exact ⟨others, targets, own, further, columns, uniques, indexes, hothers, htargets, hown,
      hfurther, hcheck, hcolumns, huniques, hindexes, rfl⟩

/-- An addition has statements of which all have a property, if its columns and its indexes do. -/
theorem exists_statements_iff {P : Statement → Prop} {targets : Columns}
    (hown : a.columnNames.mapM columnNamed = .ok own) (htargets : a.selfTargets = .ok targets)
    (hfurther : targets.mapM columnNamed = .ok further) :
    (∃ ss, a.statements d = .ok ss ∧ ∀ s ∈ ss, P s) ↔
      checkNames a.table [] (own ++ further) = .ok () ∧
      (∃ others, KnownTables.ofColumns a.table a.columns = .ok others ∧
        ∀ col ∈ a.columns, ∃ ss, a.columnStatements d
          (KnownTables.own a.table (own ++ further) :: others)
          ((own.zip a.columns).map (fun (name, col) => col.spec name) ++
            ((own ++ further).drop own.length).map fun name => ⟨name, d.idType, false⟩) col =
          .ok ss ∧ ∀ s ∈ ss, P s) ∧
      (∃ ss, a.uniqueIndexes d (own ++ further) = .ok ss ∧ ∀ s ∈ ss, P s) ∧
      ∀ i ∈ a.indexes, ∃ s, i.statement a.table (own ++ further) = .ok s ∧ P s := by
  simp only [← Except.exists_mapM_and_iff, statements_eq_ok_iff hown htargets hfurther]
  constructor
  · rintro ⟨_, ⟨hcheck, others, columns, uniques, indexes, hothers, hcolumns, huniques, hindexes,
      rfl⟩, hP⟩
    obtain ⟨hP, hPindexes⟩ := List.forall_mem_append.1 hP
    obtain ⟨hPcolumns, hPuniques⟩ := List.forall_mem_append.1 hP
    exact ⟨hcheck, ⟨others, hothers, columns, hcolumns, List.forall_mem_flatten.1 hPcolumns⟩,
      ⟨uniques, huniques, hPuniques⟩, indexes, hindexes, hPindexes⟩
  · rintro ⟨hcheck, ⟨others, hothers, columns, hcolumns, hPcolumns⟩, ⟨uniques, huniques, hPuniques⟩,
      indexes, hindexes, hPindexes⟩
    refine ⟨_, ⟨hcheck, others, columns, uniques, indexes, hothers, hcolumns, huniques, hindexes,
      rfl⟩, ?_⟩
    exact List.forall_mem_append.2 ⟨List.forall_mem_append.2
      ⟨List.forall_mem_flatten.2 hPcolumns, hPuniques⟩, hPindexes⟩

/-- The statements of a column can be written, if in MySQL its reference finds its target and has a
    phrase. -/
theorem columnStatements_written_iff {known : KnownTables} {specs : List ColumnSpec} {col : Column}
    {name : String} (hname : col.name = .text name) (hmem : name ∈ specs.map (·.name))
    (typed : col.references.IsTypedReference) :
    (∃ ss, a.columnStatements d known specs col = .ok ss ∧ ∀ s ∈ ss, s.IsSent d) ↔
      (d = .mysql → (∀ p, col.references.target? = some p →
        known.Has (writtenTarget p).1 (writtenTarget p).2) ∧ col.references.HasPhrase) := by
  have hadded : (Statement.addColumn a.table
      ((specs.find? fun s => s.name == name).getD (col.spec name)) (col.isUnique && inlinesUnique d)
      (if inlinesReference d then col.inlineReference? else none)).IsSent d := by
    refine Statement.isSent_addColumn fun r hr => ?_
    split at hr
    · rcases typed with hnull | hsome
      · simp [Column.inlineReference?, Column.reference?, hnull] at hr
      · obtain ⟨p, hp⟩ := Option.isSome_iff_exists.1 hsome
        obtain ⟨action, href⟩ := Value.target?_eq_some.1 hp
        rw [Column.inlineReference?, Column.reference?, href] at hr
        obtain rfl := Option.some.inj hr
        exact ⟨p.1, p.2, rfl, rfl⟩
    · exact absurd hr (by simp)
  rw [columnStatements, hname, columnOf_text hmem]
  change (∃ ss, Except.ok _ = Except.ok ss ∧ _) ↔ _
  simp only [Except.ok.injEq, exists_eq_left', List.forall_mem_cons]
  refine (and_iff_right hadded).trans ?_
  by_cases hd : d = .mysql
  · subst hd
    simp only [if_neg (show ¬ inlinesReference .mysql = true by decide), forall_prop_of_true,
      List.forall_mem_map, Statement.isSent_addForeignKey]
    exact col.foreignKeyText_written_iff typed a.table name
  · -- the reference is stated with the column
    have hinlines : inlinesReference d = true := by cases d <;> simp_all [inlinesReference]
    simp [hinlines, hd]

/-- In SQLite the unique columns of an addition are covered by indexes. -/
theorem uniqueIndexes_written_iff {known : List String}
    (typed : ∀ c ∈ a.columns, c.name ∈ known.map Value.text) :
    (∃ ss, a.uniqueIndexes d known = .ok ss ∧ ∀ s ∈ ss, s.IsSent d) ↔
      (d = .sqlite → ∀ c ∈ a.columns, c.isUnique = true →
        (Index.uniqueOn [c.name]).IsWritable a.table d) := by
  by_cases hd : d = .sqlite
  · subst hd
    rw [uniqueIndexes, if_neg (by decide), Except.exists_mapM_and_iff, forall_prop_of_true rfl]
    simp only [List.mem_filter, and_imp]
    refine forall₃_congr fun c hc _ => ?_
    have hin := typed c hc
    obtain ⟨s, -, hs⟩ := List.mem_map.1 hin
    exact Index.exists_written_iff ⟨[s], by simp [Index.uniqueOn, hs]⟩
      (by simpa [Index.uniqueOn] using hin) a.table
  · -- uniqueness is stated with the column
    have hinlines : inlinesUnique d = true := by cases d <;> simp_all [inlinesUnique]
    simp [uniqueIndexes, hinlines, hd]

end ColumnAddition

namespace Extension

variable {x : Extension}

theorem columnNames_addition : (x.addition d).columnNames = x.fields.names := by
  simp [ColumnAddition.columnNames, addition, Field.column, Bag.names]

theorem columnTargets_addition : columnTargets (x.addition d).columns = x.fields.targets := by
  rw [columnTargets, addition, List.filterMap_map]
  rfl

theorem forall_columns_addition {P : Column → Prop} :
    (∀ col ∈ (x.addition d).columns, P col) ↔
      ∀ e ∈ x.fields, P (e.2.column e.1 d x.groups.flatten) := by
  rw [addition, List.forall_mem_map]

theorem has_iff_knows {others : KnownTables} (typed : x.fields.IsTyped)
    {ns further : List String} (hns : x.fields.names = ns.map .text)
    (hfurther : ∀ s, s ∈ further ↔ (x.table, s) ∈ x.fields.targets ∧ s ∉ ns)
    (hothers : KnownTables.ofColumns x.table (x.addition d).columns = .ok others)
    (p : String × String) :
    KnownTables.Has (KnownTables.own x.table (ns ++ further) :: others) p.1 p.2 ↔ x.Knows p := by
  have hreferences := (forall_columns_addition (x := x) (d := d)
    (P := fun col => col.references.IsTypedReference)).2 typed.references
  rw [KnownTables.has_cons rfl, Knows, hns, Value.text_mem_map]
  by_cases h : x.table = p.1
  · have hself : p.2 ∈ further ↔ p ∈ x.fields.targets ∧ p.2 ∉ ns := by
      rw [hfurther, h]
    rw [if_pos h, KnownTables.own, List.mem_append, hself]
    tauto
  · rw [if_neg h, KnownTables.has_ofColumns hreferences hothers, columnTargets_addition]
    simp [h, Ne.symm h]

/-- The columns of an addition can be written if in MySQL every reference finds its target and has
    a phrase. -/
theorem columns_written_iff {others : KnownTables} {specs : List ColumnSpec} (typed : x.IsTyped)
    {ns further : List String} (hns : x.fields.names = ns.map .text)
    (hfurther : ∀ s, s ∈ further ↔ (x.table, s) ∈ x.fields.targets ∧ s ∉ ns)
    (hspecs : specs.map (·.name) = ns ++ further)
    (hothers : KnownTables.ofColumns x.table (x.addition d).columns = .ok others) :
    (∀ col ∈ (x.addition d).columns, ∃ ss, (x.addition d).columnStatements d
        (KnownTables.own x.table (ns ++ further) :: others) specs col = .ok ss ∧
        ∀ s ∈ ss, s.IsSent d) ↔
      (d = .mysql → (∀ p ∈ x.fields.targets, x.Knows (writtenTarget p)) ∧
        ∀ e ∈ x.fields, e.2.references.HasPhrase) := by
  -- what a column references is known to the addition, with all that the others name
  have hcolumn : ∀ col ∈ (x.addition d).columns, (∃ ss, (x.addition d).columnStatements d
        (KnownTables.own x.table (ns ++ further) :: others) specs col = .ok ss ∧
        ∀ s ∈ ss, s.IsSent d) ↔
      (d = .mysql → (∀ p, col.references.target? = some p → x.Knows (writtenTarget p)) ∧
        col.references.HasPhrase) := by
    intro col hcol
    have hname : col.name ∈ ns.map Value.text := by
      rw [← hns, ← columnNames_addition (d := d)]
      exact List.mem_map_of_mem hcol
    obtain ⟨name, hmem, hname⟩ := List.mem_map.1 hname
    rw [ColumnAddition.columnStatements_written_iff hname.symm
      (hspecs ▸ List.mem_append_left _ hmem)
      ((forall_columns_addition (P := fun col => col.references.IsTypedReference)).2
        typed.fields.references col hcol)]
    simp only [has_iff_knows typed.fields hns hfurther hothers]
  have hphrases : (∀ col ∈ (x.addition d).columns, col.references.HasPhrase) ↔
      ∀ e ∈ x.fields, e.2.references.HasPhrase :=
    forall_columns_addition (P := fun col => col.references.HasPhrase)
  rw [← columnTargets_addition (d := d), forall_columnTargets, ← hphrases, ← forall₂_and]
  exact ⟨fun h hd col hcol => (hcolumn col hcol).1 (h col hcol) hd,
    fun h col hcol => (hcolumn col hcol).2 fun hd => h hd col hcol⟩

/-- The names of the columns are right if none of them is blank, and no reference to the table
    itself is to a blank one. -/
theorem checkNames_iff {ns further : List String} (hnodup : ns.Nodup)
    (hns : x.fields.names = ns.map .text) (hnodupFurther : further.Nodup)
    (hfurther : ∀ s, s ∈ further ↔ (x.table, s) ∈ x.fields.targets ∧ s ∉ ns) :
    checkNames x.table [] (ns ++ further) = .ok () ↔
      Value.text "" ∉ x.fields.names ∧ (x.table, "") ∉ x.fields.targets := by
  have hdisjoint : ns.Disjoint further := fun s hs hs' => ((hfurther s).1 hs').2 hs
  rw [checkNames_eq_ok, List.nodup_append', hns, Value.text_mem_map, List.mem_append, hfurther]
  simp only [hnodup, hnodupFurther, hdisjoint]
  simp
  tauto

/-- A typed extension whose columns are all known can be written just where it is writable. -/
theorem exists_sql_addition_iff (typed : x.IsTyped) (known : ¬ x.NamesUnknown) :
    (∃ sql, (Operation.add (x.addition d)).sql d = .ok sql) ↔ x.IsWritable d := by
  obtain ⟨ns, hnodup, hns⟩ := typed.fields.names
  have hcolumnNames : (x.addition d).columnNames = ns.map .text := columnNames_addition.trans hns
  have hlength : ns.length = (x.addition d).columns.length := by
    simpa [ColumnAddition.columnNames] using (congrArg List.length hcolumnNames).symm
  have hown : (x.addition d).columnNames.mapM columnNamed = .ok ns := by
    rw [hcolumnNames]
    exact KnownTables.mapM_columnNamed_text ns
  have hreferences := (forall_columns_addition (x := x) (d := d)
    (P := fun col => col.references.IsTypedReference)).2 typed.fields.references
  obtain ⟨further, hself, hnodupFurther, hfurther⟩ :=
    ColumnAddition.exists_selfTargets hcolumnNames hreferences
  rw [columnTargets_addition] at hfurther
  have hnamed := checkNames_iff hnodup hns hnodupFurther hfurther
  have htargets : (∃ others, KnownTables.ofColumns x.table (x.addition d).columns = .ok others) ↔
      ∀ p ∈ x.fields.targets, p.1 ≠ x.table → p.2 ≠ "" := by
    rw [KnownTables.exists_ofColumns_iff hreferences, columnTargets_addition]
  have hknown : ∀ g ∈ x.groups, ∀ v ∈ g, v ∈ (ns ++ further).map Value.text := by
    intro g hg v hv
    rw [List.map_append, ← hns]
    exact List.mem_append_left _ (by_contra fun hunknown => known ⟨g, hg, v, hv, hunknown⟩)
  have hindexes : ∀ i ∈ x.indexes,
      (∃ s, i.statement x.table (ns ++ further) = .ok s ∧ s.IsSent d) ↔
        i.IsWritable x.table d := fun i hi =>
    Index.exists_written_iff (typed.groups i.columns (List.mem_map_of_mem hi))
      (hknown i.columns (List.mem_map_of_mem hi)) x.table
  have hadded : ∀ c ∈ (x.addition d).columns, c.name ∈ (ns ++ further).map Value.text := by
    intro c hc
    rw [List.map_append, ← hcolumnNames]
    exact List.mem_append_left _ (List.mem_map_of_mem hc)
  have huniques := ColumnAddition.uniqueIndexes_written_iff (d := d) hadded
  have hcolumns := fun others => @columns_written_iff d x others _ typed ns further hns hfurther
    (ColumnAddition.map_name_specs d further hlength)
  rw [Operation.exists_sql_iff, Operation.statements, ColumnAddition.exists_statements_iff hown
    hself (KnownTables.mapM_columnNamed_text further), huniques]
  -- each condition of writability is one of those under which the statements can be written
  constructor
  · rintro ⟨hcheck, ⟨others, hothers, hwritten⟩, huniques, hwrittenIndexes⟩
    obtain ⟨hnamed, hself⟩ := hnamed.1 hcheck
    have hreferenced := (hcolumns others hothers).1 hwritten
    refine ⟨hnamed, fun p hp hblank => ?_, fun hd => (hreferenced hd).1,
      fun hd => (hreferenced hd).2, fun hd => forall_columns_addition.1 (huniques hd),
      fun i hi => (hindexes i hi).1 (hwrittenIndexes i hi)⟩
    by_cases htable : p.1 = x.table
    · -- it would be a further column of the table itself, and those have names
      exact hself (htable ▸ hblank ▸ hp)
    · exact htargets.1 ⟨others, hothers⟩ p hp htable hblank
  · intro h
    obtain ⟨others, hothers⟩ := htargets.2 fun p hp _ => h.targetsNamed p hp
    exact ⟨hnamed.2 ⟨h.named, fun hp => h.targetsNamed _ hp rfl⟩, ⟨others, hothers,
      (hcolumns others hothers).2 fun hd => ⟨h.targetsKnown hd, h.actions hd⟩⟩,
      fun hd => forall_columns_addition.2 (h.uniques hd),
      fun i hi => (hindexes i hi).2 (h.indexes i hi)⟩

end Extension

end Accrete
