import Accrete.Proofs.Writing.Writable

/-!
# Writing creations

When the creation of a table can be written.

* `Statement.isSent_createTable`              -- a table is, if its constraints are
* `TableCreation.exists_statements_iff`       -- what the statements of a creation are
* `TableCreation.columnConstraints_written_iff` -- those of a column are, by its reference
* `Table.exists_sql_creation_iff`             -- a typed table is, just where it is writable
-/

namespace Accrete

variable {d : Dialect}

theorem Statement.isSent_createTable {table : String} {columns : List ColumnSpec}
    {constraints : List Constraint} :
    (Statement.createTable table columns constraints).IsSent d ↔
      ∀ c ∈ constraints, ∃ text, constraintText d c = .ok text := by
  rw [← Except.exists_mapM_iff, IsSent, sent]
  constructor
  · rintro ⟨text, h⟩
    obtain ⟨written, hwritten, -⟩ := Except.bind_eq_ok.1 h
    exact ⟨written, hwritten⟩
  · rintro ⟨written, hwritten⟩
    exact ⟨_, Except.bind_eq_ok.2 ⟨written, hwritten, rfl⟩⟩

theorem Statement.constraintText_unique (columns : List String) :
    ∃ text, constraintText d (.unique columns) = .ok text := by
  cases columns with
  | nil => exact ⟨_, rfl⟩
  | cons c columns => exact ⟨_, rfl⟩

namespace TableCreation

variable {c : TableCreation} {own : List String} {uniques : List Constraint}

/-- The statements of a creation, of which all have a property: the table, whose constraints are
    those of its key, the stated ones and those of its columns, and its indexes. -/
theorem exists_statements_iff {P : Statement → Prop}
    (hnames : c.columnNames.mapM columnNamed = .ok own)
    (hgroups : c.uniqueConstraints.forM checkGroup = .ok ())
    (huniques : c.uniqueConstraints.mapM (uniqueConstraint c.table own) = .ok uniques) :
    (∃ ss, c.statements = .ok ss ∧ ∀ s ∈ ss, P s) ↔
      checkNames c.table [] own = .ok () ∧
      (∃ others, KnownTables.ofColumns c.table c.columns = .ok others ∧
        P (.createTable c.table ((own.zip c.columns).map fun (name, col) => col.spec name)
          (keyConstraint (own.zip c.columns) ++ uniques ++
            (own.zip c.columns).flatMap fun (name, col) =>
              columnConstraints (KnownTables.own c.table own :: others) c.table name col))) ∧
      ∀ i ∈ c.indexes, ∃ s, i.statement c.table own = .ok s ∧ P s := by
  rw [← Except.exists_mapM_and_iff]
  constructor
  · rintro ⟨ss, h, hP⟩
    obtain ⟨others, names, stated, indexes, hothers, hown, -, hcheck, hstated, hindexes, rfl⟩ :=
      statements_parts_iff.1 h
    obtain rfl := Except.ok.inj (hown.symm.trans hnames)
    obtain rfl := Except.ok.inj (hstated.symm.trans huniques)
    obtain ⟨htable, hrest⟩ := List.forall_mem_cons.1 hP
    exact ⟨hcheck, ⟨others, hothers, htable⟩, indexes, hindexes, hrest⟩
  · rintro ⟨hcheck, ⟨others, hothers, htable⟩, indexes, hindexes, hrest⟩
    exact ⟨_, statements_parts_iff.2 ⟨others, own, uniques, indexes, hothers, hnames, hgroups,
      hcheck, huniques, hindexes, rfl⟩, List.forall_mem_cons.2 ⟨htable, hrest⟩⟩

theorem uniqueConstraint_of_known {table : String} {known ss : List String}
    (hknown : ∀ s ∈ ss, s ∈ known) :
    uniqueConstraint table known (ss.map .text) = .ok (.unique ss.eraseDups) := by
  refine Except.bind_eq_ok.2 ⟨ss, ?_, rfl⟩
  rw [Except.mapM_eq_ok, List.forall₂_map_left_iff]
  exact List.forall₂_same.2 fun s hs => by simp [Value.text?, Option.filter, hknown s hs]

theorem checkGroup_map_text (ss : List String) : checkGroup (ss.map .text) = .ok () := by
  have hnone : (ss.map Value.text).find? (fun v => v.text?.isNone) = none := by
    simp [Value.text?]
  rw [checkGroup, hnone]

/-- Unique constraints over known columns can be stated, and they can be written. -/
theorem exists_uniqueConstraints {known : List String} {groups : List Columns} (table : String)
    (h : ∀ g ∈ groups, ∃ ss : List String, g = ss.map .text ∧ ∀ s ∈ ss, s ∈ known) :
    ∃ uniques, groups.mapM (uniqueConstraint table known) = .ok uniques ∧
      ∀ k ∈ uniques, ∃ text, Statement.constraintText d k = .ok text := by
  refine Except.exists_mapM_and_iff.2 fun g hg => ?_
  obtain ⟨ss, rfl, hknown⟩ := h g hg
  exact ⟨_, uniqueConstraint_of_known hknown, Statement.constraintText_unique _⟩

theorem keyConstraint_written (columns : List (String × Column)) :
    ∀ k ∈ keyConstraint columns, ∃ text, Statement.constraintText d k = .ok text := by
  intro k hk
  rw [keyConstraint] at hk
  split at hk
  · exact absurd hk List.not_mem_nil
  next names _ =>
    obtain rfl := List.mem_singleton.1 hk
    exact ⟨_, rfl⟩

/-- The constraints of a column can be written if it references nothing, or if its reference finds
    its target and has a phrase. -/
theorem columnConstraints_written_iff {known : KnownTables} {table name : String} {col : Column}
    (typed : col.references.IsTypedReference) :
    (∀ k ∈ columnConstraints known table name col,
        ∃ text, Statement.constraintText d k = .ok text) ↔
      (∀ p, col.references.target? = some p →
        known.Has (writtenTarget p).1 (writtenTarget p).2) ∧ col.references.HasPhrase := by
  have hunique : ∀ k ∈ (if col.bringsUnique then [Constraint.unique [name]] else []),
      ∃ text, Statement.constraintText d k = .ok text := by
    intro k hk
    split at hk
    · obtain rfl := List.mem_singleton.1 hk
      exact Statement.constraintText_unique [name]
    · exact absurd hk List.not_mem_nil
  rw [columnConstraints, List.forall_mem_append, and_iff_right hunique, List.forall_mem_map]
  exact col.foreignKeyText_written_iff typed table name

/-- The constraints of a creation can be written if every reference of a column finds its target
    and has a phrase. -/
theorem constraints_written_iff {known : KnownTables}
    (typed : ∀ col ∈ c.columns, col.references.IsTypedReference)
    (hlength : own.length = c.columns.length)
    (hunique : ∀ k ∈ uniques, ∃ text, Statement.constraintText d k = .ok text) :
    (∀ k ∈ keyConstraint (own.zip c.columns) ++ uniques ++
        (own.zip c.columns).flatMap (fun (name, col) => columnConstraints known c.table name col),
      ∃ text, Statement.constraintText d k = .ok text) ↔
    (∀ p ∈ columnTargets c.columns, known.Has (writtenTarget p).1 (writtenTarget p).2) ∧
      ∀ col ∈ c.columns, col.references.HasPhrase := by
  have hzip : (own.zip c.columns).map Prod.snd = c.columns :=
    List.map_snd_zip (Nat.le_of_eq hlength.symm)
  have hcolumns : ∀ x ∈ own.zip c.columns,
      (∀ k ∈ columnConstraints known c.table x.1 x.2,
        ∃ text, Statement.constraintText d k = .ok text) ↔
      (∀ p, x.2.references.target? = some p →
        known.Has (writtenTarget p).1 (writtenTarget p).2) ∧ x.2.references.HasPhrase :=
    fun x hx => columnConstraints_written_iff (typed x.2 (List.of_mem_zip hx).2)
  rw [List.forall_mem_append, List.forall_mem_append, and_iff_right (keyConstraint_written _),
    and_iff_right hunique, forall_columnTargets, ← forall₂_and]
  simp only [List.mem_flatMap, forall_exists_index, and_imp]
  rw [forall_comm]
  conv_rhs => rw [← hzip, List.forall_mem_map]
  exact ⟨fun h x hx => (hcolumns x hx).1 fun k hk => h x k hx hk,
    fun h x k hx hk => (hcolumns x hx).2 (h x hx) k hk⟩

end TableCreation

namespace Table

variable {t : Table}

theorem columnNames_creation :
    (t.creation d).columnNames = .text primaryKeyName :: t.fields.names := by
  simp [TableCreation.columnNames, creation, keyColumn, declaredColumns, Field.column, Bag.names]

theorem columnTargets_creation : columnTargets (t.creation d).columns = t.fields.targets := by
  rw [columnTargets, creation, List.filterMap_cons_none rfl, declaredColumns, List.filterMap_map]
  rfl

theorem forall_columns_creation {P : Value → Prop} (hnull : P .null) :
    (∀ col ∈ (t.creation d).columns, P col.references) ↔ ∀ e ∈ t.fields, P e.2.references := by
  simp only [creation, List.forall_mem_cons, declaredColumns, List.forall_mem_map]
  exact and_iff_right hnull

theorem has_iff_knows {others : KnownTables} (typed : t.fields.IsTyped) {ns : List String}
    (hns : t.fields.names = ns.map .text)
    (hothers : KnownTables.ofColumns t.name (t.creation d).columns = .ok others)
    (p : String × String) :
    KnownTables.Has (KnownTables.own t.name (primaryKeyName :: ns) :: others) p.1 p.2 ↔
      t.Knows p := by
  have hreferences := (forall_columns_creation (t := t) (d := d) (.inl rfl)).2 typed.references
  rw [KnownTables.has_cons rfl, Knows, hns, ← List.map_cons, Value.text_mem_map]
  by_cases h : t.name = p.1
  · rw [if_pos h, if_pos h]
    rfl
  · rw [if_neg h, if_neg h, KnownTables.has_ofColumns hreferences hothers, columnTargets_creation]
    exact and_iff_right (Ne.symm h)

theorem key_notMem_names (free : ∀ e ∈ t.fields, declaresKey e = false) {ns : List String}
    (hns : t.fields.names = ns.map .text) : primaryKeyName ∉ ns := by
  intro hmem
  have hdeclared : Value.text primaryKeyName ∈ t.fields.names := hns ▸ Value.text_mem_map.2 hmem
  obtain ⟨e, he, hname⟩ := List.mem_map.1 hdeclared
  have hfree := (Bool.or_eq_false_iff.1 (free e he)).1
  simp [hname, Value.sameKey_text] at hfree

/-- The names of the columns are right if none of them is blank. -/
theorem checkNames_iff (free : ∀ e ∈ t.fields, declaresKey e = false) {ns : List String}
    (hnodup : ns.Nodup) (hns : t.fields.names = ns.map .text) :
    checkNames t.name [] (primaryKeyName :: ns) = .ok () ↔ Value.text "" ∉ t.fields.names := by
  have hkey := key_notMem_names free hns
  have hblank : "" ≠ primaryKeyName := by decide
  rw [checkNames_eq_ok, hns, Value.text_mem_map, List.nodup_cons, List.mem_cons, not_or]
  simp [hkey, hnodup, hblank]

section Typed

variable (typed : t.IsTyped) (free : ∀ e ∈ t.fields, declaresKey e = false)
include typed

theorem exists_texts_of_known (known : ¬ t.NamesUnknown) {ns : List String}
    (hns : t.fields.names = ns.map .text) {g : Columns} (hg : g ∈ t.groups) :
    ∃ ss : List String, g = ss.map .text ∧ ∀ s ∈ ss, s ∈ primaryKeyName :: ns := by
  obtain ⟨ss, rfl⟩ := typed.groups g hg
  refine ⟨ss, rfl, fun s hs => ?_⟩
  by_contra hunknown
  refine known ⟨_, hg, _, List.mem_map_of_mem hs, fun hmem => hunknown ?_⟩
  rwa [hns, ← List.map_cons, Value.text_mem_map] at hmem

include free

/-- A typed table whose columns are all known and which declares no key can be written just where
    it is writable. -/
theorem exists_sql_creation_iff (known : ¬ t.NamesUnknown) :
    (∃ sql, (Operation.create (t.creation d)).sql d = .ok sql) ↔ t.IsWritable d := by
  obtain ⟨ns, hnodup, hns⟩ := typed.fields.names
  have hgroup := fun g => exists_texts_of_known typed known hns (g := g)
  have hown : (t.creation d).columnNames = (primaryKeyName :: ns).map .text := by
    rw [columnNames_creation, hns, List.map_cons]
  have hlength : (primaryKeyName :: ns).length = (t.creation d).columns.length := by
    simpa [TableCreation.columnNames] using (congrArg List.length hown).symm
  have hnames : (t.creation d).columnNames.mapM columnNamed = .ok (primaryKeyName :: ns) := by
    rw [hown]
    exact KnownTables.mapM_columnNamed_text _
  have hchecked : (t.creation d).uniqueConstraints.forM TableCreation.checkGroup = .ok () := by
    refine Except.forM_eq_ok.2 fun g hg => ?_
    obtain ⟨ss, rfl, -⟩ := hgroup g (List.mem_append_left _ hg)
    exact TableCreation.checkGroup_map_text ss
  obtain ⟨uniques, huniques, hunique⟩ := TableCreation.exists_uniqueConstraints (d := d) t.name
    fun g hg => hgroup g (List.mem_append_left _ hg)
  have hreferences := (forall_columns_creation (t := t) (d := d) (.inl rfl)).2
    typed.fields.references
  have hnamed := checkNames_iff free hnodup hns
  have htargets : (∃ others, KnownTables.ofColumns t.name (t.creation d).columns = .ok others) ↔
      ∀ p ∈ t.fields.targets, p.1 ≠ t.name → p.2 ≠ "" := by
    rw [KnownTables.exists_ofColumns_iff hreferences, columnTargets_creation]
  have hindexes : ∀ i ∈ t.indexes,
      (∃ s, i.statement t.name (primaryKeyName :: ns) = .ok s ∧ s.IsSent d) ↔
        i.IsWritable t.name d := by
    intro i hi
    obtain ⟨ss, hss, hmem⟩ := hgroup i.columns (List.mem_append_right _ (List.mem_map_of_mem hi))
    refine Index.exists_written_iff ⟨ss, hss⟩ (fun v hv => ?_) t.name
    obtain ⟨s, hs, rfl⟩ := List.mem_map.1 (hss ▸ hv)
    exact List.mem_map_of_mem (hmem s hs)
  rw [Operation.exists_sql_iff, Operation.statements,
    TableCreation.exists_statements_iff hnames hchecked huniques]
  simp only [Statement.isSent_createTable,
    TableCreation.constraints_written_iff hreferences hlength hunique, columnTargets_creation,
    forall_columns_creation (P := Value.HasPhrase) (fun _ h => absurd h (by simp))]
  constructor
  · rintro ⟨hcheck, ⟨others, hothers, hknown, hactions⟩, hwritten⟩
    have hknows : ∀ p ∈ t.fields.targets, t.Knows (writtenTarget p) := fun p hp =>
      (has_iff_knows typed.fields hns hothers _).1 (hknown p hp)
    refine ⟨hnamed.1 hcheck, fun p hp hblank => ?_, hknows, hactions,
      fun i hi => (hindexes i hi).1 (hwritten i hi)⟩
    by_cases hself : p.1 = t.name
    · -- the table has no column without a name
      have hknown := hknows p hp
      rw [writtenTarget_of_notMem (by simp [hblank]), Knows, if_pos hself.symm, hblank] at hknown
      rcases List.mem_cons.1 hknown with hkey | hmem
      · exact absurd (Value.text.inj hkey) (by decide)
      · exact hnamed.1 hcheck hmem
    · exact htargets.1 ⟨others, hothers⟩ p hp hself hblank
  · intro h
    obtain ⟨others, hothers⟩ := htargets.2 fun p hp _ => h.targetsNamed p hp
    exact ⟨hnamed.2 h.named, ⟨others, hothers,
      fun p hp => (has_iff_knows typed.fields hns hothers _).2 (h.targetsKnown p hp), h.actions⟩,
      fun i hi => (hindexes i hi).2 (h.indexes i hi)⟩

end Typed

end Table

end Accrete
