import Accrete.Proofs.Database.Runs
import Accrete.Proofs.Statements

/-!
# Databases that agree

The tables that statements make do not depend on the indexes that are there.  So databases that
differ in indexes only are changed in the same way, and tables can be created in any order.

* `Statement.createdTable?`, `Database.createdIndex?` -- what a statement creates
* `Database.Agrees`        -- two databases with the same tables, of which one lacks indexes
* `Database.Agrees.runs_filter` -- statements of which some that create indexes are left out
* `Database.perm_of_runs`  -- which may be followed by others that create tables, in another order
-/

namespace Accrete

/-! ## What is created -/

namespace Statement

/-- The table that a statement creates, whatever tables are there. -/
def createdTable? : Statement → Option StoredTable
  | s@(.createTable ..) => do
    let text ← (s.sent .sqlite).toOption
    let read := (TableStatement.reader false fun _ => none).run text
    (read >>= TableStatement.table false).toOption
  | _ => none

/-- A statement that creates a table or an index. -/
def IsCreation : Statement → Prop
  | .createTable .. | .createIndex .. => True
  | _ => False

theorem IsIndex.isCreation {s : Statement} (h : s.IsIndex) : s.IsCreation := by
  cases s with
  | createIndex => exact True.intro
  | createTable | addColumn | addForeignKey => exact absurd h id

/-- A statement creates an index. -/
def Makes (s : Statement) (i : StoredIndex) : Prop :=
  ∃ before after : Database, before.Executes s after ∧ after.indexes = before.indexes ++ [i]

end Statement

namespace Database

variable {db db' d d' : Database} {s : Statement} {ss : List Statement} {t : StoredTable}
  {name : String}

/-- The tables that a database keeps for itself from when further tables are created. -/
def ownTables (db : Database) (ts : List StoredTable) : List StoredTable :=
  if ts.any (fun t => t.rowKey.any (·.counting)) && (db.table? sequenceTable.name).isNone then
    [sequenceTable]
  else []

theorem tables_withTable_eq (db : Database) (t : StoredTable) :
    (db.withTable t).tables = db.tables ++ db.ownTables [t] ++ [t] := by
  simp [withTable, ownTables]

/-- The index that a statement creates over the tables that are there. -/
def createdIndex? (db : Database) : Statement → Option StoredIndex
  | s@(.createIndex ..) => do
    let text ← (s.sent .sqlite).toOption
    let read ← (IndexStatement.reader.run text).toOption
    let t ← db.table? read.table.value
    let parts ← (read.parts.mapM (indexPart t)).toOption
    return ⟨read.name.value, t.name, parts, read.unique⟩
  | _ => none

theorem Executes.createdTable? {table : String} {columns : List ColumnSpec}
    {constraints : List Constraint} (h : db.Executes (.createTable table columns constraints) db') :
    ∃ t, (Statement.createTable table columns constraints).createdTable? = some t ∧
      isReserved t.name = false ∧ db.table? t.name = none ∧ db' = db.withTable t := by
  obtain ⟨text, hsent, hexecute⟩ := h
  obtain ⟨s, t, hs, ht, rfl⟩ := createTable_eq_ok hexecute
  obtain ⟨token, hname, hfault⟩ := Reader.of_run (TableStatement.ensures_name _ _ _) hs
  obtain ⟨hreserved, htable⟩ := nameFault?_eq_none hfault
  rw [← hname, ← (TableStatement.table_eq_ok ht).1] at hreserved htable
  have hread : ((TableStatement.reader false fun _ => none).run text >>=
      TableStatement.table false) = .ok t :=
    Except.bind_eq_ok.2 ⟨s, TableStatement.reader_of_run hs, ht⟩
  refine ⟨t, ?_, hreserved, htable, rfl⟩
  rw [Statement.createdTable?, hsent]
  exact congrArg Except.toOption hread

theorem Executes.createdIndex? {index table : String} {columns : List String} {unique : Bool}
    (h : db.Executes (.createIndex index table columns unique) db') :
    ∃ i, db.createdIndex? (.createIndex index table columns unique) = some i ∧
      db' = { db with indexes := db.indexes ++ [i] } := by
  obtain ⟨text, hsent, hexecute⟩ := h
  obtain ⟨⟨⟩, -, h⟩ := Except.bind_eq_ok.1 hexecute
  obtain ⟨s, hs, h⟩ := Except.bind_eq_ok.1 h
  obtain ⟨t, ht, h⟩ := Except.bind_eq_ok.1 h
  obtain ⟨⟨⟩, -, h⟩ := Except.bind_eq_ok.1 h
  obtain ⟨parts, hparts, h⟩ := Except.bind_eq_ok.1 h
  obtain ⟨-, h⟩ := Except.guard_eq_ok.1 h
  obtain ⟨-, h⟩ := Except.guard_eq_ok.1 h
  -- the table is the one that goes by the name in the statement
  have htable : db.table? s.table.value = some t := by
    rw [indexedTable] at ht
    split at ht
    · exact absurd ht (by simp)
    split at ht
    next hsome => exact hsome.trans (congrArg some (Except.ok.inj ht))
    · exact absurd ht (by simp)
  refine ⟨⟨s.name.value, t.name, parts, s.unique⟩, ?_, (Except.ok.inj h).symm⟩
  simp [Database.createdIndex?, hsent, hs, htable, hparts, Except.toOption]

theorem table?_of_mem (hdb : db.NamesDiffer) (ht : t ∈ db.tables)
    (hsame : sameName t.name name = true) : db.table? name = some t := by
  cases hfound : db.table? name with
  | none => exact absurd hsame (List.find?_eq_none.1 hfound t ht)
  | some u =>
    obtain ⟨hu, husame⟩ := table?_eq_some hfound
    rw [hdb.eq_of_sameName hu ht
      (sameName_iff.2 ((sameName_iff.1 husame).trans (sameName_iff.1 hsame).symm))]

theorem createdIndex?_congr (h : db.table? = d.table?) : db.createdIndex? = d.createdIndex? := by
  funext s
  cases s <;> simp only [createdIndex?, h]

/-- An index over tables is the same over more of them. -/
theorem createdIndex?_of_subset (hdb' : db'.NamesDiffer) (hsub : db.tables ⊆ db'.tables)
    {i : StoredIndex} (h : db.createdIndex? s = some i) : db'.createdIndex? s = some i := by
  cases s with
  | createIndex =>
    simp only [createdIndex?, Option.bind_eq_bind, Option.bind_eq_some_iff] at h ⊢
    obtain ⟨text, htext, read, hread, t, ht, hindex⟩ := h
    obtain ⟨hmem, hsame⟩ := table?_eq_some ht
    exact ⟨text, htext, read, hread, t, table?_of_mem hdb' (hsub hmem) hsame, hindex⟩
  | createTable | addColumn | addForeignKey => exact absurd h (by simp [createdIndex?])

theorem createdIndex?_of_perm (hdb : db.NamesDiffer) (hdb' : db'.NamesDiffer)
    (h : db.tables.Perm db'.tables) : db.createdIndex? = db'.createdIndex? := by
  funext s
  refine Option.ext fun i => ⟨?_, ?_⟩
  · exact createdIndex?_of_subset hdb' h.subset
  · exact createdIndex?_of_subset hdb h.symm.subset

/-! ## Indexes that are left out -/

/-- Two databases have the same tables, and the second lacks indexes that the first has. -/
structure Agrees (db d : Database) (lacking : List StoredIndex) : Prop where
  tables : db.tables = d.tables
  activity : db.activity = d.activity
  indexes : db.indexes.Perm (d.indexes ++ lacking)

namespace Agrees

variable {lacking : List StoredIndex}

theorem refl (db : Database) : db.Agrees db [] := ⟨rfl, rfl, by rw [List.append_nil]⟩

theorem addColumn {text : String} (h : db.Agrees d lacking) (hs : db.addColumn text = .ok db')
    (hs' : d.addColumn text = .ok d') : db'.Agrees d' lacking := by
  obtain ⟨s, t, whole, hread, ht, hwhole, rfl⟩ := addColumn_eq_widened hs
  obtain ⟨s', t', whole', hread', ht', hwhole', rfl⟩ := addColumn_eq_widened hs'
  obtain ⟨tables, indexes, activity⟩ := db
  obtain ⟨tables', indexes', activity'⟩ := d
  obtain ⟨htables, hactivity, hindexes⟩ := h
  dsimp only at htables hactivity
  subst htables hactivity
  -- what is read does not depend on the indexes
  obtain rfl := Except.ok.inj (hread.symm.trans hread')
  obtain rfl := Option.some.inj (ht.symm.trans ht')
  obtain rfl := Except.ok.inj (hwhole.symm.trans hwhole')
  exact ⟨rfl, rfl, hindexes⟩

theorem table? (h : db.Agrees d lacking) : db.table? = d.table? := by
  funext name
  rw [Database.table?, Database.table?, h.tables]

theorem executes (h : db.Agrees d lacking) (hs : db.Executes s db') (hs' : d.Executes s d') :
    db'.Agrees d' lacking := by
  cases s with
  | createTable table columns constraints =>
    obtain ⟨t, ht, -, -, rfl⟩ := hs.createdTable?
    obtain ⟨t', ht', -, -, rfl⟩ := hs'.createdTable?
    obtain rfl := Option.some.inj (ht.symm.trans ht')
    -- both make the same table, and keep the same further ones for themselves
    refine ⟨?_, h.activity, h.indexes⟩
    rw [tables_withTable_eq, tables_withTable_eq, ownTables, ownTables, h.table?, h.tables]
  | createIndex index table columns unique =>
    obtain ⟨i, hi, rfl⟩ := hs.createdIndex?
    obtain ⟨i', hi', rfl⟩ := hs'.createdIndex?
    rw [createdIndex?_congr h.table?] at hi
    obtain rfl := Option.some.inj (hi.symm.trans hi')
    refine ⟨h.tables, h.activity, ?_⟩
    -- the new index goes after those that are lacking, or before
    refine (h.indexes.append_right _).trans ?_
    rw [List.append_assoc, List.append_assoc]
    exact List.perm_append_comm.append_left _
  | addColumn | addForeignKey =>
    obtain ⟨text, hsent, hexecute⟩ := hs
    obtain ⟨text', hsent', hexecute'⟩ := hs'
    obtain rfl := Except.ok.inj (hsent.symm.trans hsent')
    exact h.addColumn hexecute hexecute'

theorem runs (h : db.Agrees d lacking) (hrun : db.Runs ss db') (hrun' : d.Runs ss d') :
    db'.Agrees d' lacking := by
  induction hrun generalizing d with
  | nil => exact runs_nil.1 hrun' ▸ h
  | cons hs _ ih =>
    obtain ⟨_, hs', hss'⟩ := runs_cons.1 hrun'
    exact ih (h.executes hs hs') hss'

/-- An index is created on the one database only. -/
theorem executes_index (h : db.Agrees d lacking) (hindex : s.IsIndex) (hs : db.Executes s db') :
    ∃ i, s.Makes i ∧ db'.Agrees d (lacking ++ [i]) := by
  cases s with
  | createIndex index table columns unique =>
    obtain ⟨i, -, rfl⟩ := hs.createdIndex?
    refine ⟨i, ⟨db, _, hs, rfl⟩, h.tables, h.activity, ?_⟩
    rw [← List.append_assoc]
    exact h.indexes.append_right _
  | createTable | addColumn | addForeignKey => exact absurd hindex id

/-- What statements make is lacking where they are left out. -/
theorem runs_filter (keep : Statement → Bool) (h : db.Agrees d lacking)
    (hleft : ∀ s ∈ ss, keep s = false → s.IsIndex) (hrun : db.Runs ss db')
    (hrun' : d.Runs (ss.filter keep) d') :
    ∃ more, db'.Agrees d' (lacking ++ more) ∧
      List.Forall₂ Statement.Makes (ss.filter fun s => !keep s) more := by
  induction hrun generalizing d lacking with
  | nil =>
    refine ⟨[], ?_, .nil⟩
    rw [List.append_nil]
    exact runs_nil.1 hrun' ▸ h
  | @cons _ _ _ s ss hs _ ih =>
    obtain ⟨hfirst, hrest⟩ := List.forall_mem_cons.1 hleft
    cases hkeep : keep s with
    | true =>
      -- the statement is executed on both databases
      rw [List.filter_cons_of_pos hkeep] at hrun'
      obtain ⟨_, hs', hss'⟩ := runs_cons.1 hrun'
      rw [List.filter_cons_of_neg (by simp [hkeep])]
      exact ih (h.executes hs hs') hrest hss'
    | false =>
      rw [List.filter_cons_of_neg (by simp [hkeep])] at hrun'
      obtain ⟨i, hi, hagrees⟩ := h.executes_index (hfirst hkeep) hs
      obtain ⟨more, hmore, hmakes⟩ := ih hagrees hrest hrun'
      rw [List.append_assoc] at hmore
      rw [List.filter_cons_of_pos (by simp [hkeep])]
      exact ⟨i :: more, hmore, .cons hi hmakes⟩

end Agrees

/-! ## Creations in another order -/

theorem table?_withTable (t : StoredTable) (hname : sameName t.name name = false) :
    (db.withTable t).table? name =
      (db.table? name).or ((db.ownTables [t]).find? fun u => sameName u.name name) := by
  rw [table?, tables_withTable_eq, List.find?_append, List.find?_append, ← table?]
  simp [hname]

/-- What a database keeps for itself from then on does not depend on which table comes first. -/
theorem ownTables_cons (ts : List StoredTable) (ht : isReserved t.name = false) :
    db.ownTables (t :: ts) = db.ownTables [t] ++ (db.withTable t).ownTables ts := by
  have hname : sameName t.name sequenceTable.name = false := by
    refine Bool.eq_false_iff.2 fun hsame => ?_
    rw [isReserved_congr (sameName_iff.1 hsame), isReserved_sequenceTable] at ht
    exact absurd ht (by simp)
  simp only [ownTables, table?_withTable t hname]
  cases db.table? sequenceTable.name with
  | some u => simp
  | none =>
    cases hcounts : t.rowKey.any (·.counting) with
    | false => simp [hcounts]
    | true => simp [hcounts, sameName]

/-- Statements that create tables put these after the others, in any order, and their indexes after
    the others. -/
theorem Runs.created (hdb : db.NamesDiffer) (hss : ∀ s ∈ ss, s.IsCreation) (h : db.Runs ss db') :
    db'.tables.Perm (db.tables ++ (db.ownTables (ss.filterMap Statement.createdTable?) ++
        ss.filterMap Statement.createdTable?)) ∧
      db'.indexes = db.indexes ++ ss.filterMap db'.createdIndex? := by
  induction h with
  | nil => simp [ownTables]
  | @cons db d db' s ss hs hrest ih =>
    obtain ⟨hfirst, hss⟩ := List.forall_mem_cons.1 hss
    have hd := hs.namesDiffer hdb
    obtain ⟨htables, hindexes⟩ := ih hd hss
    cases s with
    | createTable table columns constraints =>
      obtain ⟨t, ht, hreserved, -, rfl⟩ := hs.createdTable?
      rw [List.filterMap_cons_some ht, ownTables_cons _ hreserved]
      rw [List.filterMap_cons_none rfl]
      refine ⟨htables.trans ?_, hindexes⟩
      rw [tables_withTable_eq]
      simp only [List.append_assoc]
      refine ((List.perm_append_comm_assoc ..).append_left _).append_left _
    | createIndex index table columns unique =>
      obtain ⟨i, hi, rfl⟩ := hs.createdIndex?
      rw [List.filterMap_cons_none rfl]
      -- later statements create tables, which does not change what the index is over
      have hsub : db.tables ⊆ db'.tables := fun t ht =>
        htables.symm.subset (List.mem_append_left _ ht)
      rw [List.filterMap_cons_some (createdIndex?_of_subset (hrest.namesDiffer hd) hsub hi)]
      exact ⟨htables, hindexes.trans (List.append_assoc ..)⟩
    | addColumn | addForeignKey => exact absurd hfirst id

/-- Leaving out statements that create indexes leaves out these indexes, and creating tables in
    another order changes the order of tables and of indexes only. -/
theorem perm_of_runs {left more creations creations' : List Statement} {full other : Database}
    (hdb : db.NamesDiffer) (keep : Statement → Bool)
    (hleft : ∀ s ∈ left, keep s = false → s.IsIndex)
    (hcreations : ∀ s ∈ creations, s.IsCreation) (hperm : creations'.Perm creations)
    (hfull : db.Runs (left ++ (more ++ creations)) full)
    (hother : db.Runs (left.filter keep ++ (more ++ creations')) other) :
    other.tables.Perm full.tables ∧ ∃ lacking, full.indexes.Perm (other.indexes ++ lacking) ∧
      List.Forall₂ Statement.Makes (left.filter fun s => !keep s) lacking := by
  obtain ⟨d₁, hleft₁, hrest₁⟩ := runs_append.1 hfull
  obtain ⟨e₁, hmore₁, hcreate₁⟩ := runs_append.1 hrest₁
  obtain ⟨d₂, hleft₂, hrest₂⟩ := runs_append.1 hother
  obtain ⟨e₂, hmore₂, hcreate₂⟩ := runs_append.1 hrest₂
  obtain ⟨lacking, hagrees, hmakes⟩ := (Agrees.refl db).runs_filter keep hleft hleft₁ hleft₂
  rw [List.nil_append] at hagrees
  have hagrees := hagrees.runs hmore₁ hmore₂
  have he₁ : e₁.NamesDiffer := hmore₁.namesDiffer (hleft₁.namesDiffer hdb)
  have he₂ : e₂.NamesDiffer := hmore₂.namesDiffer (hleft₂.namesDiffer hdb)
  obtain ⟨htables₁, hindexes₁⟩ := hcreate₁.created he₁ hcreations
  obtain ⟨htables₂, hindexes₂⟩ := hcreate₂.created he₂ fun s hs => hcreations s (hperm.subset hs)
  -- both databases keep the same tables for themselves
  have hcreated := hperm.filterMap Statement.createdTable?
  have hown : ∀ ts ts' : List StoredTable, ts.Perm ts' → e₂.ownTables ts = e₁.ownTables ts' := by
    intro ts ts' hts
    rw [ownTables, ownTables, hagrees.table?, hts.any_eq]
  have htables : other.tables.Perm full.tables := by
    refine htables₂.trans (.trans ?_ htables₁.symm)
    rw [← hagrees.tables, hown _ _ hcreated]
    exact (hcreated.append_left _).append_left _
  refine ⟨htables, lacking, ?_, hmakes⟩
  have hsame := createdIndex?_of_perm (hcreate₂.namesDiffer he₂) (hcreate₁.namesDiffer he₁) htables
  rw [hindexes₁, hindexes₂, hsame]
  refine (hagrees.indexes.append (hperm.symm.filterMap _)).trans ?_
  rw [List.append_assoc, List.append_assoc]
  exact List.perm_append_comm.append_left _

end Database

end Accrete
