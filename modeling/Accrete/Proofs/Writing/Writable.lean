import Accrete.Plan
import Accrete.Proofs.Writing.Targets

/-!
# What can be written

Which tables and extensions become SQL, as far as columns, references and indexes are named by
texts.

* `Table.IsTyped`, `Extension.IsTyped`              -- everything is named by texts
* `Table.NamesUnknown`, `Extension.NamesUnknown`    -- an index or a constraint is over other columns
* `Table.IsWritable`, `Extension.IsWritable`        -- nothing keeps the operation from being written
* `Index.exists_written_iff`                        -- an index is, by its columns and its name
* `foreignKeyText_iff`                              -- and a foreign key, by its target and its action
* `Column.foreignKeyText_written_iff`               -- that of a column, by what it references
-/

namespace Accrete

/-! ## Typed tables -/

def areTexts (vs : List Value) : Prop := ∃ ss : List String, vs = ss.map .text

namespace Bag

/-- What the fields of a bag reference, in order. -/
def targets (b : Bag) : List (String × String) := b.filterMap fun e => e.2.references.target?

/-- Columns are named by texts, no two alike, and so is what they reference. -/
structure IsTyped (b : Bag) : Prop where
  names : ∃ ns : List String, ns.Nodup ∧ b.names = ns.map .text
  references : ∀ e ∈ b, e.2.references.IsTypedReference

end Bag

structure Table.IsTyped (t : Table) : Prop where
  fields : t.fields.IsTyped
  groups : ∀ g ∈ t.groups, areTexts g

structure Extension.IsTyped (x : Extension) : Prop where
  fields : x.fields.IsTyped
  groups : ∀ g ∈ x.groups, areTexts g

/-! ## Writable tables -/

/-- A delete action, if there is one, is spelled in one of SQL's phrases. -/
def Value.HasPhrase (v : Value) : Prop :=
  ∀ r, v = .reference r → ∀ o, r.onDelete = some o → o.isPhrase = true

/-- An index is over a column, and its name is not too long. -/
def Index.IsWritable (i : Index) (table : String) (d : Dialect) : Prop :=
  i.columns ≠ [] ∧ ∀ name, i.nameOn table = .ok name → name.length ≤ d.maxIndexName

namespace Table

/-- An index or a unique constraint names a column that the table does not have. -/
def NamesUnknown (t : Table) : Prop :=
  ∃ g ∈ t.groups, ∃ v ∈ g, v ∉ Value.text primaryKeyName :: t.fields.names

/-- A column of the table itself, or one by which another table is referenced. -/
def Knows (t : Table) (p : String × String) : Prop :=
  if t.name = p.1 then Value.text p.2 ∈ Value.text primaryKeyName :: t.fields.names
  else p ∈ t.fields.targets

structure IsWritable (t : Table) (d : Dialect) : Prop where
  named : Value.text "" ∉ t.fields.names
  targetsNamed : ∀ p ∈ t.fields.targets, p.2 ≠ ""
  targetsKnown : ∀ p ∈ t.fields.targets, t.Knows (writtenTarget p)
  actions : ∀ e ∈ t.fields, e.2.references.HasPhrase
  indexes : ∀ i ∈ t.indexes, i.IsWritable t.name d

end Table

namespace Extension

/-- An index names a column that is not added. -/
def NamesUnknown (x : Extension) : Prop := ∃ g ∈ x.groups, ∃ v ∈ g, v ∉ x.fields.names

/-- A column that is added, or one that is referenced. -/
def Knows (x : Extension) (p : String × String) : Prop :=
  x.table = p.1 ∧ Value.text p.2 ∈ x.fields.names ∨ p ∈ x.fields.targets

/-- In MySQL references become foreign keys, which have to find their targets, and in SQLite
    uniqueness becomes an index. -/
structure IsWritable (x : Extension) (d : Dialect) : Prop where
  named : Value.text "" ∉ x.fields.names
  targetsNamed : ∀ p ∈ x.fields.targets, p.2 ≠ ""
  targetsKnown : d = .mysql → ∀ p ∈ x.fields.targets, x.Knows (writtenTarget p)
  actions : d = .mysql → ∀ e ∈ x.fields, e.2.references.HasPhrase
  uniques : d = .sqlite → ∀ e ∈ x.fields, e.2.isUnique = true →
    (Index.uniqueOn [e.1]).IsWritable x.table d
  indexes : ∀ i ∈ x.indexes, i.IsWritable x.table d

end Extension

variable {d : Dialect}

/-! ## Statements -/

/-- A statement can be written. -/
def Statement.IsSent (s : Statement) (d : Dialect) : Prop := ∃ text, s.sent d = .ok text

theorem Operation.exists_sql_iff {op : Operation} :
    (∃ sql, op.sql d = .ok sql) ↔ ∃ ss, op.statements d = .ok ss ∧ ∀ s ∈ ss, s.IsSent d := by
  have hsql : ∀ s : Statement, (∃ text, s.sql d = .ok text) ↔ s.IsSent d := by
    intro s
    simp [Statement.sql, Statement.IsSent, Except.map_eq_ok]
  simp only [sql, sqlTexts, Except.map_eq_ok, Except.bind_eq_ok, ← hsql, ← Except.exists_mapM_iff]
  constructor
  · rintro ⟨_, texts, ⟨ss, hss, htexts⟩, -⟩
    exact ⟨ss, hss, texts, htexts⟩
  · rintro ⟨ss, hss, texts, htexts⟩
    exact ⟨_, texts, ⟨ss, hss, htexts⟩, rfl⟩

theorem Statement.isSent_createIndex {name table : String} {columns : List String} {unique : Bool} :
    (Statement.createIndex name table columns unique).IsSent d ↔
      columns ≠ [] ∧ name.length ≤ d.maxIndexName := by
  rw [IsSent, sent]
  by_cases hempty : columns = []
  · simp [hempty]
  rw [if_neg (by simpa using hempty)]
  by_cases hlong : d.maxIndexName < name.length
  · simp [hlong, Nat.not_le.2 hlong]
  · simp [hempty, hlong, Nat.not_lt.1 hlong]

theorem foreignKeyText_iff {k : ForeignKey} :
    (∃ text, Statement.foreignKeyText d k = .ok text) ↔
      (∃ t c, k.target = .found t c) ∧ ∀ o, k.onDelete = some o → o.isPhrase = true := by
  obtain ⟨column, target, onDelete⟩ := k
  cases target with
  | missing cause => simp [Statement.foreignKeyText]
  | found t c =>
    cases onDelete with
    | none => simp [Statement.foreignKeyText, Statement.actionText, bind, Except.bind, pure,
        Except.pure]
    | some o =>
      by_cases h : o.isPhrase = true <;>
        simp [Statement.foreignKeyText, Statement.actionText, h, bind, Except.bind, pure,
          Except.pure]

/-- The foreign key of a column can be written if what it references is known and it has a phrase.
    A column that references nothing has none to write. -/
theorem Column.foreignKeyText_written_iff {known : KnownTables} {col : Column}
    (typed : col.references.IsTypedReference) (table name : String) :
    (∀ r ∈ col.reference?.toList, ∃ text,
        Statement.foreignKeyText d ⟨name, known.resolve table name r, r.onDelete⟩ = .ok text) ↔
      (∀ p, col.references.target? = some p →
        known.Has (writtenTarget p).1 (writtenTarget p).2) ∧ col.references.HasPhrase := by
  rcases typed with hnull | hsome
  · simp [reference?, hnull, Value.target?, Value.HasPhrase]
  · obtain ⟨p, hp⟩ := Option.isSome_iff_exists.1 hsome
    obtain ⟨action, href⟩ := Value.target?_eq_some.1 hp
    simp only [reference?, href, Option.toList_some, List.forall_mem_singleton, foreignKeyText_iff,
      KnownTables.resolve_found_iff (href ▸ hp)]
    simp [Value.target?, Value.HasPhrase]

/-! ## Indexes -/

theorem Index.exists_nameOn {i : Index} (typed : areTexts i.columns) (table : String) :
    ∃ name, i.nameOn table = .ok name := by
  obtain ⟨ss, hss⟩ := typed
  rw [nameOn, hss]
  cases i.name.filter (!·.isEmpty) with
  | some name => exact ⟨name, rfl⟩
  | none => exact ⟨_, by simp only [Value.join_map_text]; rfl⟩

/-- The statement of an index over columns that are known. -/
theorem Index.statement_of_known {i : Index} {ss known : List String} {table name : String}
    (hss : i.columns = ss.map .text) (hknown : ∀ s ∈ ss, s ∈ known)
    (hname : i.nameOn table = .ok name) :
    i.statement table known = .ok (.createIndex name table ss i.unique) := by
  have hcolumns : i.columns.mapM (columnOf known) = .ok ss := by
    rw [hss, Except.mapM_eq_ok, List.forall₂_map_left_iff]
    exact List.forall₂_same.2 fun s hs => columnOf_text (hknown s hs)
  rw [statement, statementName, hname, hcolumns]
  rfl

theorem Index.exists_written_iff {i : Index} (typed : areTexts i.columns) {known : List String}
    (hknown : ∀ v ∈ i.columns, v ∈ known.map Value.text) (table : String) :
    (∃ s, i.statement table known = .ok s ∧ s.IsSent d) ↔ i.IsWritable table d := by
  obtain ⟨name, hname⟩ := i.exists_nameOn typed table
  obtain ⟨ss, hss⟩ := typed
  have hmem : ∀ s ∈ ss, s ∈ known := fun s hs =>
    Value.text_mem_map.1 (hknown _ (hss ▸ List.mem_map_of_mem hs))
  rw [statement_of_known hss hmem hname]
  simp only [Except.ok.injEq, exists_eq_left', Statement.isSent_createIndex, IsWritable, hname, hss]
  simp

end Accrete
