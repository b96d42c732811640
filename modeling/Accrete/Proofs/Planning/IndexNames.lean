import Accrete.Proofs.Keys
import Accrete.Proofs.Planning.Completion
import Accrete.Proofs.Statements
import Mathlib

/-!
# Names of indexes

An index goes by a name of its own, or by one that is made of its table and its columns.  The names
of all indexes that a plan creates are read back to what they are made of, and compared.

* `Index.label`                  -- what names an index
* `IndexLabel.eq_of_text_eq`     -- plain labels can be told apart by their texts
* `Plan.indexNames`              -- the names of the indexes that a plan creates
* `SchemaEntry.labels`           -- what names the indexes that it creates for one table
* `Table.DeclaresOnce`, `Table.IsUniqueOnce` -- nothing is declared, or made unique, twice
* `Plan.nodup_indexNames_iff`    -- when the names differ

Names are joined by a character that may occur in each of them, so that different tables and columns
may be joined to the same name.
-/

namespace Accrete

/-! ## Texts of columns -/

namespace Value

theorem texts_eq_ok {item : Nat} {vs : List Value} {ss : List String}
    (h : texts item vs = .ok ss) : ss = vs.filterMap text? ∧ ∀ v ∈ vs, v.text?.isSome := by
  induction vs generalizing item ss with
  | nil =>
    obtain rfl := Except.ok.inj h
    exact ⟨rfl, fun v hv => absurd hv List.not_mem_nil⟩
  | cons v vs ih =>
    rw [texts] at h
    cases hv : v.text? with
    | none => simp [hv] at h
    | some s =>
      simp only [hv] at h
      obtain ⟨rest, hrest, h⟩ := Except.bind_eq_ok.1 h
      obtain rfl := Except.ok.inj h
      obtain ⟨rfl, hall⟩ := ih hrest
      exact ⟨by rw [List.filterMap_cons_some hv], by simpa [hv] using hall⟩

theorem sameKeys_comm : ∀ vs ws : List Value, sameKeys vs ws = sameKeys ws vs
  | [], [] | [], _ :: _ | _ :: _, [] => rfl
  | v :: vs, w :: ws => by rw [sameKeys, sameKeys, sameKey_comm, sameKeys_comm vs]

theorem sameKeys_iff {vs ws : List Value} (hv : ∀ v ∈ vs, v.text?.isSome)
    (hw : ∀ w ∈ ws, w.text?.isSome) :
    sameKeys vs ws = true ↔ vs.filterMap text? = ws.filterMap text? := by
  induction vs generalizing ws with
  | nil =>
    cases ws with
    | nil => simp [sameKeys]
    | cons w ws =>
      obtain ⟨s, hs⟩ := Option.isSome_iff_exists.1 (hw w List.mem_cons_self)
      simp [sameKeys, List.filterMap_cons_some hs]
  | cons v vs ih =>
    obtain ⟨s, hs⟩ := Option.isSome_iff_exists.1 (hv v List.mem_cons_self)
    cases ws with
    | nil => simp [sameKeys, List.filterMap_cons_some hs]
    | cons w ws =>
      obtain ⟨s', hs'⟩ := Option.isSome_iff_exists.1 (hw w List.mem_cons_self)
      have ih := @ih ws (fun v h => hv v (List.mem_cons_of_mem _ h))
        fun w h => hw w (List.mem_cons_of_mem _ h)
      simp [sameKeys, List.filterMap_cons_some hs, List.filterMap_cons_some hs',
        sameKey_of_text? hs hs', ih]

end Value

/-! ## Labels -/

/-- What names an index: a name of its own, or the table and the columns that its name is made
    of. -/
inductive IndexLabel where
  | stated (name : String)
  | made (unique : Bool) (table : String) (columns : List String)
deriving DecidableEq

def IndexLabel.text : IndexLabel → String
  | stated name => name
  | made unique table columns =>
    (if unique then "uq" else "ix") ++ "_" ++ table ++ "_" ++ "_".intercalate columns

namespace Index

def ownName? (i : Index) : Option String := i.name.filter (!·.isEmpty)

def label (i : Index) (table : String) : IndexLabel :=
  match i.ownName? with
  | some name => .stated name
  | none => .made i.unique table (i.columns.filterMap Value.text?)

/-- An index has a name: its columns have texts, unless it has one of its own. -/
def HasName (i : Index) : Prop := i.ownName? = none → ∀ v ∈ i.columns, v.text?.isSome

variable {i j : Index} {table name : String}

theorem nameOn_eq_ok (h : i.nameOn table = .ok name) :
    i.HasName ∧ name = (i.label table).text := by
  change (match i.ownName? with
    | some name => .ok name
    | none => do return (if i.unique then "uq" else "ix") ++ "_" ++ table ++ "_" ++
        (← Value.join "_" i.columns)) = Except.ok name at h
  rw [HasName, label]
  cases hown : i.ownName? with
  | some own =>
    simp only [hown] at h
    exact ⟨nofun, (Except.ok.inj h).symm⟩
  | none =>
    simp only [hown] at h
    obtain ⟨joined, hjoined, h⟩ := Except.bind_eq_ok.1 h
    obtain ⟨ss, hss, hjoined⟩ := Except.bind_eq_ok.1 hjoined
    obtain ⟨rfl, hall⟩ := Value.texts_eq_ok hss
    obtain rfl := Except.ok.inj hjoined
    exact ⟨fun _ => hall, (Except.ok.inj h).symm⟩

def IsSame (i j : Index) : Prop :=
  i.ownName? = j.ownName? ∧ i.unique = j.unique ∧ Value.sameKeys i.columns j.columns = true

/-- Two indexes of one table go by the same name: one of their own, or one that is made of the same
    columns. -/
def SharesName (i j : Index) : Prop :=
  i.ownName? = j.ownName? ∧ (i.ownName? = none → i.IsSame j)

theorem label_cases (i : Index) (table : String) :
    (∃ own, i.ownName? = some own ∧ i.label table = .stated own) ∨
      i.ownName? = none ∧
        i.label table = .made i.unique table (i.columns.filterMap Value.text?) := by
  rw [label]
  cases i.ownName? <;> simp

theorem SharesName.symm (h : i.SharesName j) : j.SharesName i := by
  refine ⟨h.1.symm, fun hown => ?_⟩
  obtain ⟨hname, hunique, hsame⟩ := h.2 (h.1.trans hown)
  exact ⟨hname.symm, hunique.symm, Value.sameKeys_comm _ _ ▸ hsame⟩

theorem label_eq_iff (hi : i.HasName) (hj : j.HasName) :
    i.label table = j.label table ↔ i.SharesName j := by
  rw [label, label, SharesName, IsSame]
  cases hown : i.ownName? with
  | some own => cases hown' : j.ownName? <;> simp
  | none =>
    cases hown' : j.ownName? with
    | some own => simp
    | none => simp [Value.sameKeys_iff (hi hown) (hj hown')]

theorem nodup_labels_iff {is : List Index} (named : ∀ i ∈ is, i.HasName) :
    (is.map (·.label table)).Nodup ↔ is.Pairwise fun i j => ¬ i.SharesName j := by
  rw [List.Nodup, List.pairwise_map]
  apply List.Pairwise.iff_of_mem
  intro i j hi hj
  rw [Ne, label_eq_iff (named i hi) (named j hj)]

end Index

/-! ### Plain labels -/

/-- Texts that are joined by a character which none of them contains can be told from the result. -/
theorem eq_of_intercalate_eq {ch : Char} {ss ss' : List String} (hne : ss ≠ []) (hne' : ss' ≠ [])
    (hfree : ∀ s ∈ ss, ch ∉ s.toList) (hfree' : ∀ s ∈ ss', ch ∉ s.toList)
    (h : (String.singleton ch).intercalate ss = (String.singleton ch).intercalate ss') :
    ss = ss' := by
  have hsplit : ∀ {ss : List String}, ss ≠ [] → (∀ s ∈ ss, ch ∉ s.toList) →
      List.splitOn ch ((String.singleton ch).intercalate ss).toList = ss.map String.toList := by
    intro ss hne hfree
    rw [String.toList_intercalate, String.toList_singleton]
    exact List.splitOn_intercalate ch (by simpa using hfree) (by simpa using hne)
  have hlists : ss.map String.toList = ss'.map String.toList := by
    rw [← hsplit hne hfree, h, hsplit hne' hfree']
  exact List.map_injective_iff.2 (fun _ _ => String.toList_injective) hlists

namespace IndexLabel

/-- No part of a label contains the character that joins them or is blank, and a name that is
    stated does not begin like one that is made. -/
def IsPlain : IndexLabel → Prop
  | stated name => ∀ kind ∈ ["ix_", "uq_"], ¬ kind.toList <+: name.toList
  | made _ table columns => '_' ∉ table.toList ∧ ∀ c ∈ columns, c ≠ "" ∧ '_' ∉ c.toList

/-- What the text of a label that is made joins. -/
def parts (unique : Bool) (table : String) (columns : List String) : List String :=
  (if unique then "uq" else "ix") :: table :: if columns = [] then [""] else columns

theorem text_made (unique : Bool) (table : String) (columns : List String) :
    (made unique table columns).text = "_".intercalate (parts unique table columns) := by
  have hjoin : "_".intercalate (if columns = [] then [""] else columns) =
      "_".intercalate columns := by
    split
    next hnil => rw [hnil, String.intercalate_singleton, String.intercalate_nil]
    · rfl
  have htail : (if columns = [] then [""] else columns) ≠ [] := by split <;> simp_all
  rw [parts, String.intercalate_cons_cons, String.intercalate_cons_of_ne_nil htail, hjoin, text]
  simp only [String.append_assoc]

theorem begins_text_made (unique : Bool) (table : String) (columns : List String) :
    ∃ kind ∈ ["ix_", "uq_"], kind.toList <+: (made unique table columns).text.toList := by
  refine ⟨(if unique then "uq" else "ix") ++ "_", by cases unique <;> decide, ?_⟩
  have htext : (made unique table columns).text =
      ((if unique then "uq" else "ix") ++ "_") ++ (table ++ "_" ++ "_".intercalate columns) := by
    simp only [text, String.append_assoc]
  rw [htext, String.toList_append (s := (if unique then "uq" else "ix") ++ "_")]
  exact List.prefix_append ..

theorem notMem_parts {unique : Bool} {table : String} {columns : List String}
    (h : (made unique table columns).IsPlain) :
    ∀ s ∈ parts unique table columns, '_' ∉ s.toList := by
  obtain ⟨htable, hcolumns⟩ := h
  intro s hs
  rcases List.mem_cons.1 hs with rfl | hs
  · cases unique <;> decide
  rcases List.mem_cons.1 hs with rfl | hs
  · exact htable
  split at hs
  · simp_all
  · exact (hcolumns s hs).2

theorem eq_of_text_made_eq {unique unique' : Bool} {table table' : String}
    {columns columns' : List String} (h : (made unique table columns).IsPlain)
    (h' : (made unique' table' columns').IsPlain)
    (heq : (made unique table columns).text = (made unique' table' columns').text) :
    made unique table columns = made unique' table' columns' := by
  rw [text_made, text_made] at heq
  have hparts := eq_of_intercalate_eq (List.cons_ne_nil _ _) (List.cons_ne_nil _ _)
    (notMem_parts h) (notMem_parts h') heq
  obtain ⟨hkind, htail⟩ := List.cons.inj hparts
  obtain ⟨rfl, htail⟩ := List.cons.inj htail
  have hunique : unique = unique' := by
    cases unique <;> cases unique' <;> first | rfl | exact absurd hkind (by decide)
  -- an empty name stands for no columns, and is not the name of one
  have hcolumns : columns = columns' := by
    cases columns <;> cases columns' <;> simp_all [IsPlain]
  rw [hunique, hcolumns]

/-- Plain labels can be told apart by their texts. -/
theorem eq_of_text_eq {a b : IndexLabel} (ha : a.IsPlain) (hb : b.IsPlain)
    (h : a.text = b.text) : a = b := by
  -- no name that is stated is one that is made
  have hstated : ∀ {name unique table columns}, IsPlain (stated name) →
      name ≠ (made unique table columns).text := by
    rintro name unique table columns hplain rfl
    obtain ⟨kind, hkind, hbegins⟩ := begins_text_made unique table columns
    exact hplain kind hkind hbegins
  cases a with
  | stated name =>
    cases b with
    | stated name' => exact congrArg _ h
    | made unique table columns => exact absurd h (hstated ha)
  | made unique table columns =>
    cases b with
    | stated name => exact absurd h.symm (hstated hb)
    | made unique' table' columns' => exact eq_of_text_made_eq ha hb h

end IndexLabel

/-! ## Statements -/

def Statement.indexName? : Statement → Option String
  | .createIndex name .. => some name
  | _ => none

/-- The names of all indexes that the statements of a plan create, in order. -/
def Plan.indexNames (p : Plan) : Except StatementError (List String) := do
  let statements ← p.operations.mapM (·.statements p.dialect)
  return statements.flatten.filterMap Statement.indexName?

/-- The indexes of an operation in SQLite. -/
def Operation.indexes : Operation → List Index
  | .create c => c.indexes
  | .add a => a.allIndexes

def Operation.labels (op : Operation) : List IndexLabel := op.indexes.map (·.label op.table)

theorem Index.indexName?_statement {i : Index} {table : String} {known : List String}
    {s : Statement} (h : i.statement table known = .ok s) :
    i.HasName ∧ s.indexName? = some (i.label table).text := by
  obtain ⟨name, columns, hname, rfl, -⟩ := statement_eq_ok h
  obtain ⟨hhas, rfl⟩ := nameOn_eq_ok (Except.mapError_eq_ok.1 hname)
  exact ⟨hhas, rfl⟩

theorem Index.indexNames_statements {is : List Index} {table : String} {known : List String}
    {ss : List Statement} (h : is.mapM (·.statement table known) = .ok ss) :
    (∀ i ∈ is, i.HasName) ∧
      ss.filterMap Statement.indexName? = (is.map (·.label table)).map IndexLabel.text := by
  rw [Except.mapM_eq_ok] at h
  induction h with
  | nil => simp
  | cons hi _ ih =>
    obtain ⟨hhas, hname⟩ := indexName?_statement hi
    exact ⟨List.forall_mem_cons.2 ⟨hhas, ih.1⟩,
      by rw [List.filterMap_cons_some hname, ih.2, List.map_cons, List.map_cons]⟩

/-- The statements of an operation create its indexes, each under its name. -/
theorem Operation.indexNames_statements {op : Operation} {ss : List Statement}
    (h : op.statements .sqlite = .ok ss) :
    (∀ i ∈ op.indexes, i.HasName) ∧
      ss.filterMap Statement.indexName? = op.labels.map IndexLabel.text := by
  cases op with
  | create c =>
    obtain ⟨_, -, h⟩ := Except.bind_eq_ok.1 h
    obtain ⟨names, -, h⟩ := Except.bind_eq_ok.1 h
    obtain ⟨⟨⟩, -, h⟩ := Except.bind_eq_ok.1 h
    obtain ⟨⟨⟩, -, h⟩ := Except.bind_eq_ok.1 h
    obtain ⟨_, -, h⟩ := Except.bind_eq_ok.1 h
    obtain ⟨indexes, hindexes, h⟩ := Except.bind_eq_ok.1 h
    obtain rfl := Except.ok.inj h
    obtain ⟨hhas, hnames⟩ := Index.indexNames_statements hindexes
    exact ⟨hhas, (List.filterMap_cons_none rfl).trans hnames⟩
  | add a =>
    obtain ⟨_, _, _, adds, indexes, -, -, -, -, hadds, -, hindexes, rfl⟩ :=
      ColumnAddition.statements_inv h
    obtain ⟨hhas, hnames⟩ := Index.indexNames_statements hindexes
    -- what adds a column creates no index
    have hnone : adds.filterMap Statement.indexName? = [] := by
      refine List.filterMap_eq_nil_iff.2 fun s hs => ?_
      obtain ⟨c, hc, -⟩ := exists_mem_zip_of_forall₂ hadds.flip hs
      obtain ⟨spec, rfl, -⟩ := hc
      rfl
    rw [List.filterMap_append, hnone]
    exact ⟨hhas, hnames⟩

theorem Plan.indexNames_eq_ok {p : Plan} {names : List String} (hdialect : p.dialect = .sqlite)
    (h : p.indexNames = .ok names) :
    (∀ op ∈ p.operations, ∀ i ∈ op.indexes, i.HasName) ∧
      names = (p.operations.flatMap Operation.labels).map IndexLabel.text := by
  obtain ⟨sss, hsss, hnames⟩ := Except.bind_eq_ok.1 h
  obtain rfl := Except.ok.inj hnames
  rw [hdialect, Except.mapM_eq_ok] at hsss
  clear h hnames
  generalize p.operations = operations at hsss ⊢
  induction hsss with
  | nil => simp
  | cons hop _ ih =>
    obtain ⟨hhas, hnames⟩ := Operation.indexNames_statements hop
    refine ⟨List.forall_mem_cons.2 ⟨hhas, ih.1⟩, ?_⟩
    rw [List.flatten_cons, List.filterMap_append, hnames, ih.2, List.flatMap_cons, List.map_append]

/-! ## Indexes of one table -/

/-- The indexes of an extension, and those that stand for the uniqueness of its columns. -/
def Extension.allIndexes (x : Extension) : List Index :=
  ((x.fields.filter fun e => e.2.isUnique).map fun e => .uniqueOn [e.1]) ++ x.indexes

def Extension.labels (x : Extension) : List IndexLabel := x.allIndexes.map (·.label x.table)

def Table.labels (t : Table) : List IndexLabel := t.indexes.map (·.label t.name)

theorem Extension.allIndexes_addition (x : Extension) (d : Dialect) :
    (x.addition d).allIndexes = x.allIndexes := by
  rw [ColumnAddition.allIndexes, allIndexes, addition]
  dsimp only
  rw [List.filter_map, List.map_map]
  rfl

namespace Table

variable {t : Table}

/-- The columns of the unique indexes that a table declares without a name. -/
def namelessUniques (t : Table) : List Columns :=
  (t.indexes.filter fun i => i.unique && i.ownName?.isNone).map (·.columns)

/-- No columns are made unique twice, by themselves, by a constraint or by an index without a name
    of its own. -/
structure IsUniqueOnce (t : Table) (missing : Bag) : Prop where
  columns : ∀ e ∈ missing, e.2.isUnique = true →
    ∀ g ∈ t.uniqueConstraints ++ t.namelessUniques, Value.sameKeys [e.1] g = false
  groups : ∀ g ∈ t.namelessUniques, isWithin missing.names g = true →
    ∀ g' ∈ t.uniqueConstraints, Value.sameKeys g g' = false

/-- No index and no unique constraint of a table is declared twice. -/
structure DeclaresOnce (t : Table) : Prop where
  indexes : t.indexes.Pairwise fun i j => ¬ i.IsSame j
  uniqueConstraints : t.uniqueConstraints.Pairwise fun g g' => Value.sameKeys g g' = false

theorem pairwise_names (canonical : t.fields.IsCanonical) :
    t.fields.Pairwise fun e e' => e.1.sameKey e'.1 = false := by
  refine (List.pairwise_map.1 canonical.2).imp fun hne => ?_
  exact Bool.eq_false_iff.2 fun hsame => hne (Value.text?_eq_of_sameKey hsame)

theorem isWithin_of_sameKeys {columns : Columns} : ∀ {vs ws : List Value},
    Value.sameKeys vs ws = true → isWithin columns vs = true → isWithin columns ws = true
  | [], [], _, _ => rfl
  | v :: vs, w :: ws, hsame, hwithin => by
    rw [Value.sameKeys, Bool.and_eq_true] at hsame
    simp only [isWithin, List.all_cons, Bool.and_eq_true] at hwithin ⊢
    have hw : w.isIn columns = true := by
      obtain ⟨c, hc, hvc⟩ := List.any_eq_true.1 hwithin.1
      exact List.any_eq_true.2 ⟨c, hc, Value.sameKey_congr hsame.1 c ▸ hvc⟩
    exact ⟨hw, isWithin_of_sameKeys hsame.2 hwithin.2⟩

theorem mem_namelessUniques {g : Columns} :
    g ∈ t.namelessUniques ↔
      ∃ i ∈ t.indexes, i.unique = true ∧ i.ownName? = none ∧ i.columns = g := by
  simp [namelessUniques, and_assoc]

variable {missing : Bag}

/-- What an extension makes unique without a name of its own. -/
theorem exists_shares_uniqueOn_iff {g : Columns} :
    (∃ i ∈ t.allIndexes.filter fun i => isWithin missing.names i.columns,
        Index.SharesName (.uniqueOn g) i) ↔
      ∃ g' ∈ t.namelessUniques, isWithin missing.names g' = true ∧ Value.sameKeys g g' = true := by
  constructor
  · rintro ⟨i, hi, hshares⟩
    obtain ⟨hi, hwithin⟩ := List.mem_filter.1 hi
    obtain ⟨hown, hunique, hsame⟩ := hshares.2 rfl
    rcases List.mem_append.1 hi with hi | hi
    · exact ⟨_, mem_namelessUniques.2 ⟨i, hi, hunique.symm, hown.symm, rfl⟩, hwithin, hsame⟩
    · -- the index of a column that asks for one is not unique
      obtain ⟨e, -, rfl⟩ := List.mem_map.1 hi
      exact absurd hunique (by simp [Index.uniqueOn, Index.onColumn])
  · rintro ⟨g', hg', hwithin, hsame⟩
    obtain ⟨i, hi, hunique, hown, rfl⟩ := mem_namelessUniques.1 hg'
    have hi' : i ∈ t.allIndexes := List.mem_append_left _ hi
    exact ⟨i, List.mem_filter.2 ⟨hi', hwithin⟩, hown.symm,
      fun _ => ⟨hown.symm, hunique.symm, hsame⟩⟩

theorem exists_shares_constraint_iff {g : Columns} :
    (∃ i ∈ (t.uniqueConstraints.filter (isWithin missing.names)).map Index.uniqueOn,
        Index.SharesName (.uniqueOn g) i) ↔
      ∃ g' ∈ t.uniqueConstraints, isWithin missing.names g' = true ∧
        Value.sameKeys g g' = true := by
  simp only [List.mem_map, List.mem_filter]
  constructor
  · rintro ⟨_, ⟨g', ⟨hg', hwithin⟩, rfl⟩, hshares⟩
    exact ⟨g', hg', hwithin, (hshares.2 rfl).2.2⟩
  · rintro ⟨g', hg', hwithin, hsame⟩
    exact ⟨_, ⟨g', ⟨hg', hwithin⟩, rfl⟩, rfl, fun _ => ⟨rfl, rfl, hsame⟩⟩

/-- What makes columns within a set unique is within it. -/
theorem exists_shares_indexesWithin_iff {g : Columns} (hg : isWithin missing.names g = true) :
    (∃ i ∈ t.indexesWithin missing.names, Index.SharesName (.uniqueOn g) i) ↔
      ∃ g' ∈ t.uniqueConstraints ++ t.namelessUniques, Value.sameKeys g g' = true := by
  simp only [indexesWithin, List.mem_append, or_and_right, exists_or,
    exists_shares_uniqueOn_iff, exists_shares_constraint_iff]
  have hwithin : ∀ g', isWithin missing.names g' = true ∧ Value.sameKeys g g' = true ↔
      Value.sameKeys g g' = true :=
    fun g' => and_iff_right_of_imp fun hsame => isWithin_of_sameKeys hsame hg
  simp only [hwithin]
  exact or_comm

section Once

variable (canonical : t.fields.IsCanonical) (once : t.DeclaresOnce)
  (ownNames : (t.indexes.filterMap Index.ownName?).Nodup)
include canonical once ownNames

/-- Neither what is declared nor what columns ask for shares a name. -/
theorem pairwise_allIndexes : t.allIndexes.Pairwise fun i j => ¬ i.SharesName j := by
  rw [allIndexes, List.pairwise_append]
  refine ⟨?_, ?_, fun i hi j hj hshares => ?_⟩
  · have hown := List.pairwise_filterMap.1 ownNames
    refine (hown.and once.indexes).imp fun {i j} ⟨hown, hsame⟩ hshares => ?_
    cases hi : i.ownName? with
    | none => exact hsame (hshares.2 hi)
    | some own => exact hown own hi own (hshares.1 ▸ hi) rfl
  · refine List.pairwise_map.2 (((pairwise_names canonical).filter _).imp fun hne hshares => ?_)
    obtain ⟨-, -, hsame⟩ := hshares.2 rfl
    simp [Index.onColumn, Value.sameKeys, hne] at hsame
  · -- no column asks for an index that is declared
    obtain ⟨e, he, rfl⟩ := List.mem_map.1 hj
    obtain ⟨-, hwants⟩ := List.mem_filter.1 he
    obtain ⟨-, -, hsame⟩ := hshares.2 hshares.1
    simp only [wantsIndex, Bool.and_eq_true, Bool.not_eq_true', List.any_eq_false] at hwants
    exact hwants.2 i hi hsame

/-- The indexes that make up for what a table lacks share no name just if no columns are made unique
    twice. -/
theorem pairwise_allIndexes_extensionBy (hmissing : missing.Sublist t.fields) :
    (t.extensionBy missing).allIndexes.Pairwise (fun i j => ¬ i.SharesName j) ↔
      t.IsUniqueOnce missing := by
  have hcolumns : ((missing.filter fun e => e.2.isUnique).map fun e =>
      Index.uniqueOn [e.1]).Pairwise fun i j => ¬ i.SharesName j := by
    have hnames := ((pairwise_names canonical).sublist hmissing).filter fun e => e.2.isUnique
    refine List.pairwise_map.2 (hnames.imp fun hne hshares => ?_)
    simpa [Value.sameKeys, Index.uniqueOn, hne] using (hshares.2 rfl).2.2
  have hconstraints : ((t.uniqueConstraints.filter (isWithin missing.names)).map
      Index.uniqueOn).Pairwise fun i j => ¬ i.SharesName j := by
    refine List.pairwise_map.2 ((once.uniqueConstraints.filter _).imp fun hne hshares => ?_)
    exact Bool.eq_false_iff.1 hne (hshares.2 rfl).2.2
  have hindexes := (pairwise_allIndexes canonical once ownNames).filter
    fun i => isWithin missing.names i.columns
  have hwithin : ∀ e ∈ missing, isWithin missing.names [e.1] = true := by
    intro e he
    obtain ⟨s, hs⟩ := Option.isSome_iff_exists.1 (canonical.1 e (hmissing.subset he))
    simpa [isWithin, Bag.names] using Value.isIn_of_mem hs hs (List.mem_map_of_mem he)
  -- no two indexes of one kind share a name, so that it is shared by two of different kinds
  rw [Extension.allIndexes, extensionBy, indexesWithin, List.pairwise_append, List.pairwise_append]
  constructor
  · rintro ⟨-, ⟨-, -, hgroups⟩, hcross⟩
    refine ⟨fun e he hunique g hg => ?_, fun g hg hin g' hg' => ?_⟩
    · by_contra hsame
      obtain ⟨i, hi, hshares⟩ := (exists_shares_indexesWithin_iff (hwithin e he)).2
        ⟨g, hg, by simpa using hsame⟩
      exact hcross _ (List.mem_map.2 ⟨e, List.mem_filter.2 ⟨he, hunique⟩, rfl⟩) i hi hshares
    · by_contra hsame
      rw [Bool.not_eq_false] at hsame
      have hin' := isWithin_of_sameKeys hsame hin
      rw [Value.sameKeys_comm] at hsame
      obtain ⟨i, hi, hshares⟩ := exists_shares_uniqueOn_iff.2 ⟨g, hg, hin, hsame⟩
      refine hgroups i hi (.uniqueOn g') ?_ hshares.symm
      exact List.mem_map_of_mem (List.mem_filter.2 ⟨hg', hin'⟩)
  · intro h
    refine ⟨hcolumns, ⟨hindexes, hconstraints, fun i hi j hj hshares => ?_⟩,
      fun i hi j hj hshares => ?_⟩
    · obtain ⟨g', hg', rfl⟩ := List.mem_map.1 hj
      obtain ⟨g, hg, hin, hsame⟩ := exists_shares_uniqueOn_iff.1 ⟨i, hi, hshares.symm⟩
      rw [Value.sameKeys_comm, h.groups g hg hin g' (List.mem_of_mem_filter hg')] at hsame
      exact Bool.noConfusion hsame
    · obtain ⟨e, he, rfl⟩ := List.mem_map.1 hi
      obtain ⟨he, hunique⟩ := List.mem_filter.1 he
      obtain ⟨g, hg, hsame⟩ :=
        (exists_shares_indexesWithin_iff (hwithin e he)).1 ⟨j, hj, hshares⟩
      rw [h.columns e he hunique g hg] at hsame
      exact Bool.noConfusion hsame

end Once

end Table

/-! ## Indexes of plans -/

namespace SchemaEntry

def ownNames : SchemaEntry → List String
  | .malformed _ => []
  | .table t => t.indexes.filterMap Index.ownName?

/-- What names the indexes that make up for what a live database lacks of an entry. -/
def labels (live : List LiveTable) (e : SchemaEntry) : List IndexLabel :=
  ((e.lack live).extension?.toList.flatMap Extension.labels) ++
    (e.lack live).creation?.toList.flatMap Table.labels

variable {live : List LiveTable} {entries : List SchemaEntry} {t : Table} {l : LiveTable}

theorem labels_of_creation (hl : liveTable? live t.name = none) :
    labels live (.table t) = t.allIndexes.map (·.label t.name) := by
  simp [labels, lack, hl, Table.complete, Table.labels]

theorem labels_of_extension (hl : liveTable? live t.name = some l) (h : t.missingFields l ≠ []) :
    labels live (.table t) =
      (t.extensionBy (t.missingFields l)).allIndexes.map (·.label t.name) := by
  have hx := Table.extension?_eq_some.2 ⟨h, rfl⟩
  simp [labels, lack, hl, hx, Extension.labels, Table.extensionBy]

theorem labels_of_complete (hl : liveTable? live t.name = some l) (h : t.missingFields l = []) :
    labels live (.table t) = [] := by
  simp [labels, lack, hl, Table.extension?, h]

/-- An index that is created for a table is declared, or has no name of its own. -/
theorem exists_index_of_mem_labels {label : IndexLabel} (h : label ∈ labels live (.table t)) :
    ∃ i : Index, (i ∈ t.indexes ∨ i.ownName? = none) ∧ i.label t.name = label := by
  -- an index that a column asks for has no name of its own
  have hall : ∀ i ∈ t.allIndexes, i ∈ t.indexes ∨ i.ownName? = none := by
    intro i hi
    refine (List.mem_append.1 hi).imp_right fun hi => ?_
    obtain ⟨e, -, rfl⟩ := List.mem_map.1 hi
    rfl
  cases hl : liveTable? live t.name with
  | none =>
    rw [labels_of_creation hl] at h
    obtain ⟨i, hi, hlabel⟩ := List.mem_map.1 h
    exact ⟨i, hall i hi, hlabel⟩
  | some l =>
    by_cases hmissing : t.missingFields l = []
    · rw [labels_of_complete hl hmissing] at h
      exact absurd h List.not_mem_nil
    · rw [labels_of_extension hl hmissing] at h
      obtain ⟨i, hi, hlabel⟩ := List.mem_map.1 h
      refine ⟨i, ?_, hlabel⟩
      rcases List.mem_append.1 hi with hi | hi
      · obtain ⟨e, -, rfl⟩ := List.mem_map.1 hi
        exact .inr rfl
      · rcases List.mem_append.1 hi with hi | hi
        · exact hall i (List.mem_of_mem_filter hi)
        · obtain ⟨g, -, rfl⟩ := List.mem_map.1 hi
          exact .inr rfl

/-- A label of an entry is a name that the entry states, or is made of the name of its table. -/
theorem label_cases {e : SchemaEntry} {label : IndexLabel} (h : label ∈ e.labels live) :
    (∃ own ∈ e.ownNames, label = .stated own) ∨
      ∃ unique columns, label = .made unique e.name columns := by
  cases e with
  | malformed name => exact absurd h List.not_mem_nil
  | table t =>
    obtain ⟨i, hi, rfl⟩ := exists_index_of_mem_labels h
    rcases i.label_cases t.name with ⟨own, hown, hlabel⟩ | ⟨-, hlabel⟩
    · have hi := hi.resolve_right (by simp [hown])
      exact .inl ⟨own, List.mem_filterMap.2 ⟨i, hi, hown⟩, hlabel⟩
    · exact .inr ⟨_, _, hlabel⟩

/-- Entries of different names that state different names have no label in common. -/
theorem pairwise_disjoint_labels (names : (entries.map SchemaEntry.name).Nodup)
    (ownNames : (entries.flatMap SchemaEntry.ownNames).Nodup) :
    entries.Pairwise fun e e' => List.Disjoint (e.labels live) (e'.labels live) := by
  have hown := (List.nodup_flatMap.1 ownNames).2
  refine (hown.and (List.pairwise_map.1 names)).imp fun {e e'} ⟨hown, hname⟩ label h h' => ?_
  rcases label_cases h with ⟨own, hmem, rfl⟩ | ⟨unique, columns, rfl⟩ <;>
    rcases label_cases h' with ⟨own', hmem', heq⟩ | ⟨unique', columns', heq⟩
  · exact hown hmem (IndexLabel.stated.inj heq ▸ hmem')
  · exact IndexLabel.noConfusion heq
  · exact IndexLabel.noConfusion heq
  · exact hname (IndexLabel.made.inj heq).2.1

theorem perm_labels (live : List LiveTable) (entries : List SchemaEntry) :
    ((extensions live entries).flatMap Extension.labels ++
      (creations live entries).flatMap Table.labels).Perm (entries.flatMap (labels live)) := by
  rw [extensions, creations, List.filterMap_eq_flatMap_toList, List.filterMap_eq_flatMap_toList,
    List.flatMap_assoc, List.flatMap_assoc]
  exact List.flatMap_append_perm ..

end SchemaEntry

section Plans

variable {entries : List SchemaEntry} {live : List LiveTable} {found : Difference} {plan : Plan}
  (canonical : AreCanonical entries)
  (hfound : (difference entries live .sqlite).outcome = .ok found)
  (hplan : (Plan.build found.toCreate found.toAdd .sqlite).outcome = .ok plan)
include canonical hfound hplan

/-- The names of the indexes are the texts of the labels of all entries, if in another sequence. -/
theorem Plan.perm_indexNames {names : List String} (hnames : plan.indexNames = .ok names) :
    (∀ op ∈ plan.operations, ∀ i ∈ op.indexes, i.HasName) ∧
      names.Perm ((entries.flatMap (SchemaEntry.labels live)).map IndexLabel.text) := by
  obtain ⟨hadditions, tables, htables, -, -, hdialect, hoperations⟩ :=
    build_difference_eq canonical.names hfound hplan
  obtain ⟨named, rfl⟩ := indexNames_eq_ok hdialect hnames
  refine ⟨named, List.Perm.map _ ?_⟩
  -- an operation has the labels of the extension or the table that it is made of
  have hadded : ∀ x : Extension, (Operation.add (x.addition .sqlite)).labels = x.labels := by
    intro x
    rw [Operation.labels, Extension.labels, Operation.indexes, Extension.allIndexes_addition]
    rfl
  have hcreated : ∀ t : Table, (Operation.create (t.creation .sqlite)).labels = t.labels :=
    fun t => rfl
  rw [hoperations, List.flatMap_append, List.flatMap_map, List.flatMap_map]
  simp only [hadded, hcreated]
  exact ((hadditions.flatMap_right _).append (htables.flatMap_right _)).trans
    (SchemaEntry.perm_labels live entries)

variable (once : ∀ t, .table t ∈ entries → t.DeclaresOnce)
  (ownNames : (entries.flatMap SchemaEntry.ownNames).Nodup)
include once ownNames

/-- The indexes that are created for a table have different labels just if no columns are made
    unique twice. -/
theorem SchemaEntry.nodup_labels_iff
    (named : ∀ op ∈ plan.operations, ∀ i ∈ op.indexes, i.HasName) {t : Table}
    (ht : .table t ∈ entries) :
    (labels live (.table t)).Nodup ↔ ∀ l, liveTable? live t.name = some l →
      t.missingFields l ≠ [] → t.IsUniqueOnce (t.missingFields l) := by
  have hmakes := Plan.build_difference_makesUpFor canonical.names hfound hplan
  have hown : (t.indexes.filterMap Index.ownName?).Nodup := (List.nodup_flatMap.1 ownNames).1 _ ht
  cases hl : liveTable? live t.name with
  | none =>
    have hmem := (hmakes.mem_operations_iff _).2 (.inl ⟨t, ht, hl, rfl⟩)
    have hnamed : ∀ i ∈ t.allIndexes, i.HasName := named _ hmem
    rw [labels_of_creation hl, Index.nodup_labels_iff hnamed]
    simpa using Table.pairwise_allIndexes (canonical.columns t ht) (once t ht) hown
  | some l =>
    by_cases hmissing : t.missingFields l = []
    · rw [labels_of_complete hl hmissing]
      simp [hmissing]
    · have hx := Table.extension?_eq_some.2 ⟨hmissing, rfl⟩
      have hmem := (hmakes.mem_operations_iff _).2 (.inr ⟨t, l, _, ht, hl, hx, rfl⟩)
      have hnamed := named _ hmem
      rw [Operation.indexes, Extension.allIndexes_addition] at hnamed
      have hsublist : (t.missingFields l).Sublist t.fields := List.filter_sublist
      have hpairwise := Table.pairwise_allIndexes_extensionBy (canonical.columns t ht) (once t ht)
        hown hsublist
      rw [labels_of_extension hl hmissing, Index.nodup_labels_iff hnamed, hpairwise]
      simp [hmissing]

theorem SchemaEntry.nodup_flatMap_labels_iff
    (named : ∀ op ∈ plan.operations, ∀ i ∈ op.indexes, i.HasName) :
    (entries.flatMap (labels live)).Nodup ↔ ∀ t l, .table t ∈ entries →
      liveTable? live t.name = some l → t.missingFields l ≠ [] →
        t.IsUniqueOnce (t.missingFields l) := by
  rw [List.nodup_flatMap, and_iff_left (pairwise_disjoint_labels canonical.names ownNames)]
  constructor
  · intro h t l ht
    exact (nodup_labels_iff canonical hfound hplan once ownNames named ht).1 (h _ ht) l
  · intro h e he
    cases e with
    | malformed name => exact List.nodup_nil
    | table t =>
      exact (nodup_labels_iff canonical hfound hplan once ownNames named he).2 fun l => h t l he

variable {names : List String} (hnames : plan.indexNames = .ok names)
include hnames

/-- Where labels are plain, the indexes that a plan creates have different names just if no columns
    of an existing table are made unique twice. -/
theorem Plan.nodup_indexNames_of_plain
    (plain : ∀ label ∈ entries.flatMap (SchemaEntry.labels live), label.IsPlain) :
    names.Nodup ↔ ∀ t l, .table t ∈ entries → liveTable? live t.name = some l →
      t.missingFields l ≠ [] → t.IsUniqueOnce (t.missingFields l) := by
  obtain ⟨named, hperm⟩ := perm_indexNames canonical hfound hplan hnames
  rw [hperm.nodup_iff,
    ← SchemaEntry.nodup_flatMap_labels_iff canonical hfound hplan once ownNames named]
  refine ⟨List.Nodup.of_map _, fun h => h.map_on fun a ha b hb heq => ?_⟩
  exact IndexLabel.eq_of_text_eq (plain a ha) (plain b hb) heq

/-- The indexes that a plan creates have different names just if no columns of an existing table are
    made unique twice and no two labels are the same text. -/
theorem Plan.nodup_indexNames_iff :
    names.Nodup ↔
      (∀ t l, .table t ∈ entries → liveTable? live t.name = some l → t.missingFields l ≠ [] →
        t.IsUniqueOnce (t.missingFields l)) ∧
      ∀ a ∈ entries.flatMap (SchemaEntry.labels live),
        ∀ b ∈ entries.flatMap (SchemaEntry.labels live), a.text = b.text → a = b := by
  obtain ⟨named, hperm⟩ := perm_indexNames canonical hfound hplan hnames
  rw [hperm.nodup_iff,
    ← SchemaEntry.nodup_flatMap_labels_iff canonical hfound hplan once ownNames named]
  constructor
  · intro h
    exact ⟨h.of_map, (List.nodup_map_iff_inj_on h.of_map).1 h⟩
  · exact fun ⟨hnodup, hinj⟩ => (List.nodup_map_iff_inj_on hnodup).2 hinj

end Plans

/-- A table of units, which have a code, a label that is one of its kind, and a kind. -/
def unitTable : Table :=
  ⟨"unit", [(.text "code", { Field.plain .string with unique := .bool true }),
      (.text "label", { Field.plain .string with indexed := .bool true }),
      (.text "kind", { Field.plain .string with indexed := .bool true })],
    .int 1, [[.text "code", .text "label"]], [⟨[.text "label"], true, some "one_label"⟩]⟩

/-- A table of rooms, the codes of which are unique in a unit. -/
def roomTable : Table :=
  ⟨"room", [(.text "code", { Field.plain .string with indexed := .bool true }),
      (.text "unit", Field.plain .string)],
    .int 2, [[.text "unit", .text "code"]], [⟨[.text "unit", .text "code"], true, none⟩]⟩

/-- Units are live, but have no code and no label yet. -/
def liveUnit : LiveTable := ⟨"unit", [⟨"id", "text", false⟩, ⟨"kind", "text", true⟩]⟩

/-- Whether all of it is planned, and the names of the indexes pass a test. -/
def plannedNames (entries : List SchemaEntry) (live : List LiveTable)
    (test : List String → Bool) : Bool :=
  (do
    let found ← difference entries live .sqlite
    Plan.build found.toCreate found.toAdd .sqlite).outcome.toOption.any fun (plan : Plan) =>
      plan.indexNames.toOption.any test

theorem exists_of_plannedNames (entries : List SchemaEntry) (live : List LiveTable)
    (test : List String → Bool) (h : plannedNames entries live test = true) :
    ∃ found plan names, (difference entries live .sqlite).outcome = .ok found ∧
      (Plan.build found.toCreate found.toAdd .sqlite).outcome = .ok plan ∧
      plan.indexNames = .ok names ∧ test names = true := by
  obtain ⟨plan, hruns, hnames⟩ := Except.exists_of_any h
  obtain ⟨names, hnames, htest⟩ := Except.exists_of_any hnames
  obtain ⟨found, hfound, hplan⟩ := Logged.outcome_bind_eq_ok.1 hruns
  exact ⟨found, plan, names, hfound, hplan, hnames, htest⟩

theorem units_and_rooms_nodup :
    let entries := [.malformed "cellar", .table unitTable, .table roomTable]
    AreCanonical entries ∧ (∀ t, .table t ∈ entries → t.DeclaresOnce) ∧
      (entries.flatMap SchemaEntry.ownNames).Nodup ∧ ∃ found plan names,
        (difference entries [liveUnit] .sqlite).outcome = .ok found ∧
        (Plan.build found.toCreate found.toAdd .sqlite).outcome = .ok plan ∧
        plan.indexNames = .ok names ∧ names.Nodup := by
  intro entries
  have hcases : ∀ t, .table t ∈ entries → t = unitTable ∨ t = roomTable := by
    intro t ht
    simpa [entries] using ht
  have canonical : AreCanonical entries := by
    refine ⟨by decide, fun t ht => ?_⟩
    rcases hcases t ht with rfl | rfl <;> exact ⟨by decide, by decide⟩
  have once : ∀ t, .table t ∈ entries → t.DeclaresOnce := by
    intro t ht
    rcases hcases t ht with rfl | rfl <;>
      exact ⟨List.pairwise_singleton _ _, List.pairwise_singleton _ _⟩
  have ownNames : (entries.flatMap SchemaEntry.ownNames).Nodup := by decide
  obtain ⟨found, plan, names, hfound, hplan, hnames, -⟩ :=
    exists_of_plannedNames entries [liveUnit] (fun _ => true) (by decide +kernel)
  refine ⟨canonical, once, ownNames, found, plan, names, hfound, hplan, hnames, ?_⟩
  refine (Plan.nodup_indexNames_iff canonical hfound hplan once ownNames hnames).2 ⟨?_, ?_⟩
  · intro t l ht hl hmissing
    rcases hcases t ht with rfl | rfl
    · obtain rfl : l = liveUnit := by simpa [liveTable?, unitTable, liveUnit, eq_comm] using hl
      exact ⟨by decide +kernel, by decide +kernel⟩
    · exact absurd hl (by simp [liveTable?, roomTable, liveUnit])
  · decide +kernel

def indexedTable (name column : String) : Table :=
  ⟨name, [(.text column, { Field.plain .string with indexed := .bool true })], Number.infinity,
    [], []⟩

def liveRoomTable : LiveTable := ⟨"room", [⟨"id", "text", false⟩]⟩

/-- The unit code of a room and the code of a room unit make the same name. -/
theorem rooms_and_room_units_not_nodup :
    let entries := [.table (indexedTable "room" "unit_code"),
      .table (indexedTable "room_unit" "code")]
    AreCanonical entries ∧ (∀ t, .table t ∈ entries → t.DeclaresOnce) ∧
      (entries.flatMap SchemaEntry.ownNames).Nodup ∧ ∃ found plan names,
        (difference entries [liveRoomTable] .sqlite).outcome = .ok found ∧
        (Plan.build found.toCreate found.toAdd .sqlite).outcome = .ok plan ∧
        plan.indexNames = .ok names ∧ ¬ names.Nodup := by
  intro entries
  have hcases : ∀ t, .table t ∈ entries →
      t = indexedTable "room" "unit_code" ∨ t = indexedTable "room_unit" "code" := by
    intro t ht
    simpa [entries] using ht
  have canonical : AreCanonical entries := by
    refine ⟨by decide, fun t ht => ?_⟩
    rcases hcases t ht with rfl | rfl <;> exact ⟨by decide, by decide⟩
  have once : ∀ t, .table t ∈ entries → t.DeclaresOnce := by
    intro t ht
    rcases hcases t ht with rfl | rfl <;> exact ⟨.nil, .nil⟩
  obtain ⟨found, plan, names, hfound, hplan, hnames, htest⟩ :=
    exists_of_plannedNames entries [liveRoomTable] (fun names => !decide names.Nodup)
      (by decide +kernel)
  exact ⟨canonical, once, by decide, found, plan, names, hfound, hplan, hnames,
    by simpa using htest⟩

end Accrete
