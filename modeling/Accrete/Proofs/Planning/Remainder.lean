import Accrete.Proofs.Planning.Completion
import Accrete.Proofs.Statements

/-!
# What is left of an addition

An addition is cut after some of its statements.  What another addition of the columns that are left
does is what the cut one had still to do, but for the indexes over columns that are there already.

* `ColumnAddition.exists_text`        -- only columns that are named by texts are added
* `ColumnAddition.statements_eq_map`  -- so that its statements can be told one by one
* `Statement.isIndexOver`             -- an index over a column that statements make
* `Extension.after`                   -- what is left of an extension
* `Table.statements_extensionBy_drop` -- the statements of the columns that are left
* `Table.filter_isIndexOver_eq_nil`, `TableCreation.filter_isIndexOver_eq_nil` -- nothing but such
  indexes is left after all columns are made
-/

namespace Accrete

/-! ## Names of columns that are added -/

namespace Value

theorem mem_of_mem_distinct {vs : List Value} {v : Value} (h : v ∈ distinct vs) : v ∈ vs := by
  -- in general, whatever was seen before
  have hall : ∀ seen, v ∈ vs.foldl (fun seen v => if v.isIn seen then seen else seen ++ [v]) seen →
      v ∈ seen ∨ v ∈ vs := by
    clear h
    induction vs with
    | nil => exact fun seen h => .inl h
    | cons w vs ih =>
      intro seen h
      rcases ih _ h with h | h
      · dsimp only at h
        split at h
        · exact .inl h
        · rcases List.mem_append.1 h with h | h
          · exact .inl h
          · exact .inr (List.mem_singleton.1 h ▸ List.mem_cons_self)
      · exact .inr (List.mem_cons_of_mem _ h)
  exact (hall [] h).resolve_left List.not_mem_nil

theorem mem_of_mem_insertSorted {v w : Value} {vs sorted : List Value}
    (h : insertSorted v vs = .ok sorted) (hw : w ∈ sorted) : w ∈ v :: vs := by
  induction vs generalizing sorted with
  | nil =>
    obtain rfl := Except.ok.inj h
    exact hw
  | cons u vs ih =>
    rw [insertSorted] at h
    split at h
    · exact absurd h (by simp)
    · obtain rfl := Except.ok.inj h
      exact hw
    · -- the value goes further back
      obtain ⟨rest, hrest, h⟩ := Except.bind_eq_ok.1 h
      obtain rfl := Except.ok.inj h
      rcases List.mem_cons.1 hw with rfl | hw
      · exact List.mem_cons_of_mem _ List.mem_cons_self
      · rcases List.mem_cons.1 (ih hrest hw) with rfl | hw
        · exact List.mem_cons_self
        · exact List.mem_cons_of_mem _ (List.mem_cons_of_mem _ hw)

theorem mem_of_mem_sort {vs sorted : List Value} (h : sort vs = .ok sorted) {v : Value}
    (hv : v ∈ sorted) : v ∈ vs := by
  -- by induction on the values to insert: what is sorted was there or has been inserted
  have hall : ∀ (ws seen : List Value),
      ws.foldlM (fun sorted v => insertSorted v sorted) seen = .ok sorted → v ∈ ws ∨ v ∈ seen := by
    intro ws
    induction ws with
    | nil =>
      intro seen h
      exact .inr (Except.ok.inj h ▸ hv)
    | cons w ws ih =>
      intro seen h
      rw [List.foldlM_cons] at h
      obtain ⟨seen', hseen', h⟩ := Except.bind_eq_ok.1 h
      rcases ih seen' h with hmem | hmem
      · exact .inl (List.mem_cons_of_mem _ hmem)
      · rcases List.mem_cons.1 (mem_of_mem_insertSorted hseen' hmem) with rfl | hmem
        · exact .inl List.mem_cons_self
        · exact .inr hmem
  have hmem := (hall _ [] h).resolve_right List.not_mem_nil
  exact mem_of_mem_distinct ((List.mergeSort_perm ..).subset hmem)

end Value

theorem eq_text_of_columnNamed {v : Value} {k : ComputedKind}
    (h : columnNamed v = .ok k.spelling) : v = .text k.spelling := by
  cases v with
  | text s => exact congrArg Value.text (Except.ok.inj h)
  | null => cases k <;> exact absurd (Except.ok.inj h) (by decide)
  | computedKind l => cases k <;> cases l <;> exact absurd (Except.ok.inj h) (by decide)
  | _ => exact absurd h (by simp [columnNamed, Value.text?])

/-- Of names that differ, only one counts as a text. -/
theorem eq_of_text?_eq {vs : List Value} (h : vs.Pairwise fun v w => v.sameKey w = false)
    {v w : Value} (hv : v ∈ vs) (hw : w ∈ vs) {s : String} (hvs : v.text? = some s)
    (hws : w.text? = some s) : v = w := by
  by_contra hne
  have hsymm : Std.Symm fun v w : Value => ¬ (v.text? = some s ∧ w.text? = some s) :=
    ⟨fun v w h ⟨hw, hv⟩ => h ⟨hv, hw⟩⟩
  have hdiffers : vs.Pairwise fun v w => ¬ (v.text? = some s ∧ w.text? = some s) :=
    h.imp fun hvw ⟨hv, hw⟩ => by simp [Value.sameKey_of_text? hv hw] at hvw
  exact hdiffers.forall hv hw hne ⟨hvs, hws⟩

/-- The statement that adds a column of a given table. -/
def Column.addition (c : Column) (table : String) : Statement :=
  .addColumn table (c.spec c.name.plain) false c.inlineReference?

namespace ColumnAddition

variable {a : ColumnAddition} {ss : List Statement}

/-- Only columns that are named by texts are added, if their names differ. -/
theorem exists_text (h : a.statements .sqlite = .ok ss)
    (hdistinct : a.columnNames.Pairwise fun v w => v.sameKey w = false) {c : Column}
    (hc : c ∈ a.columns) : ∃ name, c.name = .text name := by
  obtain ⟨targets, own, further, -, -, htargets, hown, hfurther, -, -, hfound, -⟩ :=
    statements_inv h
  obtain ⟨found, hfound⟩ := hfound c hc
  obtain ⟨hmem, htext⟩ := columnOf_eq_ok hfound
  obtain ⟨name, hname, -⟩ := exists_mem_zip_of_forall₂ hown hc
  rw [Column.IsNamed] at hname
  cases hv : c.name with
  | text s => exact ⟨s, rfl⟩
  | computedKind k =>
    -- its spelling would have to be the name of another column
    rw [hv] at htext
    obtain rfl := Option.some.inj (htext rfl)
    rcases List.mem_append.1 hmem with hmem | hmem
    · obtain ⟨c', hc', hmem'⟩ := exists_mem_zip_of_forall₂ hown.flip hmem
      have hne : c.name ≠ c'.name := by simp [hv, eq_text_of_columnNamed hc']
      exact absurd (eq_of_text?_eq hdistinct (List.mem_map_of_mem hc)
        (List.mem_map_of_mem (List.of_mem_zip hmem').1) (s := k.spelling)
        (by simp [hv, Value.text?]) (by simp [eq_text_of_columnNamed hc', Value.text?])) hne
    · obtain ⟨v, hv', hmem'⟩ := exists_mem_zip_of_forall₂ hfurther.flip hmem
      obtain rfl := eq_text_of_columnNamed hv'
      obtain ⟨⟨⟩, -, htargets⟩ := Except.bind_eq_ok.1 htargets
      obtain ⟨⟨⟩, -, htargets⟩ := Except.bind_eq_ok.1 htargets
      have hnot := (List.mem_filter.1
        (Value.mem_of_mem_sort htargets (List.of_mem_zip hmem').1)).2
      have hin : (Value.text k.spelling).isIn a.columnNames = true :=
        Value.isIn_of_mem rfl (by simp [hv, Value.text?]) (List.mem_map_of_mem hc)
      simp [hin] at hnot
  | null => exact absurd (htext (by rw [hv]; rfl)) (by simp [hv, Value.text?])
  | _ => exact absurd hname (by simp [hv, columnNamed, Value.text?])

/-- Columns that are added under names that differ are named by texts that do. -/
theorem exists_texts (h : a.statements .sqlite = .ok ss)
    (hdistinct : a.columnNames.Pairwise fun v w => v.sameKey w = false) :
    ∃ texts : List String, texts.Nodup ∧ a.columnNames = texts.map .text := by
  obtain ⟨texts, htexts, -⟩ := exists_map_of_forall₂ (R := fun _ _ => True) (f := Value.text)
    (List.forall₂_same.2 fun v _ => rfl : List.Forall₂ (fun v w : Value => v = w) a.columnNames _)
    (by
      rintro v hv _ rfl
      obtain ⟨c, hc, rfl⟩ := List.mem_map.1 hv
      obtain ⟨name, hname⟩ := exists_text h hdistinct hc
      exact ⟨name, hname, trivial⟩)
  refine ⟨texts, ?_, htexts⟩
  rw [htexts, List.pairwise_map] at hdistinct
  refine hdistinct.imp fun hdiffers heq => ?_
  rw [Value.sameKey_of_text? rfl rfl, heq, beq_self_eq_true] at hdiffers
  exact absurd hdiffers (by simp)

/-- The statements of an addition are those of its columns, and then those of its indexes. -/
theorem statements_eq_map (h : a.statements .sqlite = .ok ss)
    (hdistinct : a.columnNames.Pairwise fun v w => v.sameKey w = false) :
    ∃ known indexes, ss = a.columns.map (·.addition a.table) ++ indexes ∧
      a.allIndexes.mapM (·.statement a.table known) = .ok indexes := by
  obtain ⟨targets, own, further, adds, indexes, -, -, -, -, hadds, -, hindexes, rfl⟩ :=
    statements_inv h
  refine ⟨_, indexes, congrArg (· ++ indexes) (map_eq_of_forall₂ ?_).symm, hindexes⟩
  rw [List.forall₂_iff_zip] at hadds ⊢
  refine ⟨hadds.1, fun {c s} hmem => ?_⟩
  obtain ⟨name, hname⟩ := exists_text h hdistinct (List.of_mem_zip hmem).1
  obtain ⟨spec, rfl, -, hspec⟩ := hadds.2 hmem
  rw [Column.addition, hspec name hname, hname, Value.plain]

end ColumnAddition

/-! ## Indexes over columns that are there -/

namespace Statement

/-- The columns that a statement makes. -/
def madeColumns : Statement → List String
  | .createTable _ columns _ => columns.map (·.name)
  | .addColumn _ c _ _ => [c.name]
  | .addForeignKey .. | .createIndex .. => []

/-- Whether a statement creates an index over a column that other statements make. -/
def isIndexOver (others : List Statement) : Statement → Bool
  | .createIndex _ _ columns _ => columns.any (others.flatMap madeColumns).contains
  | _ => false

theorem isIndex_of_isIndexOver {others : List Statement} {s : Statement}
    (h : s.isIndexOver others = true) : s.IsIndex := by
  cases s with
  | createIndex => exact True.intro
  | createTable | addColumn | addForeignKey => exact absurd h (by simp [isIndexOver])

/-- An index that can be written is over a column. -/
theorem isIndexOver_of_isIndexWithin {names : List String} {others : List Statement}
    {s : Statement} {text : String} (h : s.IsIndexWithin names)
    (hmade : names ⊆ others.flatMap madeColumns) (hsent : s.sent .sqlite = .ok text) :
    s.isIndexOver others = true := by
  cases s with
  | createIndex index table columns unique =>
    obtain ⟨c, hc⟩ : ∃ c, c ∈ columns := List.exists_mem_of_ne_nil _ fun hnil => by
      simp [hnil, sent] at hsent
    exact List.any_eq_true.2 ⟨c, hc, List.contains_iff_mem.2 (hmade (h c hc))⟩
  | createTable | addColumn | addForeignKey => exact absurd h id

theorem filter_isIndexOver_eq_nil {names : List String} {others ss : List Statement}
    (h : ∀ s ∈ ss, s.IsIndexWithin names) (hmade : names ⊆ others.flatMap madeColumns)
    (hsent : ∀ s ∈ ss, ∃ text, s.sent .sqlite = .ok text) :
    (ss.filter fun s => !s.isIndexOver others) = [] := by
  refine List.filter_eq_nil_iff.2 fun s hs => ?_
  obtain ⟨text, hsent⟩ := hsent s hs
  simp [isIndexOver_of_isIndexWithin (h s hs) hmade hsent]

end Statement

theorem Value.exists_text?_of_isIn {v : Value} {texts : List String}
    (h : v.isIn (texts.map .text) = true) : v.numeral? = none ∧ ∃ s, v.text? = some s := by
  obtain ⟨w, hw, hsame⟩ := List.any_eq_true.1 h
  obtain ⟨s, -, rfl⟩ := List.mem_map.1 hw
  cases v <;> simp_all [sameKey, sameScalar, numeral?, text?, isNull]

namespace Index

variable {i : Index} {table : String} {known known' texts : List String} {s s' : Statement}

/-- The statement of an index over named columns does not depend on what else is known. -/
theorem statement_unique (hi : Table.isWithin (texts.map .text) i.columns = true)
    (hs : i.statement table known = .ok s) (hs' : i.statement table known' = .ok s') : s = s' := by
  have hnone : ∀ v ∈ i.columns, v.numeral? = none := fun v hv =>
    (Value.exists_text?_of_isIn (List.all_eq_true.1 hi v hv)).1
  obtain ⟨name, columns, hname, rfl, -, hcolumns⟩ := statement_eq_ok hs
  obtain ⟨name', columns', hname', rfl, -, hcolumns'⟩ := statement_eq_ok hs'
  obtain rfl := Except.ok.inj (hname.symm.trans hname')
  have hunique : Relator.RightUnique fun (v : Value) c => v.text? = some c :=
    fun v c c' hc hc' => Option.some.inj (hc.symm.trans hc')
  obtain rfl := hunique.forall₂ (hcolumns hnone) (hcolumns' hnone)
  rfl

theorem isIndexWithin_of_isWithin (hi : Table.isWithin (texts.map .text) i.columns = true)
    (hs : i.statement table known = .ok s) : s.IsIndexWithin texts := by
  obtain ⟨name, columns, -, rfl, -, hcolumns⟩ := statement_eq_ok hs
  replace hcolumns := hcolumns fun v hv =>
    (Value.exists_text?_of_isIn (List.all_eq_true.1 hi v hv)).1
  intro c hc
  obtain ⟨v, hv, hmem⟩ := exists_mem_zip_of_forall₂ hcolumns.flip hc
  have hin := List.all_eq_true.1 hi v (List.of_mem_zip hmem).1
  rwa [Value.isIn_map_text hv, List.contains_iff_mem] at hin

/-- An index is over a column that is there just if it is not within those that are left. -/
theorem isIndexOver_statement (hnodup : texts.Nodup) {k : ℕ} {made : List Statement}
    (hmade : made.flatMap Statement.madeColumns = texts.take k)
    (hi : Table.isWithin (texts.map .text) i.columns = true)
    (hs : i.statement table known = .ok s) :
    (!s.isIndexOver made) = Table.isWithin ((texts.drop k).map .text) i.columns := by
  have hnone : ∀ v ∈ i.columns, v.numeral? = none := fun v hv =>
    (Value.exists_text?_of_isIn (List.all_eq_true.1 hi v hv)).1
  obtain ⟨name, columns, -, rfl, -, hcolumns⟩ := statement_eq_ok hs
  replace hcolumns := hcolumns hnone
  rw [Statement.isIndexOver, hmade, Table.isWithin, List.not_any_eq_all_not]
  rw [Table.isWithin] at hi
  clear hs hnone
  -- column by column, each of which is made or left, and not both
  generalize i.columns = group at hi hcolumns
  induction hcolumns with
  | nil => rfl
  | @cons v c group columns hv _ ih =>
    rw [List.all_cons, Bool.and_eq_true, Value.isIn_map_text hv] at hi
    rw [List.all_cons, List.all_cons, ih hi.2, Value.isIn_map_text hv]
    congr 1
    have hmem : c ∈ texts.take k ++ texts.drop k := by
      rw [List.take_append_drop]
      simpa using hi.1
    rw [← List.take_append_drop k texts, List.nodup_append'] at hnodup
    rw [Bool.eq_iff_iff]
    simp only [Bool.not_eq_true', List.contains_eq_mem, decide_eq_false_iff_not, decide_eq_true_eq]
    constructor
    · exact (List.mem_append.1 hmem).resolve_left
    · exact fun hdrop htake => hnodup.2.2 htake hdrop

end Index

/-! ## Extensions that are cut -/

theorem Field.columnType_sqlite (f : Field) (covered covered' : Bool) :
    f.columnType .sqlite covered = f.columnType .sqlite covered' := by
  unfold columnType
  cases f.type with
  | string =>
    dsimp only
    split
    · rfl
    · simp only [Dialect.indexedTextType, ite_self]
  | _ => rfl

theorem filter_contains_of_nodup {α β : Type} [DecidableEq β] {f : α → β} {before after : List α}
    (h : ((before ++ after).map f).Nodup) :
    ((before ++ after).filter fun x => (after.map f).contains (f x)) = after := by
  rw [List.map_append, List.nodup_append'] at h
  rw [List.filter_append, List.filter_eq_nil_iff.2, List.filter_eq_self.2, List.nil_append]
  · intro x hx
    simpa using ⟨x, hx, rfl⟩
  · intro x hx
    rw [List.contains_eq_mem, decide_eq_true_eq]
    exact h.2.2 (List.mem_map_of_mem hx)

/-- What is left of an extension after some of its fields, with the indexes within these. -/
def Extension.after (x : Extension) (k : ℕ) : Extension where
  table := x.table
  fields := x.fields.drop k
  order := x.order
  indexes := x.indexes.filter fun i => Table.isWithin (Bag.names (x.fields.drop k)) i.columns

namespace Table

variable {t : Table} {fields : Bag}

theorem columnNames_extensionBy :
    ((t.extensionBy fields).addition .sqlite).columnNames = Bag.names fields := by
  simp only [ColumnAddition.columnNames, Extension.addition, extensionBy, List.map_map]
  rfl

/-- The column of a field in SQLite does not depend on which columns are covered. -/
theorem columns_extensionBy : ((t.extensionBy fields).addition .sqlite).columns =
    fields.map fun e => e.2.column e.1 .sqlite [] := by
  refine List.map_congr_left fun e _ => ?_
  rw [Field.column, Field.column, Field.columnType_sqlite]

/-- The statement that adds a column for a field. -/
def fieldAddition (t : Table) (e : Value × Field) : Statement :=
  (e.2.column e.1 .sqlite []).addition t.name

theorem isWithin_allIndexes {i : Index}
    (hi : i ∈ ((t.extensionBy fields).addition .sqlite).allIndexes) {texts : List String}
    (htexts : Bag.names fields = texts.map .text) :
    isWithin (texts.map .text) i.columns = true := by
  rw [← htexts]
  rcases List.mem_append.1 hi with hi | hi
  · obtain ⟨c, hc, rfl⟩ := List.mem_map.1 hi
    have hmem : c.name ∈ Bag.names fields :=
      columnNames_extensionBy (t := t) ▸ List.mem_map_of_mem (List.mem_filter.1 hc).1
    obtain ⟨s, -, hs⟩ := List.mem_map.1 (htexts ▸ hmem)
    simp only [isWithin, Index.uniqueOn, List.all_cons, List.all_nil, Bool.and_true]
    have htext : c.name.text? = some s := hs ▸ rfl
    exact Value.isIn_of_mem htext htext hmem
  · rcases List.mem_append.1 hi with hi | hi
    · exact (List.mem_filter.1 hi).2
    · obtain ⟨group, hgroup, rfl⟩ := List.mem_map.1 hi
      exact (List.mem_filter.1 hgroup).2

theorem isWithin_of_drop {names group : Columns} {k : ℕ}
    (h : isWithin (names.drop k) group = true) : isWithin names group = true := by
  refine List.all_eq_true.2 fun v hv => ?_
  obtain ⟨w, hw, hsame⟩ := List.any_eq_true.1 (List.all_eq_true.1 h v hv)
  exact List.any_eq_true.2 ⟨w, List.mem_of_mem_drop hw, hsame⟩

theorem indexesWithin_drop (names : Columns) (k : ℕ) :
    t.indexesWithin (names.drop k) =
      (t.indexesWithin names).filter fun i => isWithin (names.drop k) i.columns := by
  have hboth : ∀ group, (isWithin (names.drop k) group && isWithin names group) =
      isWithin (names.drop k) group := fun group => by
    cases h : isWithin (names.drop k) group with
    | false => rfl
    | true => rw [isWithin_of_drop h, Bool.and_self]
  simp only [indexesWithin, List.filter_append, List.filter_filter, List.filter_map, hboth]
  congr 2
  exact List.filter_congr fun group _ => (hboth group).symm

theorem extensionBy_after (t : Table) (fields : Bag) (k : ℕ) :
    (t.extensionBy fields).after k = t.extensionBy (fields.drop k) := by
  rw [extensionBy, extensionBy, Extension.after]
  simp only [Bag.names, List.map_drop]
  rw [indexesWithin_drop]

end Table

namespace ColumnAddition

variable {a : ColumnAddition} {texts : List String}

theorem map_plain_columns (htexts : a.columnNames = texts.map .text) :
    a.columns.map (fun c => c.name.plain) = texts := by
  have hmap := congrArg (List.map Value.plain) htexts
  rwa [columnNames, List.map_map, List.map_map, List.map_id''] at hmap
  exact fun s => rfl

theorem filter_columns_isIn (hnodup : texts.Nodup) (htexts : a.columnNames = texts.map .text)
    (k : ℕ) :
    (a.columns.filter fun c => c.name.isIn (a.columnNames.drop k)) = a.columns.drop k := by
  have hplain := map_plain_columns htexts
  have hcontains : ∀ c ∈ a.columns, c.name.isIn (a.columnNames.drop k) =
      ((a.columns.drop k).map fun c => c.name.plain).contains c.name.plain := by
    intro c hc
    have hmem : c.name ∈ texts.map Value.text := htexts ▸ List.mem_map_of_mem hc
    obtain ⟨s, -, hs⟩ := List.mem_map.1 hmem
    rw [htexts, ← List.map_drop, ← hs, Value.isIn_map_text rfl, Value.plain, List.map_drop, hplain]
  rw [List.filter_congr hcontains]
  rw [← hplain, ← List.take_append_drop k a.columns] at hnodup
  have hleft := filter_contains_of_nodup hnodup
  rwa [List.take_append_drop] at hleft

/-- The indexes of the columns that are left are those within them. -/
theorem allIndexes_drop {t : Table} {fields : Bag} (hnodup : texts.Nodup)
    (htexts : Bag.names fields = texts.map .text) (k : ℕ) :
    ((t.extensionBy (fields.drop k)).addition .sqlite).allIndexes =
      ((t.extensionBy fields).addition .sqlite).allIndexes.filter fun i =>
        Table.isWithin ((texts.drop k).map .text) i.columns := by
  have hnames : ((t.extensionBy fields).addition .sqlite).columnNames = texts.map .text :=
    Table.columnNames_extensionBy.trans htexts
  have hleft := filter_columns_isIn hnodup hnames k
  rw [hnames, ← List.map_drop] at hleft
  have hcolumns : ((t.extensionBy (fields.drop k)).addition .sqlite).columns =
      ((t.extensionBy fields).addition .sqlite).columns.drop k := by
    rw [Table.columns_extensionBy, Table.columns_extensionBy, List.map_drop]
  rw [allIndexes, allIndexes, hcolumns, ← hleft, List.filter_append]
  congr 1
  · -- the indexes that stand for unique columns
    rw [List.filter_map, List.filter_filter, List.filter_filter]
    congr 2
    funext c
    simp [Table.isWithin, Index.uniqueOn, Bool.and_comm]
  · -- those of the table
    simp only [Extension.addition, Table.extensionBy, Bag.names, List.map_drop]
    rw [Table.indexesWithin_drop, ← htexts]
    rfl

theorem flatMap_madeColumns {indexes : List Statement} (htexts : a.columnNames = texts.map .text)
    (hindexes : ∀ s ∈ indexes, s.IsIndex) (k : ℕ) :
    ((a.columns.map (·.addition a.table) ++ indexes).take k).flatMap Statement.madeColumns =
      texts.take k := by
  have hnone : (indexes.take (k - a.columns.length)).flatMap Statement.madeColumns = [] := by
    refine List.flatMap_eq_nil_iff.2 fun s hs => ?_
    have hindex := hindexes s (List.mem_of_mem_take hs)
    cases s with
    | createIndex => rfl
    | createTable | addColumn | addForeignKey => exact absurd hindex id
  rw [List.take_append, List.flatMap_append, List.length_map, hnone, List.append_nil,
    ← List.map_take, List.flatMap_map, ← map_plain_columns htexts, ← List.map_take]
  exact (List.map_eq_flatMap ..).symm

end ColumnAddition

namespace Table

variable {t : Table} {fields : Bag} {k : ℕ} {ss ss' : List Statement}

/-- The statements of an extension add its columns, and then create its indexes. -/
theorem statements_extensionBy (hdistinct : fields.HasDistinctNames)
    (hss : ((t.extensionBy fields).addition .sqlite).statements .sqlite = .ok ss) :
    ∃ (texts : List String) (known : List String) (indexes : List Statement), texts.Nodup ∧
      Bag.names fields = texts.map .text ∧
      ss = fields.map t.fieldAddition ++ indexes ∧
      List.Forall₂ (fun i s => Index.statement i t.name known = .ok s)
        ((t.extensionBy fields).addition .sqlite).allIndexes indexes ∧
      ∀ k, (ss.take k).flatMap Statement.madeColumns = texts.take k := by
  have hnames : ((t.extensionBy fields).addition .sqlite).columnNames = Bag.names fields :=
    columnNames_extensionBy
  obtain ⟨texts, hnodup, htexts⟩ := ColumnAddition.exists_texts hss (hnames ▸ hdistinct)
  obtain ⟨known, indexes, rfl, hindexes⟩ :=
    ColumnAddition.statements_eq_map hss (hnames ▸ hdistinct)
  rw [Except.mapM_eq_ok] at hindexes
  refine ⟨texts, known, indexes, hnodup, hnames.symm.trans htexts, ?_, hindexes,
    ColumnAddition.flatMap_madeColumns htexts fun s hs => ?_⟩
  · rw [columns_extensionBy, List.map_map]
    rfl
  obtain ⟨i, hi, -⟩ := exists_mem_zip_of_forall₂ hindexes.flip hs
  exact (Index.isIndexWithin_statement hi).isIndex

/-- The columns that are left are added by the statements that are left, but for the indexes over
    columns that are there. -/
theorem statements_extensionBy_drop (hdistinct : fields.HasDistinctNames)
    (hss : ((t.extensionBy fields).addition .sqlite).statements .sqlite = .ok ss)
    (hk : k ≤ fields.length)
    (hss' : ((t.extensionBy (fields.drop k)).addition .sqlite).statements .sqlite = .ok ss') :
    ss' = (ss.drop k).filter fun s => !s.isIndexOver (ss.take k) := by
  obtain ⟨texts, known, indexes, hnodup, htexts, hss, hindexes, hmade⟩ :=
    statements_extensionBy hdistinct hss
  obtain ⟨-, known', indexes', -, -, rfl, hindexes', -⟩ := statements_extensionBy
    (hdistinct.sublist ((List.drop_sublist k fields).map Prod.fst)) hss'
  have hdrop : ss.drop k = (fields.drop k).map t.fieldAddition ++ indexes := by
    rw [hss, List.drop_append_of_le_length (by rwa [List.length_map]), List.map_drop]
  -- both state the same indexes, though other columns are known to them
  have hkept : indexes' = indexes.filter fun s => !s.isIndexOver (ss.take k) := by
    rw [ColumnAddition.allIndexes_drop hnodup htexts] at hindexes'
    refine eq_of_forall₂ hindexes' (forall₂_filter hindexes fun i hi s hs => ?_) ?_
    · exact (Index.isIndexOver_statement hnodup (hmade k) (isWithin_allIndexes hi htexts) hs).symm
    · intro i hi s s' hs hs'
      exact Index.statement_unique (isWithin_allIndexes (List.mem_filter.1 hi).1 htexts) hs hs'
  rw [hdrop, List.filter_append, ← hkept, List.filter_eq_self.2]
  -- no statement that adds a column is dropped
  intro s hs
  obtain ⟨e, -, rfl⟩ := List.mem_map.1 hs
  rfl

/-- Only indexes over columns that are there are left after all columns are added. -/
theorem filter_isIndexOver_eq_nil (hdistinct : fields.HasDistinctNames)
    (hss : ((t.extensionBy fields).addition .sqlite).statements .sqlite = .ok ss)
    (hk : fields.length ≤ k) (hsent : ∀ s ∈ ss.drop k, ∃ text, s.sent .sqlite = .ok text) :
    ((ss.drop k).filter fun s => !s.isIndexOver (ss.take k)) = [] := by
  obtain ⟨texts, known, indexes, hnodup, htexts, hss, hindexes, hmade⟩ :=
    statements_extensionBy hdistinct hss
  have htexts_length : texts.length ≤ k := by
    rwa [← List.length_map (f := Value.text), ← htexts, Bag.names, List.length_map]
  -- the statements that are left come after those of the columns, and make indexes
  have hwithin : ∀ s ∈ ss.drop k, s.IsIndexWithin texts := by
    intro s hs
    rw [hss, List.drop_append, List.drop_eq_nil_of_le (by rwa [List.length_map]),
      List.nil_append] at hs
    obtain ⟨i, hi, hmem⟩ := exists_mem_zip_of_forall₂ hindexes.flip (List.mem_of_mem_drop hs)
    exact Index.isIndexWithin_of_isWithin (isWithin_allIndexes (List.of_mem_zip hmem).1 htexts) hi
  refine Statement.filter_isIndexOver_eq_nil hwithin ?_ hsent
  rw [hmade, List.take_of_length_le htexts_length]
  exact List.Subset.refl _

end Table

/-- Only indexes over columns that are there are left after a table is created. -/
theorem TableCreation.filter_isIndexOver_eq_nil {c : TableCreation} {key : Column}
    {columns : List Column} {k : ℕ} {ss : List Statement} (hcolumns : c.columns = key :: columns)
    (hkey : key.primaryKey = true) (hss : c.statements = .ok ss) (hk : 0 < k)
    (hsent : ∀ s ∈ ss.drop k, ∃ text, s.sent .sqlite = .ok text) :
    ((ss.drop k).filter fun s => !s.isIndexOver (ss.take k)) = [] := by
  obtain ⟨name, names, keys, others, indexes, hnames, rfl, hindexes⟩ :=
    statements_eq_ok hcolumns hkey hss
  obtain ⟨k, rfl⟩ := Nat.exists_eq_succ_of_ne_zero (Nat.ne_zero_of_lt hk)
  rw [Nat.succ_eq_add_one, List.drop_succ_cons] at hsent ⊢
  refine Statement.filter_isIndexOver_eq_nil (fun s hs => hindexes s (List.mem_of_mem_drop hs))
    (fun own hown => ?_) hsent
  -- the table has a column for each name
  have hspecs := ColumnAddition.names_specs (List.forall₂_cons.1 hnames).2.length_eq.symm
  rw [← hspecs] at hown
  rw [List.take_succ_cons, List.flatMap_cons, Statement.madeColumns, List.map_cons, List.map_map]
  exact List.mem_append_left _ hown

end Accrete
