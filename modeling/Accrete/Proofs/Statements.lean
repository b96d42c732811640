import Accrete.Proofs.Logged
import Accrete.Statement
import Mathlib.Data.List.Nodup
import Mathlib.Data.List.Zip

/-!
# Statements of operations

What the statements of an operation are, where there are any.

* `Statement.IsIndex`                  -- a statement that creates an index
* `Index.statement_eq_ok`              -- the columns of an index are named by it, or counted
* `TableCreation.statements_parts_iff`, `ColumnAddition.statements_parts_iff` -- what they are made of
* `TableCreation.statements_eq_ok`     -- a table, then its indexes
* `ColumnAddition.statements_eq_ok`    -- one column after the other, then indexes
-/

namespace Accrete

theorem find?_of_nodup_map {α β : Type} [BEq β] [LawfulBEq β] {f : α → β} {xs : List α} {x : α}
    (h : (xs.map f).Nodup) (hx : x ∈ xs) : (xs.find? fun y => f y == f x) = some x := by
  induction xs with
  | nil => exact absurd hx List.not_mem_nil
  | cons y ys ih =>
    rw [List.map_cons, List.nodup_cons] at h
    rcases List.mem_cons.1 hx with rfl | hx
    · simp
    · have hne : f y ≠ f x := fun heq => h.1 (heq ▸ List.mem_map_of_mem hx)
      simp [hne, ih h.2 hx]

namespace Statement

def IsIndex : Statement → Prop
  | .createIndex .. => True
  | _ => False

/-- A statement that creates an index over columns that are given. -/
def IsIndexWithin (names : List String) : Statement → Prop
  | .createIndex _ _ columns _ => ∀ c ∈ columns, c ∈ names
  | _ => False

theorem IsIndexWithin.isIndex {names : List String} {s : Statement} (h : s.IsIndexWithin names) :
    s.IsIndex := by
  cases s with
  | createIndex => exact True.intro
  | createTable | addColumn | addForeignKey => exact h

end Statement

/-- A value that is no number names a column by its text, and any value one that is known. -/
theorem columnOf_eq_ok {names : List String} {v : Value} {name : String}
    (h : columnOf names v = .ok name) :
    name ∈ names ∧ (v.numeral? = none → v.text? = some name) := by
  cases hkey : v.notKey? with
  | some kind => simp [columnOf, hkey] at h
  | none =>
    cases hposition : v.numeral?.bind (columnAt? names) with
    | some found =>
      simp only [columnOf, hkey, hposition] at h
      obtain rfl := Except.ok.inj h
      -- a number stands for the column at its position
      obtain ⟨n, hn, hat⟩ := Option.bind_eq_some_iff.1 hposition
      obtain ⟨⟨c, i⟩, hfind, rfl⟩ := Option.map_eq_some_iff.1 hat
      refine ⟨?_, fun hnone => absurd hn (by simp [hnone])⟩
      exact List.fst_mem_of_mem_zipIdx (List.mem_of_find?_eq_some hfind)
    | none =>
      cases htext : v.text?.filter names.contains with
      | some found =>
        simp only [columnOf, hkey, hposition, htext] at h
        obtain rfl := Except.ok.inj h
        obtain ⟨htext, hmem⟩ := Option.filter_eq_some_iff.1 htext
        exact ⟨by simpa using hmem, fun _ => htext⟩
      | none =>
        simp only [columnOf, hkey, hposition, htext] at h
        split at h <;> simp_all

/-- The statement of an index is about columns that are known, which are named by their texts
    unless they are counted. -/
theorem Index.statement_eq_ok {i : Index} {table : String} {known : List String} {s : Statement}
    (h : i.statement table known = .ok s) :
    ∃ name columns, i.statementName table = .ok name ∧
      s = .createIndex name table columns i.unique ∧ (∀ c ∈ columns, c ∈ known) ∧
      ((∀ v ∈ i.columns, v.numeral? = none) →
        List.Forall₂ (fun (v : Value) c => v.text? = some c) i.columns columns) := by
  obtain ⟨name, hname, h⟩ := Except.bind_eq_ok.1 h
  obtain ⟨columns, hcolumns, h⟩ := Except.bind_eq_ok.1 h
  obtain rfl := Except.ok.inj h
  rw [Except.mapM_eq_ok] at hcolumns
  refine ⟨name, columns, hname, rfl, fun c hc => ?_, fun hnone => ?_⟩
  · obtain ⟨v, hv, -⟩ := exists_mem_zip_of_forall₂ hcolumns.flip hc
    exact (columnOf_eq_ok hv).1
  · rw [List.forall₂_iff_zip] at hcolumns ⊢
    exact ⟨hcolumns.1, fun hmem =>
      (columnOf_eq_ok (hcolumns.2 hmem)).2 (hnone _ (List.of_mem_zip hmem).1)⟩

theorem Index.isIndexWithin_statement {i : Index} {table : String} {known : List String}
    {s : Statement} (h : i.statement table known = .ok s) : s.IsIndexWithin known := by
  obtain ⟨name, columns, -, rfl, hknown, -⟩ := statement_eq_ok h
  exact hknown

theorem checkNames_eq_ok {table : String} {seen names : List String} :
    checkNames table seen names = .ok () ↔
      "" ∉ names ∧ names.Nodup ∧ ∀ n ∈ names, n ∉ seen := by
  induction names generalizing seen with
  | nil => simp [checkNames]
  | cons name names ih =>
    rw [checkNames]
    by_cases hblank : name = ""
    · simp [hblank]
    rw [if_neg (by simpa using hblank)]
    by_cases hseen : name ∈ seen
    · simp [hseen]
    rw [if_neg (by simpa using hseen), ih, List.nodup_cons, List.forall_mem_cons]
    simp only [List.mem_cons, not_or, forall_and]
    constructor
    · rintro ⟨hnamed, hnodup, hfresh, hnew⟩
      exact ⟨⟨Ne.symm hblank, hnamed⟩, ⟨fun hmem => hfresh name hmem rfl, hnodup⟩, hseen, hnew⟩
    · rintro ⟨⟨-, hnamed⟩, ⟨hfresh, hnodup⟩, -, hnew⟩
      exact ⟨hnamed, hnodup, fun n hn heq => hfresh (heq ▸ hn), hnew⟩

theorem columnOf_text {names : List String} {name : String} (h : name ∈ names) :
    columnOf names (.text name) = .ok name := by
  simp [columnOf, Value.notKey?, Value.numeral?, Value.text?, Option.filter, h]

theorem columnNamed_text (name : String) : columnNamed (.text name) = .ok name := rfl

/-- A column is stated under a name. -/
def Column.IsNamed (c : Column) (name : String) : Prop := columnNamed c.name = .ok name

/-- A column that is named by a text is stated under it. -/
theorem Column.IsNamed.eq {c : Column} {name text : String} (h : c.IsNamed name)
    (htext : c.name = .text text) : text = name := by
  rw [IsNamed, htext, columnNamed_text] at h
  exact Except.ok.inj h

/-- What is stated under a name is no number, which would count a position. -/
theorem Column.IsNamed.numeral?_eq_none {c : Column} {name : String} (h : c.IsNamed name) :
    c.name.numeral? = none := by
  rw [IsNamed] at h
  cases hname : c.name with
  | bool | number => simp [hname, columnNamed, Value.text?] at h
  | _ => rfl

theorem forall₂_names {columns : List Column} {names : List String}
    (h : (columns.map (·.name)).mapM columnNamed = .ok names) :
    List.Forall₂ Column.IsNamed columns names := by
  rwa [Except.mapM_eq_ok, List.forall₂_map_left_iff] at h

namespace TableCreation

theorem keyConstraint_cons {key : Column} (hkey : key.primaryKey = true) (name : String)
    (columns : List (String × Column)) :
    ∃ keys, keyConstraint ((name, key) :: columns) = [.primaryKey keys] := by
  simp [keyConstraint, hkey]

/-- What the statements of a creation are made of. -/
theorem statements_parts_iff {c : TableCreation} {ss : List Statement} :
    c.statements = .ok ss ↔ ∃ others names uniques indexes,
      KnownTables.ofColumns c.table c.columns = .ok others ∧
      c.columnNames.mapM columnNamed = .ok names ∧
      c.uniqueConstraints.forM checkGroup = .ok () ∧
      checkNames c.table [] names = .ok () ∧
      c.uniqueConstraints.mapM (uniqueConstraint c.table names) = .ok uniques ∧
      (c.indexes.mapM fun i => i.statement c.table names) = .ok indexes ∧
      ss = .createTable c.table ((names.zip c.columns).map fun (name, col) => col.spec name)
        (keyConstraint (names.zip c.columns) ++ uniques ++
          (names.zip c.columns).flatMap fun (name, col) =>
            columnConstraints (KnownTables.own c.table names :: others) c.table name col) ::
        indexes := by
  constructor
  · intro h
    obtain ⟨others, hothers, h⟩ := Except.bind_eq_ok.1 h
    obtain ⟨names, hnames, h⟩ := Except.bind_eq_ok.1 h
    obtain ⟨⟨⟩, hgroups, h⟩ := Except.bind_eq_ok.1 h
    obtain ⟨⟨⟩, hcheck, h⟩ := Except.bind_eq_ok.1 h
    obtain ⟨uniques, huniques, h⟩ := Except.bind_eq_ok.1 h
    obtain ⟨indexes, hindexes, h⟩ := Except.bind_eq_ok.1 h
    exact ⟨others, names, uniques, indexes, hothers, hnames, hgroups, hcheck, huniques, hindexes,
      (Except.ok.inj h).symm⟩
  · rintro ⟨others, names, uniques, indexes, hothers, hnames, hgroups, hcheck, huniques, hindexes,
      rfl⟩
    exact Except.bind_eq_ok.2 ⟨others, hothers, Except.bind_eq_ok.2 ⟨names, hnames,
      Except.bind_eq_ok.2 ⟨(), hgroups, Except.bind_eq_ok.2 ⟨(), hcheck,
        Except.bind_eq_ok.2 ⟨uniques, huniques, Except.bind_eq_ok.2 ⟨indexes, hindexes, rfl⟩⟩⟩⟩⟩⟩

/-- A table is created by one statement, which states its key, and its indexes by further ones. -/
theorem statements_eq_ok {c : TableCreation} {key : Column} {columns : List Column}
    {ss : List Statement} (hcolumns : c.columns = key :: columns) (hkey : key.primaryKey = true)
    (h : c.statements = .ok ss) :
    ∃ name names keys others indexes,
      List.Forall₂ Column.IsNamed (key :: columns) (name :: names) ∧
      ss = .createTable c.table
        (key.spec name :: (names.zip columns).map fun (name, col) => col.spec name)
        (.primaryKey keys :: others) :: indexes ∧
      ∀ s ∈ indexes, s.IsIndexWithin (name :: names) := by
  obtain ⟨known, names, uniques, indexes, -, hown, -, -, -, hindexes, rfl⟩ :=
    statements_parts_iff.1 h
  have hnames := forall₂_names hown
  rw [hcolumns] at hnames
  obtain ⟨name, names, -, -, rfl⟩ := List.forall₂_cons_left_iff.1 hnames
  obtain ⟨keys, hconstraint⟩ := keyConstraint_cons hkey name (names.zip columns)
  rw [hcolumns, List.zip_cons_cons, hconstraint]
  refine ⟨name, names, keys, uniques ++ ((name, key) :: names.zip columns).flatMap
    fun (own, col) => columnConstraints (KnownTables.own c.table (name :: names) :: known) c.table
      own col, indexes, hnames, ?_, fun s hs => ?_⟩
  · rw [List.append_assoc, List.singleton_append]
    rfl
  · obtain ⟨i, -, hi⟩ := Except.exists_of_mem_mapM hindexes hs
    exact i.isIndexWithin_statement hi

end TableCreation

/-- The reference of a column, as it is stated while the column is added. -/
def Column.inlineReference? (c : Column) : Option InlineReference :=
  c.reference?.map fun r => ⟨.ofValue r.model, .ofValue r.column, r.onDelete⟩

namespace ColumnAddition

variable {a : ColumnAddition} {known : KnownTables} {specs : List ColumnSpec} {col : Column}

/-- The statement of a column in SQLite defines one of the columns that are known, or one of its
    type; if it is known under its name, it defines that one. -/
theorem columnStatements_eq_ok {ss : List Statement}
    (h : a.columnStatements .sqlite known specs col = .ok ss) :
    ∃ found spec, columnOf (specs.map (·.name)) col.name = .ok found ∧
      ss = [.addColumn a.table spec false col.inlineReference?] ∧
      (spec ∈ specs ∨ spec.type = col.type) ∧
      ∀ name, col.name = .text name → (specs.map (·.name)).Nodup → col.spec name ∈ specs →
        spec = col.spec name := by
  obtain ⟨found, hfound, h⟩ := Except.bind_eq_ok.1 h
  obtain rfl := Except.ok.inj h
  refine ⟨found, (specs.find? fun s => s.name == found).getD (col.spec found), hfound,
    by simp [inlinesUnique, inlinesReference, Column.inlineReference?], ?_,
    fun name hname hspecs hcol => ?_⟩
  · cases hfind : specs.find? fun s => s.name == found with
    | none => exact .inr rfl
    | some spec => exact .inl (List.mem_of_find?_eq_some hfind)
  · have hmem : name ∈ specs.map (·.name) := List.mem_map.2 ⟨_, hcol, rfl⟩
    rw [hname, columnOf_text hmem] at hfound
    obtain rfl := Except.ok.inj hfound
    have hfind : (specs.find? fun s => s.name == name) = some (col.spec name) :=
      find?_of_nodup_map (f := ColumnSpec.name) hspecs hcol
    rw [hfind, Option.getD_some]

theorem names_specs {names : List String} {columns : List Column}
    (h : names.length = columns.length) :
    ((names.zip columns).map fun (name, col) => (col.spec name).name) = names := by
  have hfst : ((names.zip columns).map fun (name, col) => (col.spec name).name) =
      (names.zip columns).map Prod.fst := rfl
  rw [hfst, List.map_fst_zip (Nat.le_of_eq h)]

/-- The columns that an addition knows have the names that were checked. -/
theorem map_name_specs {own : List String} {columns : List Column} (d : Dialect)
    (further : List String) (h : own.length = columns.length) :
    (((own.zip columns).map fun ((name, col) : String × Column) => col.spec name) ++
      ((own ++ further).drop own.length).map fun name =>
        ColumnSpec.mk name d.idType false).map ColumnSpec.name = own ++ further := by
  rw [List.map_append, List.map_map, List.map_map, List.drop_left]
  exact congrArg₂ _ (names_specs h) (List.map_id _)

/-- A column is added by its statement under its name, if that is a text. -/
def Adds (a : ColumnAddition) (c : Column) (s : Statement) : Prop :=
  ∃ spec, s = .addColumn a.table spec false c.inlineReference? ∧
    (spec.type = Dialect.sqlite.idType ∨ ∃ c' ∈ a.columns, spec.type = c'.type) ∧
    ∀ name, c.name = .text name → spec = c.spec name

/-- A column of an addition is added by a single statement: it is looked up among the columns that
    are added and those that references to the table itself name. -/
theorem exists_adds {names further : List String} {ss : List Statement}
    (hnames : List.Forall₂ Column.IsNamed a.columns names)
    (hnodup : (((names.zip a.columns).map (fun ((name, col) : String × Column) => col.spec name) ++
      ((names ++ further).drop names.length).map fun name =>
        ColumnSpec.mk name Dialect.sqlite.idType false).map ColumnSpec.name).Nodup)
    (hcol : col ∈ a.columns)
    (h : a.columnStatements .sqlite known
      ((names.zip a.columns).map (fun ((name, col) : String × Column) => col.spec name) ++
        ((names ++ further).drop names.length).map fun name =>
          ColumnSpec.mk name Dialect.sqlite.idType false) col = .ok ss) :
    ∃ s, ss = [s] ∧ a.Adds col s := by
  obtain ⟨found, spec, -, rfl, htype, hspec⟩ := columnStatements_eq_ok h
  refine ⟨_, rfl, spec, rfl, ?_, fun text htext => ?_⟩
  · rcases htype with hmem | htype
    · rcases List.mem_append.1 hmem with hmem | hmem
      · obtain ⟨⟨name, c'⟩, hzip, rfl⟩ := List.mem_map.1 hmem
        exact .inr ⟨c', (List.of_mem_zip hzip).2, rfl⟩
      · obtain ⟨name, -, rfl⟩ := List.mem_map.1 hmem
        exact .inl rfl
    · exact .inr ⟨col, hcol, htype⟩
  · -- no two columns have the same name, so that the one that is found is this one
    obtain ⟨name, hname, hmem⟩ := exists_mem_zip_of_forall₂ hnames hcol
    obtain rfl := hname.eq htext
    exact hspec _ htext hnodup (List.mem_append_left _ (List.mem_map.2 ⟨_, hmem, rfl⟩))

/-- The indexes that stand for the uniqueness of columns, and those that are stated. -/
def allIndexes (a : ColumnAddition) : List Index :=
  (a.columns.filter (·.isUnique)).map (fun c => .uniqueOn [c.name]) ++ a.indexes

/-- What the statements of an addition are made of: those of its columns, the indexes for
    uniqueness and the stated ones. -/
theorem statements_parts_iff {d : Dialect} {ss : List Statement} :
    a.statements d = .ok ss ↔ ∃ others targets own further columns uniques indexes,
      KnownTables.ofColumns a.table a.columns = .ok others ∧ a.selfTargets = .ok targets ∧
      a.columnNames.mapM columnNamed = .ok own ∧ targets.mapM columnNamed = .ok further ∧
      checkNames a.table [] (own ++ further) = .ok () ∧
      (a.columns.mapM (a.columnStatements d
        (KnownTables.own a.table (own ++ further) :: others)
        ((own.zip a.columns).map (fun (name, col) => col.spec name) ++
          ((own ++ further).drop own.length).map fun name => ⟨name, d.idType, false⟩))) =
        .ok columns ∧
      a.uniqueIndexes d (own ++ further) = .ok uniques ∧
      (a.indexes.mapM fun i => i.statement a.table (own ++ further)) = .ok indexes ∧
      ss = columns.flatten ++ uniques ++ indexes := by
  constructor
  · intro h
    obtain ⟨others, hothers, h⟩ := Except.bind_eq_ok.1 h
    obtain ⟨targets, htargets, h⟩ := Except.bind_eq_ok.1 h
    obtain ⟨own, hown, h⟩ := Except.bind_eq_ok.1 h
    obtain ⟨further, hfurther, h⟩ := Except.bind_eq_ok.1 h
    obtain ⟨⟨⟩, hcheck, h⟩ := Except.bind_eq_ok.1 h
    obtain ⟨columns, hcolumns, h⟩ := Except.bind_eq_ok.1 h
    obtain ⟨uniques, huniques, h⟩ := Except.bind_eq_ok.1 h
    obtain ⟨indexes, hindexes, h⟩ := Except.bind_eq_ok.1 h
    exact ⟨others, targets, own, further, columns, uniques, indexes, hothers,
      Except.mapError_eq_ok.1 htargets, hown, hfurther, hcheck, hcolumns, huniques, hindexes,
      (Except.ok.inj h).symm⟩
  · rintro ⟨others, targets, own, further, columns, uniques, indexes, hothers, htargets, hown,
      hfurther, hcheck, hcolumns, huniques, hindexes, rfl⟩
    exact Except.bind_eq_ok.2 ⟨others, hothers, Except.bind_eq_ok.2 ⟨targets,
      Except.mapError_eq_ok.2 htargets, Except.bind_eq_ok.2 ⟨own, hown, Except.bind_eq_ok.2
        ⟨further, hfurther, Except.bind_eq_ok.2 ⟨(), hcheck, Except.bind_eq_ok.2 ⟨columns, hcolumns,
          Except.bind_eq_ok.2 ⟨uniques, huniques,
            Except.bind_eq_ok.2 ⟨indexes, hindexes, rfl⟩⟩⟩⟩⟩⟩⟩⟩

/-- The columns of an addition in SQLite are added one after the other, before any index.  Each is
    looked up among the columns of the addition and those that its references to the table itself
    name. -/
theorem statements_inv {ss : List Statement} (h : a.statements .sqlite = .ok ss) :
    ∃ targets own further adds indexes,
      a.selfTargets = .ok targets ∧ List.Forall₂ Column.IsNamed a.columns own ∧
      List.Forall₂ (fun v name => columnNamed v = .ok name) targets further ∧
      checkNames a.table [] (own ++ further) = .ok () ∧
      List.Forall₂ a.Adds a.columns adds ∧
      (∀ c ∈ a.columns, ∃ name, columnOf (own ++ further) c.name = .ok name) ∧
      a.allIndexes.mapM (·.statement a.table (own ++ further)) = .ok indexes ∧
      ss = adds ++ indexes := by
  obtain ⟨others, targets, names, further, columns, uniques, indexes, -, htargets, hown, hfurther,
    hcheck, hcolumns, huniques, hindexes, rfl⟩ := statements_parts_iff.1 h
  have hnames := forall₂_names hown
  have hspecs := map_name_specs .sqlite further hnames.length_eq.symm
  have hnodup := (checkNames_eq_ok.1 hcheck).2.1
  rw [← hspecs] at hnodup
  obtain ⟨adds, rfl, hadds⟩ := exists_map_of_forall₂ (f := fun s => [s]) (R := a.Adds)
    (Except.mapM_eq_ok.1 hcolumns) fun col hcol ss hss => exists_adds hnames hnodup hcol hss
  refine ⟨targets, names, further, adds, uniques ++ indexes, htargets, hnames,
    Except.mapM_eq_ok.1 hfurther, hcheck, hadds, fun c hc => ?_, ?_, ?_⟩
  · obtain ⟨ss, hss, -⟩ := exists_mem_zip_of_forall₂ (Except.mapM_eq_ok.1 hcolumns) hc
    obtain ⟨found, -, hfound, -⟩ := columnStatements_eq_ok hss
    exact ⟨found, hspecs ▸ hfound⟩
  · rw [allIndexes, Except.mapM_eq_ok]
    refine List.rel_append ?_ (Except.mapM_eq_ok.1 hindexes)
    rw [List.forall₂_map_left_iff, ← Except.mapM_eq_ok]
    exact huniques
  · rw [← List.append_assoc, ← List.flatMap_def, List.flatMap_singleton']

theorem statements_eq_ok {ss : List Statement} (h : a.statements .sqlite = .ok ss) :
    ∃ adds indexes, ss = adds ++ indexes ∧ List.Forall₂ a.Adds a.columns adds ∧
      ∀ s ∈ indexes, s.IsIndex := by
  obtain ⟨targets, own, further, adds, indexes, -, -, -, -, hadds, -, hindexes, rfl⟩ :=
    statements_inv h
  refine ⟨adds, indexes, rfl, hadds, fun s hs => ?_⟩
  obtain ⟨i, -, hi⟩ := Except.exists_of_mem_mapM hindexes hs
  exact (i.isIndexWithin_statement hi).isIndex

end ColumnAddition

end Accrete
