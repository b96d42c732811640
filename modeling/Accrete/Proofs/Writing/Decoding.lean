import Accrete.Field.Defined
import Accrete.Proofs.Writing.LookingAhead

/-!
# Targets read back

A reference is written as `model.column` and read in two ways: a declaration cuts the text at its
first point, and a foreign key at its last.  A reference that is stated with its column is not
written like this at all.

* `Field.define_target_iff`            -- when a declaration reads the same model and column
* `Statement.placesOf`                 -- what a statement has a column point at
* `TableCreation.exists_place`, `ColumnAddition.exists_place` -- what an operation has it point at
* `Reference.keepsTarget_iff`          -- what becomes of a reference on each of the three ways
-/

namespace Accrete

/-! ## Declarations -/

namespace Reference

theorem notMem_splitAtPoint (s : String) : '.' ∉ (splitAtPoint s).1.toList := by
  intro hmem
  rw [splitAtPoint, String.toList_ofList] at hmem
  simpa using List.mem_takeWhile_imp hmem

theorem splitAtPoint_of_notMem {model : String} (h : '.' ∉ model.toList) (column : String) :
    splitAtPoint (model ++ "." ++ column) = (model, column) := by
  have hplain : ∀ c ∈ model.toList, (c != '.') = true := fun c hc =>
    bne_iff_ne.2 fun heq => h (heq ▸ hc)
  have htext : (model ++ "." ++ column).toList = model.toList ++ '.' :: column.toList := by simp
  rw [splitAtPoint, htext, List.takeWhile_append_of_pos hplain,
    List.dropWhile_append_of_pos hplain]
  simp

/-- A text is read as what stands before its first point and what stands after it. -/
theorem ofText_eq (s : String) :
    ofText s = if (splitAtPoint s).1 = "" then .error (.atField none .modelMissing)
      else .ok ⟨.text (splitAtPoint s).1,
        .text (if (splitAtPoint s).2 = "" then defaultColumn else (splitAtPoint s).2), none⟩ := by
  rw [ofText]
  obtain ⟨model, column⟩ := splitAtPoint s
  by_cases hmodel : model = "" <;> by_cases hcolumn : column = "" <;>
    simp [make, readAction, Value.isTruthy, hmodel, hcolumn, throw, throwThe,
      MonadExceptOf.throw, bind, Except.bind, pure, Except.pure]

/-- A written target is read as the same model and column unless there is a point in the name of the
    model. -/
theorem ofText_target_iff {model column : String} (hmodel : model ≠ "") (hcolumn : column ≠ "")
    (action : Option OnDelete) :
    ofText (target ⟨.text model, .text column, action⟩) =
      .ok ⟨.text model, .text column, none⟩ ↔ '.' ∉ model.toList := by
  have htarget : target ⟨.text model, .text column, action⟩ = model ++ "." ++ column := rfl
  rw [htarget, ofText_eq]
  constructor
  · intro h
    have hfirst := notMem_splitAtPoint (model ++ "." ++ column)
    split at h
    · cases h
    · obtain ⟨hread, -, -⟩ := Reference.mk.inj (Except.ok.inj h)
      rwa [Value.text.inj hread] at hfirst
  · intro h
    rw [splitAtPoint_of_notMem h, if_neg hmodel, if_neg hcolumn]

end Reference

/-- A field that is declared by the written target of a reference has the same reference, its action
    apart, unless there is a point in the name of the model. -/
theorem Field.define_target_iff {model column : String} (hmodel : model ≠ "")
    (hcolumn : column ≠ "") (action : Option OnDelete) {type : Value}
    (htype : (LogicalType.ofValue? type).isSome)
    (required unique bigint indexed fieldName default : Value) :
    (∃ f, Field.define type required unique bigint indexed fieldName
        (.text (Reference.target ⟨.text model, .text column, action⟩)) default = .ok f ∧
      f.references = .reference ⟨.text model, .text column, none⟩) ↔ '.' ∉ model.toList := by
  obtain ⟨t, ht⟩ := Option.isSome_iff_exists.1 htype
  rw [← Reference.ofText_target_iff hmodel hcolumn action]
  generalize Reference.target ⟨.text model, .text column, action⟩ = s
  have hread : ∀ v, definedReference (.text s) = .ok v ↔
      ∃ r, Reference.ofText s = .ok r ∧ .reference r = v := fun v =>
    Except.mapError_eq_ok.trans Except.map_eq_ok
  simp only [define, ht, Except.bind_eq_ok, hread]
  constructor
  · rintro ⟨f, ⟨v, ⟨r, hr, rfl⟩, hf⟩, hreferences⟩
    obtain rfl := Except.ok.inj hf
    obtain rfl := Value.reference.inj hreferences
    exact hr
  · intro hr
    exact ⟨_, ⟨_, ⟨_, hr, rfl⟩, rfl⟩, rfl⟩

/-! ## Foreign keys -/

theorem notMem_writtenTarget (p : String × String) : '.' ∉ (writtenTarget p).2.toList := by
  intro hmem
  rw [writtenTarget, KnownTables.splitAtLastPoint, String.toList_ofList, List.mem_reverse] at hmem
  simpa using List.mem_takeWhile_imp hmem

/-- A foreign key reads what was written unless there is a point in the name of the column. -/
theorem writtenTarget_eq_iff {p : String × String} :
    p = writtenTarget p ↔ '.' ∉ p.2.toList :=
  ⟨fun h => h ▸ notMem_writtenTarget p, fun h => (writtenTarget_of_notMem h).symm⟩

/-- A foreign key of an operation points where its reference says, unless there is a point in the
    name of the column that is referenced, or the operation's own table is not known to have it. -/
theorem KnownTables.place?_resolve_iff {table : String} {columns : List Column}
    {names : List String} {others : KnownTables}
    (typed : ∀ c ∈ columns, c.references.IsTypedReference)
    (hothers : ofColumns table columns = .ok others) {model column : String}
    (hmem : (model, column) ∈ columnTargets columns) (name : String) (action : Option OnDelete) :
    (resolve (own table names :: others) table name
        ⟨.text model, .text column, action⟩).place? = some (model, column) ↔
      '.' ∉ column.toList ∧ (model = table → column ∈ names) := by
  have hkeys : ∀ k ∈ own table names :: others, ∃ name, k.key = .text name :=
    List.forall_mem_cons.2 ⟨⟨table, rfl⟩, exists_key_eq typed hothers⟩
  rw [place?_resolve hkeys (p := (model, column)) rfl, writtenTarget_eq_iff, has_cons rfl,
    has_ofColumns typed hothers]
  by_cases h : table = model
  · simp [h, own]
  · simp [h, Ne.symm h, hmem]

/-- The places that a constraint has a column point at. -/
def Constraint.placesOf (name : String) : Constraint → List (Option (String × String))
  | .foreignKey key => if key.column = name then [key.target.place?] else []
  | _ => []

namespace Statement

/-- What a statement has a column point at, by a foreign key or by a reference that is stated with
    the column: the table and the column, if they can be told. -/
def placesOf (name : String) : Statement → List (Option (String × String))
  | .createTable _ _ constraints => constraints.flatMap (·.placesOf name)
  | .addColumn _ column _ references =>
    if column.name = name then references.toList.map (·.place?) else []
  | .addForeignKey _ key => (Constraint.foreignKey key).placesOf name
  | .createIndex .. => []

theorem IsIndex.placesOf {s : Statement} (h : s.IsIndex) (name : String) :
    s.placesOf name = [] := by
  cases s with
  | createIndex => rfl
  | createTable | addColumn | addForeignKey => exact h.elim

theorem flatMap_placesOf_indexes {ss : List Statement} (h : ∀ s ∈ ss, s.IsIndex) (name : String) :
    ss.flatMap (·.placesOf name) = [] :=
  List.flatMap_eq_nil_iff.2 fun s hs => (h s hs).placesOf name

end Statement

/-- Columns that can be stated: they are named by texts, no two alike and none of them blank, and so
    is what they reference. -/
structure Column.AreSound (columns : List Column) : Prop where
  names : ∃ ns : List String, columns.map (·.name) = ns.map .text ∧ ns.Nodup ∧ "" ∉ ns
  references : ∀ col ∈ columns, col.references.IsTypedReference
  targets : ∀ p ∈ columnTargets columns, p.2 ≠ ""

/-- What is stated under the key of an item, where items have distinct keys. -/
theorem flatMap_eq_of_forall₂ {α β γ δ : Type} {xs : List α} {ys : List β} {key : α → γ}
    {f : β → List δ} {stated : α → List δ} {x : α}
    (h : List.Forall₂ (fun x' y => (key x' = key x → f y = stated x') ∧
      (key x' ≠ key x → f y = [])) xs ys)
    (nodup : (xs.map key).Nodup) (hx : x ∈ xs) : ys.flatMap f = stated x := by
  induction h with
  | nil => exact absurd hx List.not_mem_nil
  | @cons x' y xs ys hxy hrest ih =>
    obtain ⟨hnew, hnodup⟩ := List.nodup_cons.1 nodup
    rw [List.flatMap_cons]
    rcases List.mem_cons.1 hx with rfl | hx
    · -- no later item has the same key
      have hnone : ys.flatMap f = [] := by
        refine List.flatMap_eq_nil_iff.2 fun y' hy' => ?_
        obtain ⟨x', hx'y', hmem⟩ := exists_mem_zip_of_forall₂ hrest.flip hy'
        refine hx'y'.2 fun hkey => hnew ?_
        exact hkey ▸ List.mem_map_of_mem (List.of_mem_zip hmem).1
      rw [hxy.1 rfl, hnone, List.append_nil]
    · have hne : key x' ≠ key x := fun hkey => hnew (hkey ▸ List.mem_map_of_mem hx)
      rw [hxy.2 hne, ih hnodup hx, List.nil_append]

theorem exists_texts_of_subset {vs : List Value} {ns : List String}
    (h : ∀ v ∈ vs, v ∈ ns.map Value.text) :
    ∃ ss : List String, vs = ss.map .text ∧ ∀ s ∈ ss, s ∈ ns := by
  induction vs with
  | nil => exact ⟨[], rfl, by simp⟩
  | cons v vs ih =>
    obtain ⟨hv, hvs⟩ := List.forall_mem_cons.1 h
    obtain ⟨s, hs, rfl⟩ := List.mem_map.1 hv
    obtain ⟨ss, rfl, hss⟩ := ih hvs
    exact ⟨s :: ss, rfl, List.forall_mem_cons.2 ⟨hs, hss⟩⟩

namespace TableCreation

variable {c : TableCreation} {known : KnownTables} {table own : String} {col : Column}

theorem placesOf_columnConstraints (name : String) :
    (columnConstraints known table own col).flatMap (·.placesOf name) =
      if own = name then
        col.reference?.toList.map fun r => (known.resolve table own r).place? else [] := by
  have hunique : (if col.bringsUnique then [Constraint.unique [own]] else []).flatMap
      (·.placesOf name) = [] := by
    split <;> rfl
  rw [columnConstraints, List.flatMap_append, hunique, List.nil_append]
  cases col.reference? with
  | none => simp
  | some r => simp [Constraint.placesOf]

theorem placesOf_keyConstraint (columns : List (String × Column)) (name : String) :
    (keyConstraint columns).flatMap (·.placesOf name) = [] := by
  rw [keyConstraint]
  split <;> rfl

theorem placesOf_uniqueConstraints {groups : List Columns} {names : List String}
    {uniques : List Constraint} (h : groups.mapM (uniqueConstraint table names) = .ok uniques)
    (name : String) : uniques.flatMap (·.placesOf name) = [] := by
  refine List.flatMap_eq_nil_iff.2 fun k hk => ?_
  obtain ⟨group, -, hk⟩ := Except.exists_of_mem_mapM h hk
  obtain ⟨columns, -, hk⟩ := Except.bind_eq_ok.1 hk
  obtain rfl := Except.ok.inj hk
  rfl

/-- Columns that can be stated, with constraints and indexes over no others. -/
structure IsSound (c : TableCreation) : Prop where
  columns : Column.AreSound c.columns
  groups : ∀ g ∈ c.uniqueConstraints ++ c.indexes.map (·.columns), ∀ v ∈ g, v ∈ c.columnNames

/-- The statements of a creation with sound columns. -/
theorem IsSound.exists_statements (sound : c.IsSound) :
    ∃ ns others uniques indexes, c.columnNames = ns.map .text ∧ ns.Nodup ∧
      KnownTables.ofColumns c.table c.columns = .ok others ∧
      c.uniqueConstraints.mapM (uniqueConstraint c.table ns) = .ok uniques ∧
      (∀ s ∈ indexes, s.IsIndex) ∧
      c.statements = .ok (.createTable c.table
        ((ns.zip c.columns).map fun (name, col) => col.spec name)
        (keyConstraint (ns.zip c.columns) ++ uniques ++ (ns.zip c.columns).flatMap
          fun (name, col) =>
            columnConstraints (KnownTables.own c.table ns :: others) c.table name col) ::
        indexes) := by
  obtain ⟨ns, hns, hnodup, hblank⟩ := sound.columns.names
  have hgroup : ∀ g ∈ c.uniqueConstraints ++ c.indexes.map (·.columns),
      ∃ ss : List String, g = ss.map .text ∧ ∀ s ∈ ss, s ∈ ns := fun g hg =>
    exists_texts_of_subset fun v hv => hns ▸ sound.groups g hg v hv
  obtain ⟨others, hothers⟩ := (KnownTables.exists_ofColumns_iff sound.columns.references c.table).2
    fun p hp _ => sound.columns.targets p hp
  have hnames : c.columnNames.mapM columnNamed = .ok ns := by
    rw [columnNames, hns]
    exact KnownTables.mapM_columnNamed_text ns
  have hchecked : c.uniqueConstraints.forM checkGroup = .ok () := by
    refine Except.forM_eq_ok.2 fun g hg => ?_
    obtain ⟨ss, rfl, -⟩ := hgroup g (List.mem_append_left _ hg)
    exact checkGroup_map_text ss
  obtain ⟨uniques, huniques, -⟩ := exists_uniqueConstraints (d := .sqlite) c.table
    fun g hg => hgroup g (List.mem_append_left _ hg)
  -- the columns of an index are all known, so that it has a statement
  have hindexes : (c.indexes.mapM fun i => i.statement c.table ns) =
      .ok (c.indexes.map (·.plainStatement c.table)) := by
    rw [Except.mapM_eq_ok, List.forall₂_map_right_iff, List.forall₂_same]
    intro i hi
    obtain ⟨ss, hss, hknown⟩ := hgroup i.columns (List.mem_append_right _ (List.mem_map_of_mem hi))
    exact Index.statement_eq hss hknown c.table
  refine ⟨ns, others, uniques, _, hns, hnodup, hothers, huniques, ?_,
    statements_parts_iff.2 ⟨others, ns, uniques, _, hothers, hnames, hchecked,
      checkNames_eq_ok.2 ⟨hblank, hnodup, by simp⟩, huniques, hindexes, rfl⟩⟩
  rw [List.forall_mem_map]
  exact fun i _ => True.intro

/-- A column of a creation points where its reference says, unless there is a point in the name of
    the column that is referenced, or the table has no such column itself. -/
theorem exists_place (sound : c.IsSound) (hcol : col ∈ c.columns) {name model column : String}
    {action : Option OnDelete} (hname : col.name = .text name)
    (href : col.references = .reference ⟨.text model, .text column, action⟩) :
    ∃ ss place, c.statements = .ok ss ∧ ss.flatMap (·.placesOf name) = [place] ∧
      (place = some (model, column) ↔
        '.' ∉ column.toList ∧ (model = c.table → .text column ∈ c.columnNames)) := by
  obtain ⟨ns, others, uniques, indexes, hns, hnodup, hothers, huniques, hindexes, hss⟩ :=
    sound.exists_statements
  have hlength : ns.length = c.columns.length := by
    simpa [columnNames] using (congrArg List.length hns).symm
  have hnamed : (c.columns.map (·.name)).mapM columnNamed = .ok ns := by
    rw [← columnNames, hns]
    exact KnownTables.mapM_columnNamed_text ns
  have hnames := forall₂_names hnamed
  obtain ⟨own, hown, hzip⟩ := exists_mem_zip_of_forall₂ hnames hcol
  obtain rfl := hown.eq hname
  have hreference : col.reference? = some ⟨.text model, .text column, action⟩ := by
    rw [Column.reference?, href]
  have htarget : (model, column) ∈ columnTargets c.columns :=
    List.mem_filterMap.2 ⟨col, hcol, by rw [href]; rfl⟩
  refine ⟨_, (KnownTables.resolve (KnownTables.own c.table ns :: others) c.table name
    ⟨.text model, .text column, action⟩).place?, hss, ?_, ?_⟩
  · rw [List.flatMap_cons, Statement.flatMap_placesOf_indexes hindexes, List.append_nil,
      Statement.placesOf, List.flatMap_append, List.flatMap_append, placesOf_keyConstraint,
      placesOf_uniqueConstraints huniques, List.flatMap_assoc, List.nil_append, List.nil_append]
    -- the constraints of the other columns are about other names
    have hstated : ∀ x ∈ ns.zip c.columns,
        (x.1 = name → (columnConstraints (KnownTables.own c.table ns :: others) c.table x.1
          x.2).flatMap (·.placesOf name) = x.2.reference?.toList.map fun r =>
            (KnownTables.resolve (KnownTables.own c.table ns :: others) c.table name r).place?) ∧
        (x.1 ≠ name → (columnConstraints (KnownTables.own c.table ns :: others) c.table x.1
          x.2).flatMap (·.placesOf name) = []) := by
      rintro ⟨own, col'⟩ -
      rw [placesOf_columnConstraints]
      refine ⟨?_, fun hne => if_neg hne⟩
      rintro rfl
      exact if_pos rfl
    have hfst : ((ns.zip c.columns).map Prod.fst).Nodup := by
      rwa [List.map_fst_zip (Nat.le_of_eq hlength)]
    rw [flatMap_eq_of_forall₂ (List.forall₂_same.2 hstated) hfst hzip, hreference]
    rfl
  · rw [KnownTables.place?_resolve_iff sound.columns.references hothers htarget, hns,
      Value.text_mem_map]

end TableCreation

namespace ColumnAddition

variable {a : ColumnAddition} {d : Dialect} {col : Column}

/-- Columns that can be stated, with indexes over no others. -/
structure IsSound (a : ColumnAddition) : Prop where
  columns : Column.AreSound a.columns
  groups : ∀ i ∈ a.indexes, ∀ v ∈ i.columns, v ∈ a.columnNames

/-- The statements of an addition with sound columns. -/
theorem IsSound.exists_statements (sound : a.IsSound) (d : Dialect) :
    ∃ ns further others specs blocks indexes, a.columnNames = ns.map .text ∧ ns.Nodup ∧
      (∀ s, s ∈ further ↔ (a.table, s) ∈ columnTargets a.columns ∧ s ∉ ns) ∧
      KnownTables.ofColumns a.table a.columns = .ok others ∧
      List.Forall₂ (fun col ss => a.columnStatements d
        (KnownTables.own a.table (ns ++ further) :: others) specs col = .ok ss) a.columns blocks ∧
      (∀ s ∈ indexes, s.IsIndex) ∧ a.statements d = .ok (blocks.flatten ++ indexes) := by
  obtain ⟨ns, hns, hnodup, hblank⟩ := sound.columns.names
  obtain ⟨further, htargets, hfurtherNodup, hfurther⟩ :=
    exists_selfTargets hns sound.columns.references
  obtain ⟨others, hothers⟩ := (KnownTables.exists_ofColumns_iff sound.columns.references a.table).2
    fun p hp _ => sound.columns.targets p hp
  have hown : a.columnNames.mapM columnNamed = .ok ns := by
    rw [columnNames, hns]
    exact KnownTables.mapM_columnNamed_text ns
  have hlength : ns.length = a.columns.length := by
    simpa [columnNames] using (congrArg List.length hns).symm
  have hcheck : checkNames a.table [] (ns ++ further) = .ok () := by
    refine checkNames_eq_ok.2 ⟨?_, List.nodup_append.2 ⟨hnodup, hfurtherNodup, ?_⟩, by simp⟩
    · refine fun hmem => (List.mem_append.1 hmem).elim hblank fun hmem => ?_
      exact sound.columns.targets _ ((hfurther "").1 hmem).1 rfl
    · rintro s hs _ hmem rfl
      exact ((hfurther s).1 hmem).2 hs
  have huniques : a.uniqueIndexes d (ns ++ further) = .ok (a.uniqueStatements d) :=
    uniqueIndexes_eq hns fun s hs => List.mem_append_left _ hs
  have hindexes : (a.indexes.mapM fun i => i.statement a.table (ns ++ further)) =
      .ok a.indexStatements := by
    rw [Except.mapM_eq_ok, indexStatements, List.forall₂_map_right_iff, List.forall₂_same]
    intro i hi
    have hin : ∀ v ∈ i.columns, v ∈ ns.map Value.text := hns ▸ sound.groups i hi
    obtain ⟨ss, hss, hknown⟩ := exists_texts_of_subset hin
    exact Index.statement_eq hss (fun s hs => List.mem_append_left _ (hknown s hs)) a.table
  -- a column is found among the ones that are added
  have hcolumns : ∀ specs : List ColumnSpec, specs.map (·.name) = ns ++ further →
      ∃ blocks, (a.columns.mapM (a.columnStatements d
        (KnownTables.own a.table (ns ++ further) :: others) specs)) = .ok blocks := by
    intro specs hspecs
    refine Except.exists_mapM_iff.2 fun col hcol => ?_
    obtain ⟨name, hname, htext⟩ := exists_name_eq hns hcol
    have hfound : columnOf (specs.map (·.name)) col.name = .ok name := by
      rw [htext, hspecs]
      exact columnOf_text (List.mem_append_left _ hname)
    exact ⟨_, Except.bind_eq_ok.2 ⟨name, hfound, rfl⟩⟩
  obtain ⟨blocks, hblocks⟩ := hcolumns _ (map_name_specs d further hlength)
  refine ⟨ns, further, others, _, blocks, a.uniqueStatements d ++ a.indexStatements, hns, hnodup,
    hfurther, hothers, Except.mapM_eq_ok.1 hblocks, ?_, ?_⟩
  · refine List.forall_mem_append.2 ⟨isIndex_of_mem_uniqueIndexes huniques, ?_⟩
    rw [indexStatements, List.forall_mem_map]
    exact fun i _ => True.intro
  · rw [← List.append_assoc]
    exact statements_parts_iff.2 ⟨others, _, ns, further, blocks, _, _, hothers, htargets, hown,
      KnownTables.mapM_columnNamed_text further, hcheck, hblocks, huniques, hindexes, rfl⟩

theorem placesOf_columnStatements {known : KnownTables} {specs : List ColumnSpec}
    {ss : List Statement} (h : a.columnStatements d known specs col = .ok ss) {own : String}
    (hown : col.name = .text own) (name : String) :
    ss.flatMap (·.placesOf name) = if own = name then
      (if inlinesReference d then col.inlineReference?.toList.map (·.place?)
        else col.reference?.toList.map fun r => (known.resolve a.table own r).place?)
      else [] := by
  obtain ⟨found, spec, unique, hfound, rfl, rfl⟩ := columnStatements_inv h
  have hspec : some own = some spec.name := by
    simpa [hown, Value.text?, Value.numeral?] using (columnOf_eq_ok hfound).2
  obtain rfl := Option.some.inj hspec
  by_cases hname : spec.name = name
  · by_cases hinlines : inlinesReference d = true <;> cases hreference : col.reference? <;>
      simp [Statement.placesOf, Constraint.placesOf, Column.inlineReference?, hname, hinlines,
        hreference]
  · by_cases hinlines : inlinesReference d = true <;> cases hreference : col.reference? <;>
      simp [Statement.placesOf, Constraint.placesOf, Column.inlineReference?, hname, hinlines,
        hreference]

/-- A column of an addition points where its reference says, unless in MySQL there is a point in the
    name of the column that is referenced. -/
theorem exists_place (sound : a.IsSound) (d : Dialect) (hcol : col ∈ a.columns)
    {name model column : String} {action : Option OnDelete} (hname : col.name = .text name)
    (href : col.references = .reference ⟨.text model, .text column, action⟩) :
    ∃ ss place, a.statements d = .ok ss ∧ ss.flatMap (·.placesOf name) = [place] ∧
      (place = some (model, column) ↔ (d = .mysql → '.' ∉ column.toList)) := by
  obtain ⟨ns, further, others, specs, blocks, indexes, hns, hnodup, hfurther, hothers, hblocks,
    hindexes, hss⟩ := sound.exists_statements d
  have hreference : col.reference? = some ⟨.text model, .text column, action⟩ := by
    rw [Column.reference?, href]
  have htarget : (model, column) ∈ columnTargets a.columns :=
    List.mem_filterMap.2 ⟨col, hcol, by rw [href]; rfl⟩
  have hnames : (a.columns.map (·.name)).Nodup := by
    rw [← columnNames, hns]
    exact hnodup.map fun _ _ => Value.text.inj
  -- what is stated for a column is stated under its name
  have hstated : List.Forall₂ (fun c ss =>
      (c.name = col.name → ss.flatMap (·.placesOf name) = if inlinesReference d then
        c.inlineReference?.toList.map (·.place?) else c.reference?.toList.map fun r =>
          (KnownTables.resolve (KnownTables.own a.table (ns ++ further) :: others) a.table name
            r).place?) ∧
      (c.name ≠ col.name → ss.flatMap (·.placesOf name) = [])) a.columns blocks := by
    have hmem := (List.forall₂_and_left (p := (· ∈ a.columns)) _ _).2 ⟨fun c hc => hc, hblocks⟩
    refine hmem.imp fun c ss hread => ?_
    obtain ⟨hc, h⟩ := hread
    obtain ⟨own, -, hown⟩ := exists_name_eq hns hc
    rw [placesOf_columnStatements h hown, hown, hname]
    refine ⟨?_, fun hne => if_neg fun hkey => hne (congrArg _ hkey)⟩
    intro hkey
    rw [if_pos (Value.text.inj hkey), Value.text.inj hkey]
  have hplaces : (blocks.flatten ++ indexes).flatMap (·.placesOf name) =
      if inlinesReference d then [some (model, column)] else
        [(KnownTables.resolve (KnownTables.own a.table (ns ++ further) :: others) a.table name
          ⟨.text model, .text column, action⟩).place?] := by
    rw [List.flatMap_append, Statement.flatMap_placesOf_indexes hindexes, List.append_nil,
      ← List.flatMap_id, List.flatMap_assoc]
    simp only [id]
    rw [flatMap_eq_of_forall₂ hstated hnames hcol, Column.inlineReference?, hreference]
    rfl
  by_cases hd : d = .mysql
  · subst hd
    refine ⟨_, _, hss, hplaces, ?_⟩
    rw [KnownTables.place?_resolve_iff sound.columns.references hothers htarget,
      forall_prop_of_true rfl]
    refine and_iff_left ?_
    rintro rfl
    -- what the table references in itself and does not add is known to be there
    by_cases hadded : column ∈ ns
    · exact List.mem_append_left _ hadded
    · exact List.mem_append_right _ ((hfurther column).2 ⟨htarget, hadded⟩)
  · have hinlines : inlinesReference d = true := by cases d <;> simp_all [inlinesReference]
    rw [if_pos hinlines] at hplaces
    exact ⟨_, _, hss, hplaces, iff_of_true rfl fun h => absurd h hd⟩

end ColumnAddition

/-! ## All ways -/

namespace Reference

/-- A reference by a model and a column is read from its written target just if there is no point in
    the name of the model.  A column that states it points there, when its table is created, just if
    there is none in the name of the column, and the table has that column if it references itself.
    When the column is added this is so in MySQL, and in other dialects it always points there. -/
theorem keepsTarget_iff {model column : String} (hmodel : model ≠ "") (hcolumn : column ≠ "")
    (action : Option OnDelete) :
    (∀ type required unique bigint indexed fieldName default : Value,
      (LogicalType.ofValue? type).isSome →
        ((∃ f, Field.define type required unique bigint indexed fieldName
            (.text (target ⟨.text model, .text column, action⟩)) default = .ok f ∧
          f.references = .reference ⟨.text model, .text column, none⟩) ↔ '.' ∉ model.toList)) ∧
    (∀ c : TableCreation, c.IsSound → ∀ col ∈ c.columns, ∀ name, col.name = .text name →
      col.references = .reference ⟨.text model, .text column, action⟩ →
        ∃ ss place, c.statements = .ok ss ∧ ss.flatMap (·.placesOf name) = [place] ∧
          (place = some (model, column) ↔
            '.' ∉ column.toList ∧ (model = c.table → .text column ∈ c.columnNames))) ∧
    ∀ a : ColumnAddition, a.IsSound → ∀ d : Dialect, ∀ col ∈ a.columns, ∀ name,
      col.name = .text name → col.references = .reference ⟨.text model, .text column, action⟩ →
        ∃ ss place, a.statements d = .ok ss ∧ ss.flatMap (·.placesOf name) = [place] ∧
          (place = some (model, column) ↔ (d = .mysql → '.' ∉ column.toList)) := by
  refine ⟨fun type required unique bigint indexed fieldName default htype => ?read,
    fun c sound col hcol name hname href => ?created,
    fun a sound d col hcol name hname href => ?added⟩
  case read =>
    exact Field.define_target_iff hmodel hcolumn action htype required unique bigint indexed
      fieldName default
  case created => exact TableCreation.exists_place sound hcol hname href
  case added => exact ColumnAddition.exists_place sound d hcol hname href

/-- The author of a post. -/
def author (model column : String) : Column :=
  ⟨.text "author", "text", true, false, .bool false,
    .reference ⟨.text model, .text column, none⟩⟩

def authoredCreation (model column : String) : TableCreation :=
  ⟨"post", [Table.keyColumn .mysql, author model column], Number.infinity, [[.text "author"]], []⟩

def authoredAddition (model column : String) : ColumnAddition :=
  ⟨"post", [author model column], Number.infinity, [⟨[.text "author"], false, none⟩]⟩

theorem areSound_author (model : String) {column : String} (hcolumn : column ≠ "") :
    Column.AreSound [Table.keyColumn .mysql, author model column] ∧
      Column.AreSound [author model column] := by
  have htyped : (author model column).references.IsTypedReference := .inr rfl
  have hkey : (Table.keyColumn .mysql).references.IsTypedReference := .inl rfl
  refine ⟨⟨⟨["id", "author"], rfl, by decide, by decide⟩, ?_, ?_⟩,
    ⟨⟨["author"], rfl, by decide, by decide⟩, ?_, ?_⟩⟩
  · simp [htyped, hkey]
  · simpa [columnTargets, author, Table.keyColumn, Value.target?] using hcolumn
  · simp [htyped]
  · simpa [columnTargets, author, Value.target?] using hcolumn

theorem isSound_authored (model : String) {column : String} (hcolumn : column ≠ "") :
    (authoredCreation model column).IsSound ∧ (authoredAddition model column).IsSound := by
  obtain ⟨hcreated, hadded⟩ := areSound_author model hcolumn
  refine ⟨⟨hcreated, ?_⟩, ⟨hadded, ?_⟩⟩
  · simp [authoredCreation, TableCreation.columnNames, author]
  · simp [authoredAddition, ColumnAddition.columnNames, author]

theorem author_keepsTarget :
    "user" ≠ "" ∧ "email" ≠ "" ∧
      (∃ f, Field.define (.text "string") (.bool true) (.bool false) (.bool false) (.bool false)
          .null (.text "user.email") .null = .ok f ∧
        f.references = .reference ⟨.text "user", .text "email", none⟩) ∧
      (∃ ss, (authoredCreation "user" "email").statements = .ok ss ∧
        ss.flatMap (·.placesOf "author") = [some ("user", "email")]) ∧
      ∃ ss, (authoredAddition "user" "email").statements .mysql = .ok ss ∧
        ss.flatMap (·.placesOf "author") = [some ("user", "email")] := by
  have hmodel : "user" ≠ "" := by decide
  have hcolumn : "email" ≠ "" := by decide
  obtain ⟨hsoundCreation, hsoundAddition⟩ := isSound_authored "user" hcolumn
  obtain ⟨hread, hcreated, hadded⟩ := keepsTarget_iff hmodel hcolumn none
  refine ⟨hmodel, hcolumn, (hread _ _ _ _ _ _ _ rfl).2 (by decide), ?_, ?_⟩
  · obtain ⟨ss, place, hss, hplaces, hplace⟩ := hcreated _ hsoundCreation (author "user" "email")
      (by simp [authoredCreation]) "author" rfl rfl
    exact ⟨ss, hss, hplace.2 ⟨by decide, fun h => absurd h (by decide)⟩ ▸ hplaces⟩
  · obtain ⟨ss, place, hss, hplaces, hplace⟩ := hadded _ hsoundAddition .mysql
      (author "user" "email") (by simp [authoredAddition]) "author" rfl rfl
    exact ⟨ss, hss, hplace.2 (fun _ => by decide) ▸ hplaces⟩

/-- A table in a schema is read as the schema, with the table in the name of the column.  A column
    with a point in its name is read as one of another table. -/
theorem dotted_loses_target :
    (∃ f, Field.define (.text "string") (.bool true) (.bool false) (.bool false) (.bool false)
        .null (.text (target ⟨.text "public.user", .text "id", none⟩)) .null = .ok f ∧
      f.references = .reference ⟨.text "public", .text "user.id", none⟩) ∧
    (∃ ss place, (authoredCreation "user" "full.name").statements = .ok ss ∧
      ss.flatMap (·.placesOf "author") = [place] ∧ place ≠ some ("user", "full.name")) ∧
    ∃ ss place, (authoredAddition "user" "full.name").statements .mysql = .ok ss ∧
      ss.flatMap (·.placesOf "author") = [place] ∧ place ≠ some ("user", "full.name") := by
  have hcolumn : "full.name" ≠ "" := by decide
  obtain ⟨hsoundCreation, hsoundAddition⟩ := isSound_authored "user" hcolumn
  refine ⟨⟨_, rfl, rfl⟩, ?_, ?_⟩
  · obtain ⟨ss, place, hss, hplaces, hplace⟩ := TableCreation.exists_place hsoundCreation
      (List.mem_cons_of_mem _ List.mem_cons_self) rfl rfl
    exact ⟨ss, place, hss, hplaces, fun h => absurd (hplace.1 h).1 (by decide)⟩
  · obtain ⟨ss, place, hss, hplaces, hplace⟩ := ColumnAddition.exists_place hsoundAddition .mysql
      List.mem_cons_self rfl rfl
    exact ⟨ss, place, hss, hplaces, fun h => absurd (hplace.1 h rfl) (by decide)⟩

end Reference

end Accrete
