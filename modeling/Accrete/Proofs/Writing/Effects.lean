import Accrete.Proofs.Keys
import Accrete.Proofs.Planning.Compiling

/-!
# What additions do

The statements of an addition, read as what they do to a database: which columns they add, which of
them they make unique, and which foreign keys and indexes they create.  Dialects differ in how this
is stated and in nothing else.

* `Effect`, `Statement.effects?`       -- what a statement does
* `ColumnAddition.effects`             -- what an addition is meant to do
* `Extension.statements_addition_iff`  -- the statements of an addition, written out
* `Plan.effects_addition`              -- which do the same in every dialect
-/

namespace Accrete

/-! ## Effects -/

/-- What a statement that adds to a table does to a database. -/
inductive Effect where
  | column (table : String) (spec : ColumnSpec)
  /-- The values of a column may not repeat. -/
  | unique (table column : String)
  | foreignKey (table column target targetColumn : String) (action : Option String)
  | index (table name : String) (columns : List String) (unique : Bool)
deriving DecidableEq

/-- What an index does.  A unique index of one column, under the name that is made for it, makes the
    column unique. -/
def Effect.ofIndex (table name : String) (columns : List String) (unique : Bool) : Effect :=
  match columns with
  | [c] =>
    if unique && name == "uq" ++ "_" ++ table ++ "_" ++ c then .unique table c
    else .index table name columns unique
  | _ => .index table name columns unique

/-- The name that is written, quoted or not. -/
def Written.name? : Written → Option String
  | .name s => some s
  | .quoted s => some s
  | .unwritable _ => none

/-- The foreign key that a reference stands for.  The letter case of its action does not count. -/
def InlineReference.effect? (r : InlineReference) (table column : String) : Option Effect := do
  return .foreignKey table column (← r.table.name?) (← r.column.name?)
    (r.onDelete.map fun o => Text.asciiUpper o.action)

/-- A foreign key that finds its target, and whose action is one of SQL's phrases. -/
def ForeignKey.effect? (k : ForeignKey) (table : String) : Option Effect :=
  match k.target with
  | .missing _ => none
  | .found t c =>
    if k.onDelete.all OnDelete.isPhrase then
      some (.foreignKey table k.column t c (k.onDelete.map fun o => Text.asciiUpper o.spelling))
    else none

/-- What a statement does, if it can be written.  A table that is created is not added to. -/
def Statement.effects? : Statement → Option (List Effect)
  | .createTable .. => none
  | .addColumn table column unique references => do
    let keys ← references.toList.mapM (·.effect? table column.name)
    return .column table column :: ((if unique then [.unique table column.name] else []) ++ keys)
  | .addForeignKey table key => return [← key.effect? table]
  | .createIndex name table columns unique => some [.ofIndex table name columns unique]

/-- What statements do, one after the other. -/
def effects? : List Statement → Option (List Effect)
  | [] => some []
  | s :: ss => do return (← s.effects?) ++ (← effects? ss)

theorem effects?_append {ss ss' : List Statement} {es es' : List Effect} (h : effects? ss = some es)
    (h' : effects? ss' = some es') : effects? (ss ++ ss') = some (es ++ es') := by
  induction ss generalizing es with
  | nil =>
    obtain rfl := Option.some.inj h
    exact h'
  | cons s ss ih =>
    obtain ⟨e, he, h⟩ := Option.bind_eq_some_iff.1 h
    obtain ⟨rest, hrest, h⟩ := Option.bind_eq_some_iff.1 h
    obtain rfl := Option.some.inj h
    rw [List.cons_append, effects?, he, ih hrest]
    simp

theorem effects?_flatMap {α : Type} {f : α → List Statement} {g : α → List Effect} {xs : List α}
    (h : ∀ x ∈ xs, effects? (f x) = some (g x)) :
    effects? (xs.flatMap f) = some (xs.flatMap g) := by
  induction xs with
  | nil => rfl
  | cons x xs ih =>
    obtain ⟨hx, hxs⟩ := List.forall_mem_cons.1 h
    exact effects?_append hx (ih hxs)

/-! ## What an addition is meant to do -/

namespace Column

/-- The column itself, under its name. -/
def addedEffect (c : Column) (table : String) : Effect := .column table (c.spec c.name.plain)

def uniqueEffects (c : Column) (table : String) : List Effect :=
  if c.isUnique then [.unique table c.name.plain] else []

def keyEffects (c : Column) (table : String) : List Effect :=
  c.reference?.toList.map fun r =>
    .foreignKey table c.name.plain r.model.plain r.column.plain (r.onDelete.map OnDelete.action)

/-- The delete action of a column's reference is spelled in ASCII. -/
def HasAsciiAction (c : Column) : Prop :=
  ∀ r o, c.reference? = some r → r.onDelete = some o → ∀ ch ∈ o.spelling.toList, ch.toNat < 0x80

end Column

/-- The index of a table, by the name that it has or that is made for it. -/
def Index.effect (i : Index) (table : String) : Effect :=
  .ofIndex table ((i.nameOn table).toOption.getD "") (i.columns.map Value.plain) i.unique

/-- The statement that creates an index of a table. -/
def Index.plainStatement (i : Index) (table : String) : Statement :=
  .createIndex ((i.nameOn table).toOption.getD "") table (i.columns.map Value.plain) i.unique

namespace ColumnAddition

/-- What an addition is meant to do: add its columns, make the unique ones unique, have the ones
    that state a reference reference it, and create its indexes. -/
def effects (a : ColumnAddition) : List Effect :=
  a.columns.map (·.addedEffect a.table) ++ a.columns.flatMap (·.uniqueEffects a.table) ++
    a.columns.flatMap (·.keyEffects a.table) ++
    a.indexes.map (·.effect a.table)

/-! ## Statements written out -/

/-- The statements that add a column, and its foreign key if that is not stated with it. -/
def addedStatements (a : ColumnAddition) (d : Dialect) (c : Column) : List Statement :=
  .addColumn a.table (c.spec c.name.plain) (c.isUnique && inlinesUnique d)
      (if inlinesReference d then c.inlineReference? else none) ::
    if inlinesReference d then [] else c.reference?.toList.map fun r =>
      .addForeignKey a.table ⟨c.name.plain, .found r.model.plain r.column.plain, r.onDelete⟩

/-- The indexes for uniqueness that is not stated with the columns. -/
def uniqueStatements (a : ColumnAddition) (d : Dialect) : List Statement :=
  if inlinesUnique d then [] else
    (a.columns.filter (·.isUnique)).map fun c => (Index.uniqueOn [c.name]).plainStatement a.table

def indexStatements (a : ColumnAddition) : List Statement :=
  a.indexes.map (·.plainStatement a.table)

end ColumnAddition

/-! ### Foreign keys -/

namespace KnownTables

variable {known : KnownTables}

/-- Other tables are known by texts. -/
theorem exists_key_eq {columns : List Column} {table : String}
    (typed : ∀ c ∈ columns, c.references.IsTypedReference)
    (h : ofColumns table columns = .ok known) : ∀ k ∈ known, ∃ name, k.key = .text name := by
  obtain ⟨rows, hrows, -⟩ := Rows.exists_foldlM table typed
  obtain ⟨mentions, hmentions, h⟩ := Except.bind_eq_ok.1 h
  rw [hrows] at hmentions
  obtain rfl := Except.ok.inj hmentions
  intro k hk
  obtain ⟨m, hm, hmention⟩ := Except.exists_of_mem_mapM h hk
  obtain ⟨r, -, rfl⟩ := List.mem_map.1 hm
  exact ⟨r.1, (ofMention_eq_ok r hmention).1⟩

theorem name_of_find? (hkeys : ∀ k ∈ known, ∃ name, k.key = .text name) {name : String}
    {k : KnownTable} (hfind : known.find? name = some k) : k.name = name := by
  obtain ⟨key, hkey⟩ := hkeys k (List.mem_of_find?_eq_some hfind)
  have hsame := List.find?_some hfind
  rw [hkey, Value.sameKey_text, beq_iff_eq] at hsame
  rw [KnownTable.name, hkey, hsame]
  rfl

/-- A reference to a known column without a point in its name is resolved to it. -/
theorem resolve_eq (hkeys : ∀ k ∈ known, ∃ name, k.key = .text name) {model column : String}
    {action : Option OnDelete} (hpoint : '.' ∉ column.toList) (hhas : known.Has model column)
    (table own : String) :
    known.resolve table own ⟨.text model, .text column, action⟩ = .found model column := by
  obtain ⟨k, hfind, hmem⟩ := hhas
  rw [resolve, splitAtLastPoint_target (p := (model, column)) rfl, writtenTarget_of_notMem hpoint]
  simp [hfind, hmem, name_of_find? hkeys hfind]

end KnownTables

/-! ### Columns and indexes -/

/-- A reference that a typed column has is to the target that it states. -/
theorem Column.exists_target_of_reference? {c : Column} {r : Reference}
    (typed : c.references.IsTypedReference) (hr : c.reference? = some r) :
    ∃ p, c.references.target? = some p ∧ r.model = .text p.1 ∧ r.column = .text p.2 := by
  rcases typed with hnull | hsome
  · simp [reference?, hnull] at hr
  · obtain ⟨p, hp⟩ := Option.isSome_iff_exists.1 hsome
    obtain ⟨action, href⟩ := Value.target?_eq_some.1 hp
    obtain rfl : Reference.mk (.text p.1) (.text p.2) action = r := by
      simpa [reference?, href] using hr
    exact ⟨p, hp, rfl, rfl⟩

namespace ColumnAddition

variable {a : ColumnAddition} {d : Dialect} {known : KnownTables} {specs : List ColumnSpec}

theorem columnStatements_eq {col : Column} {name : String} (hname : col.name = .text name)
    (hnodup : (specs.map (·.name)).Nodup) (hspec : col.spec name ∈ specs)
    (typed : col.references.IsTypedReference)
    (hpoint : ∀ p, col.references.target? = some p → '.' ∉ p.2.toList)
    (hkeys : ∀ k ∈ known, ∃ name, k.key = .text name)
    (hhas : ∀ p, col.references.target? = some p → known.Has p.1 p.2) :
    a.columnStatements d known specs col = .ok (a.addedStatements d col) := by
  have hmem : name ∈ specs.map (·.name) := List.mem_map.2 ⟨_, hspec, rfl⟩
  have hfind : (specs.find? fun s => s.name == name) = some (col.spec name) :=
    find?_of_nodup_map (f := ColumnSpec.name) hnodup hspec
  have hresolve : ∀ r ∈ col.reference?.toList,
      known.resolve a.table name r = .found r.model.plain r.column.plain := by
    rintro ⟨model, column, action⟩ hr
    obtain ⟨p, hp, rfl, rfl⟩ := Column.exists_target_of_reference? typed (Option.mem_toList.1 hr)
    exact KnownTables.resolve_eq hkeys (hpoint p hp) (hhas p hp) a.table name
  have hfound : col.reference?.toList.map (fun r => Statement.addForeignKey a.table
      ⟨name, known.resolve a.table name r, r.onDelete⟩) = col.reference?.toList.map fun r =>
      .addForeignKey a.table ⟨name, .found r.model.plain r.column.plain, r.onDelete⟩ :=
    List.map_congr_left fun r hr => by rw [hresolve r hr]
  rw [columnStatements, hname, columnOf_text hmem]
  simp only [bind, Except.bind, pure, Except.pure, hfind, Option.getD_some, hfound]
  rw [addedStatements, hname]
  rfl

end ColumnAddition

theorem Index.statement_eq {i : Index} {ss names : List String} (hss : i.columns = ss.map .text)
    (hknown : ∀ s ∈ ss, s ∈ names) (table : String) :
    i.statement table names = .ok (i.plainStatement table) := by
  obtain ⟨name, hname⟩ := i.exists_nameOn ⟨ss, hss⟩ table
  have hplain : i.columns.map Value.plain = ss := by
    rw [hss, List.map_map]
    exact List.map_id _
  rw [statement_of_known hss hknown hname, plainStatement, hname, hplain]
  rfl

namespace ColumnAddition

variable {a : ColumnAddition} {d : Dialect} {known : KnownTables} {ns further : List String}

theorem exists_name_eq (hns : a.columnNames = ns.map .text) {col : Column}
    (hcol : col ∈ a.columns) : ∃ name ∈ ns, col.name = .text name := by
  have hmem : col.name ∈ ns.map Value.text := hns ▸ List.mem_map_of_mem hcol
  obtain ⟨name, hname, heq⟩ := List.mem_map.1 hmem
  exact ⟨name, hname, heq.symm⟩

/-- The columns of an addition are found among its own. -/
theorem mapM_columnStatements (hns : a.columnNames = ns.map .text)
    (typed : ∀ c ∈ a.columns, c.references.IsTypedReference) (hnodup : (ns ++ further).Nodup)
    (hkeys : ∀ k ∈ known, ∃ name, k.key = .text name)
    (htargets : ∀ p ∈ columnTargets a.columns, '.' ∉ p.2.toList ∧ known.Has p.1 p.2) :
    (a.columns.mapM (a.columnStatements d known
      ((ns.zip a.columns).map (fun (name, col) => col.spec name) ++
        ((ns ++ further).drop ns.length).map fun name => ⟨name, d.idType, false⟩))) =
      .ok (a.columns.map (a.addedStatements d)) := by
  have hlength : ns.length = a.columns.length := by
    simpa [columnNames] using (congrArg List.length hns).symm
  have hown : a.columnNames.mapM columnNamed = .ok ns := by
    rw [hns]
    exact KnownTables.mapM_columnNamed_text ns
  rw [Except.mapM_eq_ok, List.forall₂_map_right_iff, List.forall₂_same]
  intro col hcol
  obtain ⟨name, hname, hzip⟩ := exists_mem_zip_of_forall₂ (forall₂_names hown) hcol
  obtain ⟨text, -, htext⟩ := exists_name_eq hns hcol
  obtain rfl := hname.eq htext
  refine columnStatements_eq htext ?_ (List.mem_append_left _ (List.mem_map.2 ⟨_, hzip, rfl⟩))
    (typed col hcol) (fun p hp => (forall_columnTargets.1 htargets col hcol p hp).1) hkeys
    fun p hp => (forall_columnTargets.1 htargets col hcol p hp).2
  rw [map_name_specs d further hlength]
  exact hnodup

theorem uniqueIndexes_eq {names : List String} (hns : a.columnNames = ns.map .text)
    (hnames : ∀ s ∈ ns, s ∈ names) : a.uniqueIndexes d names = .ok (a.uniqueStatements d) := by
  rw [uniqueIndexes, uniqueStatements]
  split
  · rfl
  · rw [Except.mapM_eq_ok, List.forall₂_map_right_iff, List.forall₂_same]
    intro col hcol
    obtain ⟨name, hname, heq⟩ := exists_name_eq hns (List.mem_of_mem_filter hcol)
    rw [heq]
    have hcolumns : (Index.uniqueOn [.text name]).columns = [name].map .text := rfl
    exact Index.statement_eq hcolumns (by simpa using hnames name hname) a.table

end ColumnAddition

namespace Extension

variable {x : Extension} {d₀ d : Dialect}

/-- The columns of every index of a typed extension are among those that it adds. -/
theorem mapM_statement_indexes {ns names : List String} (typed : x.IsTyped)
    (known : ¬ x.NamesUnknown) (hns : x.fields.names = ns.map .text) (hnames : ∀ s ∈ ns, s ∈ names) :
    ((x.addition d₀).indexes.mapM fun i => i.statement x.table names) =
      .ok (x.addition d₀).indexStatements := by
  rw [Except.mapM_eq_ok, ColumnAddition.indexStatements, List.forall₂_map_right_iff,
    List.forall₂_same]
  intro i hi
  obtain ⟨ss, hss⟩ := typed.groups i.columns (List.mem_map_of_mem hi)
  refine Index.statement_eq hss (fun s hs => hnames s ?_) x.table
  rw [← Value.text_mem_map, ← hns]
  refine by_contra fun hunknown => known ⟨i.columns, List.mem_map_of_mem hi, _, ?_, hunknown⟩
  exact hss ▸ List.mem_map_of_mem hs

/-- The statements of a typed addition, whatever the dialect that it was planned for.  There are
    none just where a column or the column that it references has no name. -/
theorem statements_addition_iff (typed : x.IsTyped) (known : ¬ x.NamesUnknown)
    (points : ∀ p ∈ x.fields.targets, '.' ∉ p.2.toList) {ss : List Statement} :
    (x.addition d₀).statements d = .ok ss ↔
      (Value.text "" ∉ x.fields.names ∧ ∀ p ∈ x.fields.targets, p.2 ≠ "") ∧
      ss = (x.addition d₀).columns.flatMap ((x.addition d₀).addedStatements d) ++
        (x.addition d₀).uniqueStatements d ++ (x.addition d₀).indexStatements := by
  obtain ⟨ns, hnodup, hns⟩ := typed.fields.names
  have hcolumnNames : (x.addition d₀).columnNames = ns.map .text := columnNames_addition.trans hns
  have hown : (x.addition d₀).columnNames.mapM columnNamed = .ok ns := by
    rw [hcolumnNames]
    exact KnownTables.mapM_columnNamed_text ns
  have hreferences := (forall_columns_addition (x := x) (d := d₀)
    (P := fun col => col.references.IsTypedReference)).2 typed.fields.references
  obtain ⟨further, hself, hnodupFurther, hfurther⟩ :=
    ColumnAddition.exists_selfTargets hcolumnNames hreferences
  rw [columnTargets_addition] at hfurther
  have hchecked := checkNames_iff hnodup hns hnodupFurther hfurther
  have htargets : (∃ others, KnownTables.ofColumns x.table (x.addition d₀).columns = .ok others) ↔
      ∀ p ∈ x.fields.targets, p.1 ≠ x.table → p.2 ≠ "" := by
    rw [KnownTables.exists_ofColumns_iff hreferences, columnTargets_addition]
  -- no part can be refused but the names of columns and the tables that are referenced
  have hcolumns : ∀ others, checkNames x.table [] (ns ++ further) = .ok () →
      KnownTables.ofColumns x.table (x.addition d₀).columns = .ok others →
      ((x.addition d₀).columns.mapM ((x.addition d₀).columnStatements d
        (KnownTables.own x.table (ns ++ further) :: others)
        ((ns.zip (x.addition d₀).columns).map (fun (name, col) => col.spec name) ++
          ((ns ++ further).drop ns.length).map fun name => ⟨name, d.idType, false⟩))) =
        .ok ((x.addition d₀).columns.map ((x.addition d₀).addedStatements d)) := by
    intro others hcheck hothers
    refine ColumnAddition.mapM_columnStatements hcolumnNames hreferences
      (checkNames_eq_ok.1 hcheck).2.1 (List.forall_mem_cons.2 ⟨⟨x.table, rfl⟩,
        KnownTables.exists_key_eq hreferences hothers⟩) fun p hp => ?_
    rw [columnTargets_addition] at hp
    exact ⟨points p hp, (has_iff_knows typed.fields hns hfurther hothers p).2 (.inr hp)⟩
  have huniques : (x.addition d₀).uniqueIndexes d (ns ++ further) =
      .ok ((x.addition d₀).uniqueStatements d) :=
    ColumnAddition.uniqueIndexes_eq hcolumnNames fun s hs => List.mem_append_left _ hs
  have hindexes : ((x.addition d₀).indexes.mapM fun i => i.statement x.table (ns ++ further)) =
      .ok (x.addition d₀).indexStatements :=
    mapM_statement_indexes typed known hns fun s hs => List.mem_append_left _ hs
  rw [ColumnAddition.statements_eq_ok_iff hown hself (KnownTables.mapM_columnNamed_text further)]
  constructor
  · rintro ⟨hcheck, others, columns, uniques, indexes, hothers, hcolumns', huniques', hindexes',
      rfl⟩
    obtain rfl := Except.ok.inj ((hcolumns others hcheck hothers).symm.trans hcolumns')
    obtain rfl := Except.ok.inj (huniques.symm.trans huniques')
    obtain rfl := Except.ok.inj (hindexes.symm.trans hindexes')
    obtain ⟨hnamed, hself⟩ := hchecked.1 hcheck
    refine ⟨⟨hnamed, fun p hp hblank => ?_⟩, rfl⟩
    by_cases htable : p.1 = x.table
    · exact hself (htable ▸ hblank ▸ hp)
    · exact htargets.1 ⟨others, hothers⟩ p hp htable hblank
  · rintro ⟨⟨hnamed, htargetsNamed⟩, rfl⟩
    obtain ⟨others, hothers⟩ := htargets.2 fun p hp _ => htargetsNamed p hp
    have hcheck := hchecked.2 ⟨hnamed, fun hp => htargetsNamed _ hp rfl⟩
    exact ⟨hcheck, others, _, _, _, hothers, hcolumns others hcheck hothers, huniques, hindexes,
      rfl⟩

end Extension

/-! ## Reading the statements -/

namespace OnDelete

theorem asciiUpper_action (o : OnDelete) : Text.asciiUpper o.action = o.action := by
  have hactions : ∀ action ∈ actions, Text.asciiUpper action = action := by decide
  exact hactions o.action o.isAction

variable {o : OnDelete} (ascii : ∀ ch ∈ o.spelling.toList, ch.toNat < 0x80)
include ascii

theorem action_of_ascii : o.action = Text.asciiUpper o.spelling := by
  have hchars : o.spelling.toList.flatMap Text.Case.upperChar =
      o.spelling.toList.map Char.toUpper := by
    rw [List.map_eq_flatMap]
    exact List.flatMap_congr fun ch hch => if_pos (ascii ch hch)
  rw [action, Text.upper, Text.asciiUpper, hchars]

/-- A delete action that is spelled in ASCII is one of SQL's phrases. -/
theorem isPhrase_of_ascii : o.isPhrase = true := by
  rw [isPhrase, action_of_ascii ascii, Text.asciiUpper]
  simp

end OnDelete

theorem effects?_map {α : Type} {f : α → Statement} {g : α → Effect} {xs : List α}
    (h : ∀ x ∈ xs, (f x).effects? = some [g x]) : effects? (xs.map f) = some (xs.map g) := by
  rw [List.map_eq_flatMap, List.map_eq_flatMap]
  refine effects?_flatMap fun x hx => ?_
  rw [effects?, h x hx]
  rfl

namespace Column

variable {c : Column}

/-- The foreign key of a column, where it is stated with the column. -/
theorem mapM_inlineReference? (typed : c.references.IsTypedReference) (table : String) :
    (c.inlineReference?.toList.mapM fun r => r.effect? table c.name.plain) =
      some (c.keyEffects table) := by
  rw [inlineReference?, keyEffects]
  cases hr : c.reference? with
  | none => rfl
  | some r =>
    obtain ⟨p, -, hmodel, hcolumn⟩ := exists_target_of_reference? typed hr
    have haction : r.onDelete.map (fun o => Text.asciiUpper o.action) =
        r.onDelete.map OnDelete.action :=
      Option.map_congr fun o _ => o.asciiUpper_action
    simp [InlineReference.effect?, hmodel, hcolumn, Written.ofValue, Written.name?, Value.plain,
      haction]

/-- The foreign key of a column, where it is a constraint of its own. -/
theorem effects?_addForeignKey (ascii : c.HasAsciiAction) (table : String) :
    effects? (c.reference?.toList.map fun r => .addForeignKey table
      ⟨c.name.plain, .found r.model.plain r.column.plain, r.onDelete⟩) =
      some (c.keyEffects table) := by
  refine effects?_map fun r hr => ?_
  have hr : c.reference? = some r := by simpa using hr
  have hphrase : r.onDelete.all OnDelete.isPhrase = true := by
    rw [Option.all_eq_true]
    exact fun o ho => OnDelete.isPhrase_of_ascii (ascii r o hr ho)
  have haction : r.onDelete.map (fun o => Text.asciiUpper o.spelling) =
      r.onDelete.map OnDelete.action :=
    Option.map_congr fun o ho => (OnDelete.action_of_ascii (ascii r o hr ho)).symm
  simp [Statement.effects?, ForeignKey.effect?, hphrase, haction]

end Column

namespace ColumnAddition

variable {a : ColumnAddition} {d : Dialect}

/-- What adding a column does, with its uniqueness where that is stated with it. -/
def columnEffects (a : ColumnAddition) (d : Dialect) (c : Column) : List Effect :=
  c.addedEffect a.table ::
    ((if inlinesUnique d then c.uniqueEffects a.table else []) ++ c.keyEffects a.table)

theorem effects?_addedStatements {c : Column} (typed : c.references.IsTypedReference)
    (ascii : c.HasAsciiAction) :
    effects? (a.addedStatements d c) = some (a.columnEffects d c) := by
  have hunique : (if (c.isUnique && inlinesUnique d) = true then
      [Effect.unique a.table c.name.plain] else []) =
      if inlinesUnique d then c.uniqueEffects a.table else [] := by
    cases hd : inlinesUnique d <;> simp [Column.uniqueEffects]
  rw [addedStatements, effects?, Statement.effects?, columnEffects, Column.addedEffect]
  cases hinlines : inlinesReference d with
  | true =>
    have hkeys := Column.mapM_inlineReference? typed a.table
    simp only [reduceIte, Column.spec, hkeys, hunique, effects?]
    simp
  | false =>
    have hkeys := Column.effects?_addForeignKey ascii a.table
    simp only [reduceIte, Bool.false_eq_true, Column.spec, hkeys, hunique]
    simp

theorem effects?_indexStatements :
    effects? a.indexStatements = some (a.indexes.map (·.effect a.table)) :=
  effects?_map fun _ _ => rfl

theorem flatMap_uniqueEffects (columns : List Column) (table : String) :
    columns.flatMap (·.uniqueEffects table) =
      (columns.filter (·.isUnique)).map fun c => .unique table c.name.plain := by
  induction columns with
  | nil => rfl
  | cons c columns ih =>
    rw [List.flatMap_cons, ih, Column.uniqueEffects]
    by_cases h : c.isUnique = true <;> simp [h]

/-- The indexes that stand for uniqueness make columns unique. -/
theorem effects?_uniqueStatements {ns : List String} (hns : a.columnNames = ns.map .text) :
    effects? (a.uniqueStatements d) =
      some (if inlinesUnique d then [] else a.columns.flatMap (·.uniqueEffects a.table)) := by
  rw [uniqueStatements, flatMap_uniqueEffects]
  split
  · rfl
  · refine effects?_map fun c hc => ?_
    obtain ⟨name, -, hname⟩ := exists_name_eq hns (List.mem_of_mem_filter hc)
    have hmade : (Index.uniqueOn [c.name]).nameOn a.table =
        .ok ("uq" ++ "_" ++ a.table ++ "_" ++ name) := by
      have hjoin := Value.join_map_text "_" [name]
      simp [Index.nameOn, Index.uniqueOn, hname] at hjoin ⊢
      simp [hjoin]
    rw [Index.plainStatement, hmade]
    simp [Statement.effects?, Effect.ofIndex, Index.uniqueOn, hname, Value.plain,
      Except.toOption]

/-- In every dialect an addition does what it is meant to do, if in another sequence. -/
theorem perm_effects :
    (a.columns.flatMap (a.columnEffects d) ++
      ((if inlinesUnique d then [] else a.columns.flatMap (·.uniqueEffects a.table)) ++
        a.indexes.map (·.effect a.table))).Perm a.effects := by
  rw [effects, ← List.append_assoc]
  refine List.Perm.append_right _ ?_
  cases hd : inlinesUnique d with
  | true =>
    -- uniqueness is stated with the columns
    have hcolumns : a.columnEffects d = fun c =>
        c.addedEffect a.table :: (c.uniqueEffects a.table ++ c.keyEffects a.table) := by
      funext c
      rw [columnEffects, hd, if_pos rfl]
    rw [hcolumns, if_pos rfl, List.append_nil, List.append_assoc]
    exact ((List.flatMap_append_perm ..).append_left _ |>.trans
      (List.map_append_flatMap_perm ..)).symm
  | false =>
    -- the indexes that stand for it come after all columns
    have hcolumns : a.columnEffects d = fun c =>
        c.addedEffect a.table :: c.keyEffects a.table := by
      funext c
      rw [columnEffects, hd, if_neg (by simp), List.nil_append]
    rw [hcolumns, if_neg (by simp)]
    refine ((List.map_append_flatMap_perm ..).symm.append_right _).trans ?_
    rw [List.append_assoc, List.append_assoc]
    exact (List.perm_append_comm).append_left _

theorem isIndex_of_mem : ∀ s ∈ a.uniqueStatements d ++ a.indexStatements, s.IsIndex := by
  have hplain : ∀ (is : List Index), ∀ s ∈ is.map (·.plainStatement a.table), s.IsIndex := by
    intro is s hs
    obtain ⟨i, -, rfl⟩ := List.mem_map.1 hs
    exact True.intro
  rw [List.forall_mem_append]
  refine ⟨fun s hs => ?_, hplain a.indexes⟩
  rw [uniqueStatements] at hs
  split at hs
  · exact absurd hs List.not_mem_nil
  · refine hplain ((a.columns.filter (·.isUnique)).map fun c => .uniqueOn [c.name]) s ?_
    rwa [List.map_map]

theorem isSent_addedStatements {c : Column} (typed : c.references.IsTypedReference)
    (ascii : c.HasAsciiAction) : ∀ s ∈ a.addedStatements d c, ¬ s.IsIndex ∧ s.IsSent d := by
  have hadded : ∀ r, (if inlinesReference d then c.inlineReference? else none) = some r →
      ∃ t c, r.table = .name t ∧ r.column = .name c := by
    intro r hr
    obtain ⟨hd, hr⟩ : inlinesReference d = true ∧ c.inlineReference? = some r := by
      simpa using hr
    obtain ⟨q, hq, rfl⟩ := Option.map_eq_some_iff.1 hr
    obtain ⟨p, -, hmodel, hcolumn⟩ := Column.exists_target_of_reference? typed hq
    exact ⟨p.1, p.2, by rw [hmodel]; rfl, by rw [hcolumn]; rfl⟩
  rw [addedStatements, List.forall_mem_cons]
  refine ⟨⟨id, Statement.isSent_addColumn hadded⟩, fun s hs => ?_⟩
  split at hs
  · exact absurd hs List.not_mem_nil
  · obtain ⟨r, hr, rfl⟩ := List.mem_map.1 hs
    refine ⟨id, Statement.isSent_addForeignKey.2 (foreignKeyText_iff.2 ⟨⟨_, _, rfl⟩, ?_⟩)⟩
    exact fun o ho => OnDelete.isPhrase_of_ascii (ascii r o (by simpa using hr) ho)

end ColumnAddition

namespace Plan

variable {toCreate : List Table} {toAdd : List Extension} {d₀ : Dialect} {plan : Plan}

/-- An addition of a plan is that of an extension, which names no column that is not added. -/
theorem exists_extension_of_mem (typed : ∀ x ∈ toAdd, x.IsTyped)
    (h : (build toCreate toAdd d₀).outcome = .ok plan) {a : ColumnAddition}
    (ha : .add a ∈ plan.operations) :
    ∃ x : Extension, x.IsTyped ∧ ¬ x.NamesUnknown ∧ a = x.addition d₀ := by
  obtain ⟨tables, -, h⟩ := Logged.outcome_bind_eq_ok.1 h
  obtain ⟨⟨⟩, -, h⟩ := Logged.outcome_bind_eq_ok.1 h
  obtain ⟨additions, hadditions, h⟩ := Logged.outcome_bind_eq_ok.1 h
  obtain ⟨creations, hcreations, h⟩ := Logged.outcome_bind_eq_ok.1 h
  obtain rfl := Except.ok.inj h
  rcases List.mem_append.1 ha with ha | ha
  · obtain ⟨x, hplan, hmem⟩ :=
      exists_mem_zip_of_forall₂ (Logged.outcome_mapM_eq_ok.1 hadditions).flip ha
    have hx : x ∈ toAdd := (byOrderAndName_perm ..).mem_iff.1 (List.of_mem_zip hmem).1
    refine ⟨x, typed x hx, fun hunknown => ?_, Operation.add.inj (Extension.plan_inv hplan)⟩
    -- an extension with unknown columns would not have been planned
    rcases x.outcome_plan (typed x hx) d₀ with ⟨hknown, -⟩ | ⟨-, e, he, -⟩
    · exact hknown hunknown
    · exact absurd (hplan.symm.trans he) (by simp)
  · obtain ⟨t, hplan, -⟩ :=
      exists_mem_zip_of_forall₂ (Logged.outcome_mapM_eq_ok.1 hcreations).flip ha
    exact absurd (Table.plan_inv hplan) (by simp)

/-- An addition that is planned does the same in every dialect, whatever it was planned for, as far
    as its delete actions are spelled in ASCII and no column that it references has a point in its
    name.  There are no statements just where a column, or one that is referenced, has no name. -/
theorem effects_addition (typed : ∀ x ∈ toAdd, x.IsTyped)
    (h : (build toCreate toAdd d₀).outcome = .ok plan) {a : ColumnAddition}
    (ha : .add a ∈ plan.operations) (actions : ∀ c ∈ a.columns, c.HasAsciiAction)
    (points : ∀ p ∈ columnTargets a.columns, '.' ∉ p.2.toList) (d : Dialect) :
    ((∃ ss, a.statements d = .ok ss) ↔
      .text "" ∉ a.columnNames ∧ ∀ p ∈ columnTargets a.columns, p.2 ≠ "") ∧
    ∀ ss, a.statements d = .ok ss → ∃ adding indexing, ss = adding ++ indexing ∧
      (∀ s ∈ adding, ¬ s.IsIndex ∧ s.IsSent d) ∧ (∀ s ∈ indexing, s.IsIndex) ∧
      effects? adding = some (a.columns.flatMap (a.columnEffects d)) ∧
      effects? indexing = some
        ((if ColumnAddition.inlinesUnique d then []
          else a.columns.flatMap (·.uniqueEffects a.table)) ++ a.indexes.map (·.effect a.table)) ∧
      ∃ effects, effects? ss = some effects ∧ effects.Perm a.effects := by
  obtain ⟨x, hx, hknown, rfl⟩ := exists_extension_of_mem typed h ha
  rw [Extension.columnTargets_addition] at points ⊢
  have hiff := fun ss => @Extension.statements_addition_iff x d₀ d hx hknown points ss
  have hreferences := (Extension.forall_columns_addition (x := x) (d := d₀)
    (P := fun col => col.references.IsTypedReference)).2 hx.fields.references
  obtain ⟨ns, -, hns⟩ := hx.fields.names
  have hadding : effects? ((x.addition d₀).columns.flatMap ((x.addition d₀).addedStatements d)) =
      some ((x.addition d₀).columns.flatMap ((x.addition d₀).columnEffects d)) :=
    effects?_flatMap fun c hc =>
      ColumnAddition.effects?_addedStatements (hreferences c hc) (actions c hc)
  have hindexing := effects?_append
    (ColumnAddition.effects?_uniqueStatements (a := x.addition d₀) (d := d)
      (Extension.columnNames_addition.trans hns))
    (ColumnAddition.effects?_indexStatements (a := x.addition d₀))
  refine ⟨?_, fun ss hss => ?_⟩
  · simp only [hiff, exists_and_left, exists_eq, and_true, Extension.columnNames_addition]
  · obtain ⟨-, rfl⟩ := (hiff ss).1 hss
    rw [List.append_assoc]
    refine ⟨_, _, rfl, ?_, ?_, hadding, hindexing, _, effects?_append hadding hindexing,
      ColumnAddition.perm_effects⟩
    · intro s hs
      obtain ⟨c, hc, hs⟩ := List.mem_flatMap.1 hs
      exact ColumnAddition.isSent_addedStatements (hreferences c hc) (actions c hc) s hs
    · exact ColumnAddition.isIndex_of_mem

/-- A booking is of one room, which no other is of, and goes with it. -/
def bookings : Extension :=
  ⟨"booking", [(.text "room", { Field.plain .string with
      unique := .bool true
      references := .reference ⟨.text "room", .text "id", some ⟨"cascade", by decide⟩⟩ })],
    Number.infinity, [.onColumn (.text "room")]⟩

theorem bookings_effects :
    ∃ plan a, (build [] [bookings] .postgresql).outcome = .ok plan ∧ .add a ∈ plan.operations ∧
      ∀ d, ∃ ss effects, a.statements d = .ok ss ∧ effects? ss = some effects ∧
        effects.Perm a.effects := by
  have hplan : (build [] [bookings] .postgresql).outcome =
      .ok ⟨.postgresql, [.add (bookings.addition .postgresql)]⟩ := by cbv
  have typed : ∀ x ∈ [bookings], x.IsTyped := by
    refine List.forall_mem_singleton.2 ⟨⟨⟨["room"], by simp, rfl⟩, ?_⟩, ?_⟩
    · simp [bookings, Value.IsTypedReference, Value.target?]
    · exact List.forall_mem_singleton.2 ⟨["room"], rfl⟩
  have actions : ∀ c ∈ (bookings.addition .postgresql).columns, c.HasAsciiAction := by
    refine List.forall_mem_singleton.2 fun r o hr ho => ?_
    obtain rfl := Option.some.inj hr
    obtain rfl := Option.some.inj ho
    simp
  have points : ∀ p ∈ columnTargets (bookings.addition .postgresql).columns,
      '.' ∉ p.2.toList := List.forall_mem_singleton.2 (by decide)
  have named : Value.text "" ∉ (bookings.addition .postgresql).columnNames := by
    simp [ColumnAddition.columnNames, Extension.addition, bookings, Field.column]
  refine ⟨_, _, hplan, List.mem_singleton_self _, fun d => ?_⟩
  obtain ⟨hexists, hread⟩ :=
    effects_addition typed hplan (List.mem_singleton_self _) actions points d
  obtain ⟨ss, hss⟩ := hexists.2 ⟨named, List.forall_mem_singleton.2 (by decide)⟩
  obtain ⟨adding, indexing, -, -, -, -, -, effects, heffects, hperm⟩ := hread ss hss
  exact ⟨ss, effects, hss, heffects, hperm⟩

end Plan

end Accrete
