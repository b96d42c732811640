import Accrete.Proofs.Writing.Effects
import Mathlib

/-!
# Statements that look ahead

The statements of an addition are executed one after the other, so that none should mention a column
that only a later one adds.  Indexes come last, but a foreign key is stated with its column or right
after it, and a table may reference itself.

* `Statement.mentions`, `Statement.added` -- the columns that a statement names, and those it makes
* `NeverLooksAhead`                       -- no statement mentions a column that a later one adds
* `ColumnAddition.ReferencesBack`         -- no column references one that is added after it
* `Plan.neverLooksAhead_iff`              -- statements look ahead just where references do
-/

namespace Accrete

/-! ## Mentions -/

/-- The table and the column that a foreign key points at, if they can be told. -/
def Target.place? : Target → Option (String × String)
  | .found table column => some (table, column)
  | .missing _ => none

def InlineReference.place? (r : InlineReference) : Option (String × String) := do
  return (← r.table.name?, ← r.column.name?)

def ForeignKey.mentions (k : ForeignKey) (table : String) : List (String × String) :=
  (table, k.column) :: k.target.place?.toList

def Constraint.mentions (table : String) : Constraint → List (String × String)
  | .primaryKey columns | .unique columns => columns.map (table, ·)
  | .foreignKey key => key.mentions table

namespace Statement

/-- The columns that a statement names, with their tables: those that it defines, the members of an
    index or a constraint, and both ends of a foreign key. -/
def mentions : Statement → List (String × String)
  | .createTable table columns constraints =>
    columns.map (fun c => (table, c.name)) ++ constraints.flatMap (·.mentions table)
  | .addColumn table column _ references =>
    (table, column.name) :: (references.bind (·.place?)).toList
  | .addForeignKey table key => key.mentions table
  | .createIndex _ table columns _ => columns.map (table, ·)

/-- The columns that a statement makes, with their table. -/
def added : Statement → List (String × String)
  | .createTable table columns _ => columns.map fun c => (table, c.name)
  | .addColumn table column _ _ => [(table, column.name)]
  | .addForeignKey .. | .createIndex .. => []

theorem IsIndex.added {s : Statement} (h : s.IsIndex) : s.added = [] := by
  cases s with
  | createIndex => rfl
  | createTable | addColumn | addForeignKey => exact h.elim

end Statement

/-- No statement mentions a column that a later one adds. -/
def NeverLooksAhead (ss : List Statement) : Prop :=
  ss.Pairwise fun s s' => ∀ p ∈ s'.added, p ∉ s.mentions

instance (ss : List Statement) : Decidable (NeverLooksAhead ss) :=
  inferInstanceAs (Decidable (List.Pairwise _ _))

theorem neverLooksAhead_append {ss ss' : List Statement} (h : ∀ s ∈ ss', s.added = []) :
    NeverLooksAhead (ss ++ ss') ↔ NeverLooksAhead ss := by
  rw [NeverLooksAhead, List.pairwise_append]
  refine and_iff_left ⟨?_, fun s _ s' hs' p hp => ?_⟩
  · exact List.pairwise_of_forall_mem_list fun s _ s' hs' p hp => by simp [h s' hs'] at hp
  · simp [h s' hs'] at hp

theorem neverLooksAhead_flatten {blocks : List (List Statement)}
    (h : ∀ ss ∈ blocks, NeverLooksAhead ss) :
    NeverLooksAhead blocks.flatten ↔ blocks.Pairwise fun ss ss' =>
      ∀ p ∈ ss'.flatMap Statement.added, p ∉ ss.flatMap Statement.mentions := by
  refine List.pairwise_flatten.trans ((and_iff_right h).trans ?_)
  refine List.Pairwise.iff fun ss ss' => ?_
  simp only [List.mem_flatMap, not_exists, not_and]
  exact ⟨fun h p ⟨s', hs', hp⟩ s hs => h s hs s' hs' p hp,
    fun h s hs s' hs' p hp => h p ⟨s', hs', hp⟩ s hs⟩

/-! ## What a column mentions -/

/-- What a reference is stated to point at: what it names, or in a dialect that states it apart from
    its column what is read from its name. -/
def Column.statedTarget? (c : Column) (d : Dialect) : Option (String × String) :=
  c.references.target?.map fun p =>
    if ColumnAddition.inlinesReference d then p else writtenTarget p

theorem KnownTables.place?_resolve {known : KnownTables}
    (hkeys : ∀ k ∈ known, ∃ name, k.key = .text name) {r : Reference} {p : String × String}
    (hr : (Value.reference r).target? = some p) (table column : String) (q : String × String) :
    (known.resolve table column r).place? = some q ↔
      q = writtenTarget p ∧ known.Has q.1 q.2 := by
  rw [resolve, splitAtLastPoint_target hr, Has]
  cases hfind : known.find? (writtenTarget p).1 with
  | none =>
    simp only [hfind, Target.place?, reduceCtorEq, false_iff]
    rintro ⟨rfl, k, hk, -⟩
    simp [hfind] at hk
  | some k =>
    have hname := name_of_find? hkeys hfind
    -- the table is known, and the reference is found just if its column is
    by_cases hmem : (writtenTarget p).2 ∈ k.columns
    · simp only [hfind, List.contains_iff_mem.2 hmem, if_true, Target.place?, hname,
        Option.some.injEq]
      constructor
      · rintro rfl
        exact ⟨rfl, k, hfind, hmem⟩
      · exact fun h => h.1.symm
    · simp only [hfind, List.contains_iff_mem, hmem, if_false, Target.place?, reduceCtorEq,
        false_iff]
      rintro ⟨rfl, k', hk', hmem'⟩
      obtain rfl := Option.some.inj (hfind.symm.trans hk')
      exact hmem hmem'

theorem Column.place?_inlineReference? {c : Column} (typed : c.references.IsTypedReference) :
    c.inlineReference?.bind (·.place?) = c.references.target? := by
  rw [inlineReference?]
  cases hr : c.reference? with
  | none =>
    rcases typed with hnull | hsome
    · rw [hnull]
      rfl
    · obtain ⟨p, hp⟩ := Option.isSome_iff_exists.1 hsome
      obtain ⟨action, href⟩ := Value.target?_eq_some.1 hp
      simp [reference?, href] at hr
  | some r =>
    obtain ⟨p, hp, hmodel, hcolumn⟩ := exists_target_of_reference? typed hr
    rw [hp, Option.map_some, Option.bind_some, hmodel, hcolumn]
    rfl

namespace ColumnAddition

variable {a : ColumnAddition} {d : Dialect} {known : KnownTables} {specs : List ColumnSpec}
  {col : Column} {ss : List Statement}

theorem columnStatements_inv (h : a.columnStatements d known specs col = .ok ss) :
    ∃ name spec unique, columnOf (specs.map (·.name)) col.name = .ok name ∧ spec.name = name ∧
      ss = .addColumn a.table spec unique
          (if inlinesReference d then col.inlineReference? else none) ::
        if inlinesReference d then [] else col.reference?.toList.map fun r =>
          .addForeignKey a.table ⟨name, known.resolve a.table name r, r.onDelete⟩ := by
  obtain ⟨name, hname, h⟩ := Except.bind_eq_ok.1 h
  obtain rfl := Except.ok.inj h
  refine ⟨name, (specs.find? fun s => s.name == name).getD (col.spec name), _, hname, ?_, rfl⟩
  cases hfind : specs.find? fun s => s.name == name with
  | none => rfl
  | some spec => simpa using List.find?_some hfind

/-- Statements make one column of a table, and of those that are known they mention no others than
    this and the one that a reference is stated to point at. -/
structure States (a : ColumnAddition) (d : Dialect) (names : List String) (c : Column)
    (ss : List Statement) (name : String) : Prop where
  known : name ∈ names
  text : c.name.text? = some name
  added : ss.flatMap Statement.added = [(a.table, name)]
  block : NeverLooksAhead ss
  mentions : ∀ n ∈ names, (a.table, n) ∈ ss.flatMap Statement.mentions ↔
    n = name ∨ c.statedTarget? d = some (a.table, n)

/-- A foreign key that is stated apart points at a column of its own table just where that is read
    from the reference: this table is the first that is known. -/
theorem exists_place?_resolve {names : List String} {others : KnownTables}
    (hkeys : ∀ k ∈ others, ∃ name, k.key = .text name) (typed : col.references.IsTypedReference)
    {n : String} (hn : n ∈ names) (name : String) :
    (∃ r, col.reference? = some r ∧
        (KnownTables.resolve (KnownTables.own a.table names :: others) a.table name r).place? =
          some (a.table, n)) ↔
      col.references.target?.map writtenTarget = some (a.table, n) := by
  have hkeys : ∀ k ∈ KnownTables.own a.table names :: others, ∃ name, k.key = .text name :=
    List.forall_mem_cons.2 ⟨⟨a.table, rfl⟩, hkeys⟩
  have hhas : KnownTables.Has (KnownTables.own a.table names :: others) a.table n := by
    rw [KnownTables.has_cons rfl, if_pos rfl]
    exact hn
  constructor
  · rintro ⟨r, hr, hplace⟩
    obtain ⟨p, hp, -⟩ := Column.exists_target_of_reference? typed hr
    obtain ⟨action, href⟩ := Value.target?_eq_some.1 hp
    rw [Column.reference?, href] at hr
    obtain rfl := Option.some.inj hr
    rw [hp, Option.map_some, ((KnownTables.place?_resolve hkeys rfl ..).1 hplace).1]
  · intro h
    obtain ⟨p, hp, hwritten⟩ := Option.map_eq_some_iff.1 h
    obtain ⟨action, href⟩ := Value.target?_eq_some.1 hp
    exact ⟨_, by rw [Column.reference?, href],
      (KnownTables.place?_resolve hkeys rfl ..).2 ⟨hwritten.symm, hhas⟩⟩

theorem exists_states {names : List String} {others : KnownTables}
    (hnames : specs.map (·.name) = names) (hkeys : ∀ k ∈ others, ∃ name, k.key = .text name)
    (hnumeral : col.name.numeral? = none) (typed : col.references.IsTypedReference)
    (h : a.columnStatements d (KnownTables.own a.table names :: others) specs col = .ok ss) :
    ∃ name, a.States d names col ss name := by
  obtain ⟨name, spec, unique, hname, rfl, rfl⟩ := columnStatements_inv h
  obtain ⟨hmem, htext⟩ := columnOf_eq_ok hname
  refine ⟨spec.name, hnames ▸ hmem, htext hnumeral, ?added, ?block, fun n hn => ?mentions⟩
  case added => split <;> simp [Statement.added, List.flatMap_map]
  case block => split <;> simp [NeverLooksAhead, Statement.added, List.pairwise_map]
  case mentions =>
    rw [Column.statedTarget?]
    by_cases hinlines : inlinesReference d = true
    · rw [if_pos hinlines, if_pos hinlines, List.flatMap_singleton, Statement.mentions,
        Column.place?_inlineReference? typed]
      simp [hinlines]
    · simp only [if_neg hinlines, ← exists_place?_resolve hkeys typed hn spec.name]
      cases col.reference? with
      | none => simp [Statement.mentions]
      | some r => simp [Statement.mentions, ForeignKey.mentions]

theorem isIndex_of_mem_uniqueIndexes {names : List String}
    (h : a.uniqueIndexes d names = .ok ss) : ∀ s ∈ ss, s.IsIndex := by
  rw [uniqueIndexes] at h
  split at h
  · obtain rfl := Except.ok.inj h
    exact fun s hs => absurd hs List.not_mem_nil
  · intro s hs
    obtain ⟨c, -, hc⟩ := Except.exists_of_mem_mapM h hs
    exact (Index.isIndexWithin_statement hc).isIndex

/-- The statements of an addition are those that make its columns, and then those of its indexes. -/
theorem exists_blocks (typed : ∀ c ∈ a.columns, c.references.IsTypedReference)
    (h : a.statements d = .ok ss) :
    ∃ names blocks indexes, ss = blocks.flatten ++ indexes ∧ (∀ s ∈ indexes, s.IsIndex) ∧
      List.Forall₂ (fun c ss => ∃ name, a.States d names c ss name) a.columns blocks := by
  obtain ⟨others, targets, own, further, blocks, uniques, indexes, hothers, -, hown, -, -, hblocks,
    huniques, hindexes, rfl⟩ := statements_parts_iff.1 h
  have hnamed := forall₂_names hown
  refine ⟨own ++ further, blocks, uniques ++ indexes, List.append_assoc .., ?_, ?_⟩
  · refine List.forall_mem_append.2 ⟨isIndex_of_mem_uniqueIndexes huniques, fun s hs => ?_⟩
    obtain ⟨i, -, hi⟩ := Except.exists_of_mem_mapM hindexes hs
    exact (i.isIndexWithin_statement hi).isIndex
  · rw [Except.mapM_eq_ok, List.forall₂_iff_zip] at hblocks
    refine List.forall₂_iff_zip.2 ⟨hblocks.1, fun {c block} hzip => ?_⟩
    have hc := (List.of_mem_zip hzip).1
    obtain ⟨name, hname, -⟩ := exists_mem_zip_of_forall₂ hnamed hc
    exact exists_states (map_name_specs d further hnamed.length_eq.symm)
      (KnownTables.exists_key_eq typed hothers) hname.numeral?_eq_none (typed c hc)
      (hblocks.2 hzip)

/-- No column references one of its own table that is added after it. -/
def ReferencesBack (a : ColumnAddition) (d : Dialect) : Prop :=
  a.columns.Pairwise fun c c' =>
    ∀ name, c'.name.text? = some name → c.statedTarget? d ≠ some (a.table, name)

/-- The statements of an addition never look ahead just if its references do not. -/
theorem neverLooksAhead_statements (distinct : a.columnNames.Pairwise fun v w => v.sameKey w = false)
    (typed : ∀ c ∈ a.columns, c.references.IsTypedReference) (h : a.statements d = .ok ss) :
    NeverLooksAhead ss ↔ a.ReferencesBack d := by
  obtain ⟨names, blocks, indexes, rfl, hindex, hstates⟩ := exists_blocks typed h
  have hblock : ∀ block ∈ blocks, NeverLooksAhead block := by
    intro block hblock
    obtain ⟨c, ⟨name, hstated⟩, -⟩ := exists_mem_zip_of_forall₂ hstates.flip hblock
    exact hstated.block
  have hdiffer : a.columns.Pairwise fun c c' => c.name.text? ≠ c'.name.text? := by
    refine (List.pairwise_map.1 distinct).imp_of_mem fun {c c'} hc hc' hsame htext => ?_
    obtain ⟨block, ⟨name, hstated⟩, -⟩ := exists_mem_zip_of_forall₂ hstates hc
    rw [Value.sameKey_of_text? hstated.text (htext ▸ hstated.text), beq_self_eq_true] at hsame
    exact Bool.noConfusion hsame
  -- a block mentions the column of a later one if that is its own or its target
  have hpairs : a.columns.Pairwise (fun c c' => c.name.text? ≠ c'.name.text? ∧
        ∀ name, c'.name.text? = some name → c.statedTarget? d ≠ some (a.table, name)) ↔
      blocks.Pairwise fun ss ss' =>
        ∀ p ∈ ss'.flatMap Statement.added, p ∉ ss.flatMap Statement.mentions := by
    refine pairwise_iff_of_forall₂ hstates ?_
    rintro c ss c' ss' ⟨name, hss⟩ ⟨name', hss'⟩
    rw [hss'.added, List.forall_mem_singleton, hss.mentions name' hss'.known, hss.text, hss'.text]
    simp [eq_comm]
  rw [neverLooksAhead_append fun s hs => (hindex s hs).added, neverLooksAhead_flatten hblock,
    ← hpairs, List.pairwise_and_iff, and_iff_right hdiffer]
  rfl

end ColumnAddition

namespace Plan

/-- The statements of an addition that is planned never look ahead just if no column of it is
    stated to reference one that is added later, in whatever dialect they are stated. -/
theorem neverLooksAhead_iff {toCreate : List Table} {toAdd : List Extension} {d₀ d : Dialect}
    {plan : Plan} (distinct : ∀ x ∈ toAdd, x.fields.HasDistinctNames)
    (typed : ∀ x ∈ toAdd, ∀ e ∈ x.fields, e.2.references.IsTypedReference)
    (hplan : (build toCreate toAdd d₀).outcome = .ok plan) {a : ColumnAddition}
    (ha : .add a ∈ plan.operations) {ss : List Statement} (h : a.statements d = .ok ss) :
    NeverLooksAhead ss ↔ a.ReferencesBack d := by
  obtain ⟨tables, -, -, -, hoperations⟩ := build_inv hplan
  rw [hoperations, List.mem_append] at ha
  rcases ha with ha | ha
  · obtain ⟨x, hx, heq⟩ := List.mem_map.1 ha
    obtain rfl := Operation.add.inj heq
    have hx : x ∈ toAdd := (byOrderAndName_perm ..).mem_iff.1 hx
    refine ColumnAddition.neverLooksAhead_statements ?_ ?_ h
    · rw [Extension.columnNames_addition]
      exact distinct x hx
    · exact Extension.forall_columns_addition.2 (typed x hx)
  · obtain ⟨t, -, heq⟩ := List.mem_map.1 ha
    exact absurd heq (by simp)

/-- A node that gains a code and a parent, which is given by its code. -/
def nodeCode : Value × Field :=
  (.text "code", { Field.plain .string with required := .bool false, unique := .bool true })

def nodeParent : Value × Field :=
  (.text "parent", { Field.plain .string with
    required := .bool false
    references := .reference ⟨.text "node", .text "code", none⟩ })

def grownNode (fields : Bag) : Extension := ⟨"node", fields, Number.infinity, []⟩

theorem node_neverLooksAhead :
    ∃ plan a ss, (build [] [grownNode [nodeCode, nodeParent]] .mysql).outcome = .ok plan ∧
      .add a ∈ plan.operations ∧ a.statements .mysql = .ok ss ∧ NeverLooksAhead ss := by
  have hplan : (build [] [grownNode [nodeCode, nodeParent]] .mysql).outcome = .ok ⟨.mysql,
      [.add ((grownNode [nodeCode, nodeParent]).addition .mysql)]⟩ := by cbv
  have hruns : (((grownNode [nodeCode, nodeParent]).addition .mysql).statements .mysql).isOk =
      true := by decide +kernel
  obtain ⟨ss, hss⟩ := Except.eq_ok_of_isOk hruns
  have distinct : ∀ x ∈ [grownNode [nodeCode, nodeParent]], x.fields.HasDistinctNames := by
    refine List.forall_mem_singleton.2 ?_
    simp [grownNode, nodeCode, nodeParent, Bag.HasDistinctNames, Bag.names, Value.sameKey_text]
  have typed : ∀ x ∈ [grownNode [nodeCode, nodeParent]], ∀ e ∈ x.fields,
      e.2.references.IsTypedReference := by
    refine List.forall_mem_singleton.2 (List.forall_mem_cons.2 ⟨.inl rfl, ?_⟩)
    exact List.forall_mem_singleton.2 (.inr rfl)
  refine ⟨_, _, ss, hplan, List.mem_singleton_self _, hss,
    (neverLooksAhead_iff distinct typed hplan (List.mem_singleton_self _) hss).2 ?_⟩
  -- the code references nothing
  exact List.pairwise_pair.2 fun name _ => (Option.some_ne_none _).symm

/-- A parent that comes first is stated to reference a code that is yet to be added. -/
theorem node_looksAhead :
    ∃ plan a ss, (build [] [grownNode [nodeParent, nodeCode]] .postgresql).outcome = .ok plan ∧
      .add a ∈ plan.operations ∧ a.statements .postgresql = .ok ss ∧ ¬ NeverLooksAhead ss := by
  have hplan : (build [] [grownNode [nodeParent, nodeCode]] .postgresql).outcome =
      .ok ⟨.postgresql, [.add ((grownNode [nodeParent, nodeCode]).addition .postgresql)]⟩ := by cbv
  have hruns : (((grownNode [nodeParent, nodeCode]).addition .postgresql).statements
      .postgresql).toOption.any (fun ss => !decide (NeverLooksAhead ss)) = true := by
    decide +kernel
  obtain ⟨ss, hss, hlooks⟩ := Except.exists_of_any hruns
  exact ⟨_, _, ss, hplan, List.mem_singleton_self _, hss, by simpa using hlooks⟩

end Plan

end Accrete
