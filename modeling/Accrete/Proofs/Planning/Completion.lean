import Accrete.Proofs.Planning.Build
import Accrete.Proofs.Planning.ColumnType
import Accrete.Proofs.Texts

/-!
# Complete tables

Nothing is lacking of a table whose fields all have live columns, and nothing is reported about
columns of compatible types.

* `AreCanonical`              -- a schema whose tables and columns can be told apart
* `Bag.StandFor`              -- columns that stand for the fields of a bag
* `AreMadeUp`                 -- live tables in which what was lacking has been made
* `AreMadeUp.compare`         -- they are complete, and no new column is reported
-/

namespace Accrete

/-- The columns of a table are named by texts, no two of them alike. -/
def Bag.IsCanonical (b : Bag) : Prop :=
  (∀ e ∈ b, e.1.text?.isSome) ∧ (b.map fun e => e.1.text?).Nodup

/-- A schema has one entry for a name, and its tables one field for a column. -/
structure AreCanonical (entries : List SchemaEntry) : Prop where
  names : (entries.map SchemaEntry.name).Nodup
  columns : ∀ t, .table t ∈ entries → Bag.IsCanonical t.fields

/-! ## Columns -/

theorem LiveTable.column?_append (name : String) (cs cs' : List LiveColumn) (v : Value) :
    LiveTable.column? ⟨name, cs ++ cs'⟩ v =
      (LiveTable.column? ⟨name, cs⟩ v).or (LiveTable.column? ⟨name, cs'⟩ v) := by
  cases hv : v.text? with
  | none => simp [LiveTable.column?, hv]
  | some s => simp [LiveTable.column?, hv, List.find?_append]

theorem LiveTable.column?_singleton {name : String} {c : LiveColumn} {v : Value}
    (h : v.text? ≠ some c.name) : LiveTable.column? ⟨name, [c]⟩ v = none := by
  cases hv : v.text? with
  | none => simp [LiveTable.column?, hv]
  | some s =>
    have hne : c.name ≠ s := fun heq => h (by rw [hv, heq])
    simp [LiveTable.column?, hv, hne]

/-- Where columns stand for fields one by one, that of a field is found by its name. -/
theorem Bag.column?_of_forall₂ {b : Bag} (h : b.IsCanonical) {P : Value × Field → LiveColumn → Prop}
    {cs : List LiveColumn} (hcs : List.Forall₂ (fun e c => e.1.text? = some c.name ∧ P e c) b cs)
    (name : String) {e : Value × Field} (he : e ∈ b) :
    ∃ c, LiveTable.column? ⟨name, cs⟩ e.1 = some c ∧ P e c := by
  have hnodup := h.2
  induction hcs with
  | nil => exact absurd he List.not_mem_nil
  | @cons f c b cs hc hcs ih =>
    rw [List.map_cons, List.nodup_cons] at hnodup
    rw [show c :: cs = [c] ++ cs from rfl, LiveTable.column?_append]
    rcases List.mem_cons.1 he with rfl | he
    · exact ⟨c, by simp [LiveTable.column?, hc.1], hc.2⟩
    · -- this column goes by the name of another field
      have hne : e.1.text? ≠ some c.name := by
        intro heq
        exact hnodup.1 (List.mem_map.2 ⟨e, he, heq.trans hc.1.symm⟩)
      rw [LiveTable.column?_singleton hne, Option.none_or]
      exact ih ⟨fun e he => h.1 e (List.mem_cons_of_mem _ he), hnodup.2⟩ he hnodup.2

/-- Columns stand for fields one by one, each of a type that is compatible with its field. -/
def Bag.StandFor (d : Dialect) (b : Bag) (cs : List LiveColumn) : Prop :=
  List.Forall₂ (fun e c => e.1.text? = some c.name ∧ e.2.acceptsType d c.type = true) b cs

/-- A field is found among the columns that stand for a bag, after one of another name. -/
theorem Bag.StandFor.column?_after {b : Bag} {d : Dialect} {cs : List LiveColumn}
    (h : Bag.StandFor d b cs) (canonical : b.IsCanonical) (key : LiveColumn)
    (hkey : ∀ e ∈ b, e.1.text? ≠ some key.name) (name : String) {e : Value × Field} (he : e ∈ b) :
    ∃ c, LiveTable.column? ⟨name, key :: cs⟩ e.1 = some c ∧ e.2.acceptsType d c.type = true := by
  have hskip : LiveTable.column? ⟨name, [key]⟩ e.1 = none := LiveTable.column?_singleton (hkey e he)
  rw [show key :: cs = [key] ++ cs from rfl, LiveTable.column?_append, hskip, Option.none_or]
  exact column?_of_forall₂ canonical h name he

/-! ## Tables -/

namespace Table

variable {t : Table} {l l' : LiveTable} {d : Dialect}

theorem mem_missingFields {e : Value × Field} :
    e ∈ t.missingFields l ↔ e ∈ t.fields ∧ l.column? e.1 = none := by
  simp [missingFields]

theorem extension?_of_complete (h : ∀ e ∈ t.fields, (l.column? e.1).isSome) :
    t.extension? l = none := by
  have hnone : t.missingFields l = [] := by
    refine List.filter_eq_nil_iff.2 fun e he hmissing => ?_
    simpa [Option.isNone_iff_eq_none.1 hmissing] using h e he
  rw [extension?, hnone]

theorem typeWarnings_of_accepted
    (h : ∀ e ∈ t.fields, ∃ c, l.column? e.1 = some c ∧ e.2.acceptsType d c.type = true) :
    t.typeWarnings l d = [] := by
  refine List.filterMap_eq_nil_iff.2 fun e he => ?_
  obtain ⟨c, hc, haccepts⟩ := h e he
  simp [hc, haccepts]

/-- Warnings stay the same where only columns of compatible types are new. -/
theorem typeWarnings_congr
    (h : ∀ e ∈ t.fields, l'.column? e.1 = l.column? e.1 ∨ l.column? e.1 = none ∧
      ∃ c, l'.column? e.1 = some c ∧ e.2.acceptsType d c.type = true) :
    t.typeWarnings l' d = t.typeWarnings l d := by
  refine List.filterMap_congr fun e he => ?_
  rcases h e he with hsame | ⟨hnone, c, hc, haccepts⟩
  · rw [hsame]
  · simp [hnone, hc, haccepts]

theorem missingFields_isCanonical (h : Bag.IsCanonical t.fields) (l : LiveTable) :
    Bag.IsCanonical (t.missingFields l) :=
  ⟨fun e he => h.1 e (mem_missingFields.1 he).1,
    h.2.sublist (List.filter_sublist.map _)⟩

/-- A table that was live keeps its columns and gains those that stand for missing fields. -/
theorem column?_extended (canonical : Bag.IsCanonical t.fields) {cs : List LiveColumn}
    (h : Bag.StandFor d (t.missingFields l) cs) (name : String) {e : Value × Field}
    (he : e ∈ t.fields) :
    (l.column? e.1).isSome ∧ LiveTable.column? ⟨name, l.columns ++ cs⟩ e.1 = l.column? e.1 ∨
      l.column? e.1 = none ∧ ∃ c, LiveTable.column? ⟨name, l.columns ++ cs⟩ e.1 = some c ∧
        e.2.acceptsType d c.type = true := by
  have hold : LiveTable.column? ⟨name, l.columns⟩ e.1 = l.column? e.1 := rfl
  rw [LiveTable.column?_append, hold]
  cases hc : l.column? e.1 with
  | some c => exact .inl ⟨rfl, rfl⟩
  | none =>
    obtain ⟨c, hfound, haccepts⟩ := Bag.column?_of_forall₂ (missingFields_isCanonical canonical l) h
      name (mem_missingFields.2 ⟨he, hc⟩)
    exact .inr ⟨rfl, c, by rw [Option.none_or, hfound], haccepts⟩

theorem missingFields_of_extension? (h : t.extension? l = none) : t.missingFields l = [] := by
  rw [extension?] at h
  split at h
  next hnil => exact hnil
  · exact absurd h (by simp)

/-- The extension of a table by fields that it lacks. -/
def extensionBy (t : Table) (missing : Bag) : Extension :=
  ⟨t.name, missing, t.order, t.indexesWithin (Bag.names missing)⟩

theorem extension?_eq_some {l : LiveTable} {x : Extension} :
    t.extension? l = some x ↔ t.missingFields l ≠ [] ∧ x = t.extensionBy (t.missingFields l) := by
  rw [extension?]
  cases t.missingFields l with
  | nil => simp
  | cons e missing => simp [extensionBy, eq_comm]

theorem extension?_inv {x : Extension} (h : t.extension? l = some x) :
    x.table = t.name ∧ x.fields = t.missingFields l ∧ x.fields ≠ [] := by
  rw [extension?] at h
  split at h
  · exact absurd h (by simp)
  next hne =>
    obtain rfl := Option.some.inj h
    exact ⟨rfl, rfl, fun hnil => hne hnil⟩

end Table

/-! ## Entries -/

/-- Live tables in which what was lacking of a schema has been made: a table that was not live has
    a column of a compatible type for each field, and one that was live keeps its columns and has
    such a column for each field that had none. -/
structure AreMadeUp (entries : List SchemaEntry) (live live' : List LiveTable) (d : Dialect) :
    Prop where
  created : ∀ t, .table t ∈ entries → liveTable? live t.name = none →
    ∃ l, liveTable? live' t.name = some l ∧
      ∀ e ∈ t.fields, ∃ c, l.column? e.1 = some c ∧ e.2.acceptsType d c.type = true
  extended : ∀ t l, .table t ∈ entries → liveTable? live t.name = some l →
    ∃ l', liveTable? live' t.name = some l' ∧
      ∀ e ∈ t.fields, (l.column? e.1).isSome ∧ l'.column? e.1 = l.column? e.1 ∨
        l.column? e.1 = none ∧ ∃ c, l'.column? e.1 = some c ∧ e.2.acceptsType d c.type = true

variable {entries : List SchemaEntry} {live live' : List LiveTable} {d : Dialect}

/-- Nothing is lacking any more, and a comparison reports what it did before. -/
theorem AreMadeUp.compare (h : AreMadeUp entries live live' d) {e : SchemaEntry}
    (he : e ∈ entries) :
    e.lack live' = ⟨none, none⟩ ∧ (e.compare live' d).events = (e.compare live d).events := by
  cases e with
  | malformed name => exact ⟨rfl, rfl⟩
  | table t =>
    simp only [SchemaEntry.lack, SchemaEntry.events_compare_table]
    cases hl : liveTable? live t.name with
    | none =>
      obtain ⟨l, hafter, hcolumns⟩ := h.created t he hl
      simp only [hafter, Lack.mk.injEq, true_and]
      refine ⟨Table.extension?_of_complete fun e he => ?_, Table.typeWarnings_of_accepted hcolumns⟩
      obtain ⟨c, hc, _⟩ := hcolumns e he
      exact Option.isSome_iff_exists.2 ⟨c, hc⟩
    | some l =>
      obtain ⟨l', hafter, hcolumns⟩ := h.extended t l he hl
      simp only [hafter, Lack.mk.injEq, true_and]
      refine ⟨Table.extension?_of_complete fun e he => ?_,
        Table.typeWarnings_congr fun e he => (hcolumns e he).imp_left And.right⟩
      -- a field has the column that was there before, or the one that was made for it
      rcases hcolumns e he with ⟨hsome, hsame⟩ | ⟨_, c, hc, _⟩
      · rw [hsame]
        exact hsome
      · exact Option.isSome_iff_exists.2 ⟨c, hc⟩

variable {p : Plan}

theorem Plan.MakesUpFor.text?_ne_key (h : p.MakesUpFor entries live d) {t : Table}
    (ht : .table t ∈ entries) (hl : liveTable? live t.name = none) {e : Value × Field}
    (he : e ∈ t.fields) : e.1.text? ≠ some primaryKeyName := by
  intro hs
  have hfree := (Bool.or_eq_false_iff.1 (h.declares_no_key t ht hl e he)).1
  rw [Value.sameKey_of_text? hs rfl] at hfree
  simp at hfree

theorem Plan.MakesUpFor.column?_eq_none (h : p.MakesUpFor entries live d) {op : Operation}
    (hop : op ∈ p.operations) {l : LiveTable} (hl : liveTable? live op.table = some l) :
    ∀ c ∈ op.columns, l.column? c.name = none := by
  intro c hc
  rcases (h.mem_operations_iff op).1 hop with ⟨u, _, hul, rfl⟩ | ⟨u, l', x, _, hul, hux, rfl⟩
  · exact absurd (hul.symm.trans hl) (by simp)
  · obtain ⟨hname, hfields, _⟩ := Table.extension?_inv hux
    rw [show (Operation.add (x.addition d)).table = u.name from hname, hul] at hl
    obtain rfl := Option.some.inj hl
    obtain ⟨e, he, rfl⟩ := List.mem_map.1 hc
    exact (Table.mem_missingFields.1 (hfields ▸ he)).2

/-- Every warning about a type that is given once a plan has been carried out is about a column
    that no operation of the plan made. -/
theorem AreMadeUp.notMem_columns_of_typeDiffers (hafter : AreMadeUp entries live live' d)
    (h : p.MakesUpFor entries live d) {table column : String} {expected : LogicalType} {found : String}
    (hevent : .typeDiffers table column expected found ∈
      entries.flatMap fun e => (e.compare live' d).events) :
    ∃ t, .table t ∈ entries ∧ t.name = table ∧ ∃ e ∈ t.fields, e.1.plain = column ∧
      ∀ op ∈ p.operations, op.table = table → ∀ c ∈ op.columns, c.name.text? ≠ e.1.text? := by
  obtain ⟨entry, hentry, hevent⟩ := List.mem_flatMap.1 hevent
  rw [(hafter.compare hentry).2] at hevent
  cases entry with
  | malformed name => exact absurd (List.mem_singleton.1 hevent) (by simp)
  | table t =>
    rw [SchemaEntry.events_compare_table] at hevent
    cases hl : liveTable? live t.name with
    | none => simp [hl] at hevent
    | some l =>
      simp only [hl, Table.typeWarnings, List.mem_filterMap] at hevent
      obtain ⟨e, he, hwarns⟩ := hevent
      cases hc : l.column? e.1 with
      | none => simp [hc] at hwarns
      | some c =>
        by_cases haccepts : e.2.acceptsType d c.type = true
        · simp [hc, haccepts] at hwarns
        · simp only [hc, Option.bind_eq_bind, Option.bind_some, haccepts] at hwarns
          obtain ⟨rfl, rfl, -, -⟩ := by simpa using hwarns
          -- the column was live before, so that no operation has it
          refine ⟨t, hentry, rfl, e, he, rfl, fun op hop hname c' hc' hsame => ?_⟩
          have hnone := h.column?_eq_none hop (hname ▸ hl) c' hc'
          rw [LiveTable.column?, hsame] at hnone
          exact absurd (hc.symm.trans hnone) (by simp)

end Accrete
