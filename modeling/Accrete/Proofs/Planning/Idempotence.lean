import Accrete.Proofs.Planning.Completion
import Accrete.Proofs.Planning.Effect

/-!
# Planning twice

Once a plan has been carried out nothing is lacking any more, and nothing is reported about the
columns it made.

* `Bag.standFor_liveColumns`           -- the columns that planned columns become
* `Plan.MakesUpFor.areMadeUp_applyTo`  -- what was lacking is made once the plan is carried out
* `difference_applyTo_build`           -- a second comparison finds nothing
-/

namespace Accrete

/-- The live columns that planned columns become stand for their fields. -/
theorem Bag.standFor_liveColumns {b : Bag} (h : b.IsCanonical) (d : Dialect) (covered : Columns) :
    Bag.StandFor d b ((b.map fun f => f.2.column f.1 d covered).filterMap Column.live?) := by
  obtain ⟨htexts, -⟩ := h
  induction b with
  | nil => exact .nil
  | cons f b ih =>
    obtain ⟨t, ht⟩ := Option.isSome_iff_exists.1 (htexts f List.mem_cons_self)
    have hlive : (f.2.column f.1 d covered).live? =
        some ⟨t, f.2.columnType d (f.1.isIn covered), !f.2.isRequired⟩ := by
      simp [Column.live?, Field.column, ht]
    rw [List.map_cons, List.filterMap_cons_some hlive]
    exact .cons ⟨ht, Field.acceptsType_columnType ..⟩
      (ih fun e he => htexts e (List.mem_cons_of_mem _ he))

namespace Plan.MakesUpFor

variable {p : Plan} {entries : List SchemaEntry} {live : List LiveTable} {d : Dialect} {t : Table}

/-- A table that was not live has a live column for each of its fields afterwards. -/
theorem column?_of_created (h : p.MakesUpFor entries live d) (canonical : AreCanonical entries)
    (ht : .table t ∈ entries) (hl : liveTable? live t.name = none) :
    ∃ l, liveTable? (p.applyTo live) t.name = some l ∧
      ∀ e ∈ t.fields, ∃ c, l.column? e.1 = some c ∧ e.2.acceptsType d c.type = true := by
  have hop : Operation.create (t.complete.creation d) ∈ p.operations :=
    (h.mem_operations_iff _).2 (.inl ⟨t, ht, hl, rfl⟩)
  refine ⟨_, liveTable?_applyTo_of_mem h.nodup hop, fun e he => ?_⟩
  have hstand := Bag.standFor_liveColumns (canonical.columns t ht) d t.complete.groups.flatten
  exact hstand.column?_after (canonical.columns t ht) ⟨primaryKeyName, d.idType, false⟩
    (fun e he => h.text?_ne_key ht hl he) t.name he

/-- A live table that lacks nothing is acted on by no operation. -/
theorem notMem_of_complete (h : p.MakesUpFor entries live d) (canonical : AreCanonical entries)
    (ht : .table t ∈ entries) {l : LiveTable} (hl : liveTable? live t.name = some l)
    (hx : t.extension? l = none) : t.name ∉ p.operations.map Operation.table := by
  intro hmem
  obtain ⟨op, hop, hname⟩ := List.mem_map.1 hmem
  rcases (h.mem_operations_iff op).1 hop with ⟨u, hu, hul, rfl⟩ | ⟨u, l', x, hu, hul, hux, rfl⟩
  · rw [← show u.name = t.name from hname, hul] at hl
    exact absurd hl (by simp)
  · have hmem := SchemaEntry.mem_extensions.2 ⟨u, l', hu, hul, hux⟩
    have hsame := SchemaEntry.extension?_of_mem canonical.names hmem ht hname hl
    exact absurd (hsame.symm.trans hx) (by simp)

/-- A live table keeps its columns and gains one for each field that was missing. -/
theorem column?_of_live (h : p.MakesUpFor entries live d) (canonical : AreCanonical entries)
    (ht : .table t ∈ entries) {l : LiveTable} (hl : liveTable? live t.name = some l) :
    ∃ l', liveTable? (p.applyTo live) t.name = some l' ∧
      ∀ e ∈ t.fields, (l.column? e.1).isSome ∧ l'.column? e.1 = l.column? e.1 ∨
        l.column? e.1 = none ∧
          ∃ c, l'.column? e.1 = some c ∧ e.2.acceptsType d c.type = true := by
  cases hx : t.extension? l with
  | none =>
    -- no operation acts on the table
    have huntouched := h.notMem_of_complete canonical ht hl hx
    refine ⟨l, (liveTable?_applyTo_of_notMem huntouched).trans hl, fun e he => .inl ⟨?_, rfl⟩⟩
    by_contra hmissing
    have hmem := Table.mem_missingFields.2 ⟨he, by simpa using hmissing⟩
    exact absurd (Table.missingFields_of_extension? hx ▸ hmem) List.not_mem_nil
  | some x =>
    obtain ⟨hname, hfields, _⟩ := Table.extension?_inv hx
    have hop : Operation.add (x.addition d) ∈ p.operations :=
      (h.mem_operations_iff _).2 (.inr ⟨t, l, x, ht, hl, hx, rfl⟩)
    have hafter : liveTable? (p.applyTo live) (Operation.add (x.addition d)).table =
        (Operation.add (x.addition d)).onTable (liveTable? live _) :=
      liveTable?_applyTo_of_mem h.nodup hop
    rw [show (Operation.add (x.addition d)).table = t.name from hname, hl] at hafter
    refine ⟨_, hafter, fun e he => ?_⟩
    have hstand : Bag.StandFor d (t.missingFields l) (Operation.add (x.addition d)).liveColumns := by
      have hmissing := Table.missingFields_isCanonical (canonical.columns t ht) l
      rw [← hfields] at hmissing ⊢
      exact Bag.standFor_liveColumns hmissing d x.groups.flatten
    exact Table.column?_extended (canonical.columns t ht) hstand l.name he

/-- Once a plan has been carried out what was lacking is made. -/
theorem areMadeUp_applyTo (h : p.MakesUpFor entries live d) (canonical : AreCanonical entries) :
    AreMadeUp entries live (p.applyTo live) d where
  created _ ht hl := h.column?_of_created canonical ht hl
  extended _ _ ht hl := h.column?_of_live canonical ht hl

end Plan.MakesUpFor

/-- Once the plan of a difference has been carried out nothing is lacking any more.  The second
    comparison reports of each entry what the first did, and gives no warning about a column that
    the plan made. -/
theorem difference_applyTo_build {entries : List SchemaEntry} {live : List LiveTable}
    {d : Dialect} {found : Difference} {plan : Plan} (canonical : AreCanonical entries)
    (hfound : (difference entries live d).outcome = .ok found)
    (hplan : (Plan.build found.toCreate found.toAdd d).outcome = .ok plan) :
    let again := difference entries (plan.applyTo live) d
    again.outcome = .ok ⟨[], []⟩ ∧
      again.events = entries.flatMap (fun e => (e.compare live d).events) ∧
      ∀ table column expected type, .typeDiffers table column expected type ∈ again.events →
        ∃ t, .table t ∈ entries ∧ t.name = table ∧ ∃ e ∈ t.fields, e.1.plain = column ∧
          ∀ op ∈ plan.operations, op.table = table → ∀ c ∈ op.columns,
            c.name.text? ≠ e.1.text? := by
  have hmakes := Plan.build_difference_makesUpFor canonical.names hfound hplan
  have hmade := hmakes.areMadeUp_applyTo canonical
  obtain ⟨hempty, hevents⟩ := difference_of_complete (d := d)
    fun e he => (hmade.compare he).1
  refine ⟨hempty, ?_, fun table column expected type hevent => ?_⟩
  · rw [hevents]
    exact List.flatMap_congr fun e he => (hmade.compare he).2
  · rw [hevents] at hevent
    exact hmade.notMem_columns_of_typeDiffers hmakes hevent

/-- A table that is live in part. -/
def partlyLive : Table :=
  ⟨"room", [(.text "size", Field.plain .number), (.text "label", Field.plain .string)], .int 1,
    [], []⟩

/-- A table that is not live. -/
def notLive : Table :=
  ⟨"door", [(.text "room", { Field.plain .string with
    references := .reference ⟨.text "room", .text "id", none⟩ })], Number.infinity, [], []⟩

/-- A live table that lacks a column and has another of the wrong type. -/
def liveRoom : LiveTable := ⟨"room", [⟨"id", "varchar(36)", false⟩, ⟨"size", "text", true⟩]⟩

theorem partlyLive_planned :
    ∃ found plan,
      (difference [.malformed "cellar", .table partlyLive, .table notLive] [liveRoom] .mysql).outcome =
        .ok found ∧
      (Plan.build found.toCreate found.toAdd .mysql).outcome = .ok plan := by
  have hruns : (do
      let found ← difference [.malformed "cellar", .table partlyLive, .table notLive] [liveRoom]
        .mysql
      Plan.build found.toCreate found.toAdd .mysql).outcome.isOk = true := by decide +kernel
  obtain ⟨plan, hruns⟩ := Except.eq_ok_of_isOk hruns
  obtain ⟨found, hfound, hplan⟩ := Logged.outcome_bind_eq_ok.1 hruns
  exact ⟨found, plan, hfound, hplan⟩

set_option maxRecDepth 3000 in
theorem planned_twice :
    let entries := [.malformed "cellar", .table partlyLive, .table notLive]
    AreCanonical entries ∧ ∃ found plan,
      (difference entries [liveRoom] .mysql).outcome = .ok found ∧
      (Plan.build found.toCreate found.toAdd .mysql).outcome = .ok plan ∧
      (difference entries (plan.applyTo [liveRoom]) .mysql).outcome = .ok ⟨[], []⟩ := by
  intro entries
  have canonical : AreCanonical entries := by
    refine ⟨by decide, fun t ht => ?_⟩
    simp only [entries, List.mem_cons, reduceCtorEq, SchemaEntry.table.injEq, false_or,
      List.not_mem_nil, or_false] at ht
    rcases ht with rfl | rfl <;> exact ⟨by decide, by decide⟩
  obtain ⟨found, plan, hfound, hplan⟩ := partlyLive_planned
  exact ⟨canonical, found, plan, hfound, hplan,
    (difference_applyTo_build canonical hfound hplan).1⟩

end Accrete
