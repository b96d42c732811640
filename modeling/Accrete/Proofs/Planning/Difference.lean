import Accrete.Difference
import Accrete.Proofs.CreationOrder.Sequence

/-!
# What a comparison finds

The outcome of a comparison, read back.

* `SchemaEntry.lack`          -- what a live database lacks of an entry, whatever is reported
* `difference_inv`            -- a difference holds what is lacking of all entries
* `difference_eq_ok`          -- and is found if nothing stands in the way of a comparison
* `difference_of_complete`    -- nothing is lacking of complete entries
* `nodup_lacking`             -- no table is lacking in two ways
-/

namespace Accrete

namespace SchemaEntry

/-- What a live database lacks of an entry, whatever is reported and refused. -/
def lack (live : List LiveTable) : SchemaEntry → Lack
  | .malformed _ => ⟨none, none⟩
  | .table t => match liveTable? live t.name with
    | none => ⟨some t.complete, none⟩
    | some l => ⟨none, t.extension? l⟩

variable {live : List LiveTable} {d : Dialect} {e : SchemaEntry}

theorem lack_of_outcome {k : Lack} (h : (e.compare live d).outcome = .ok k) : k = e.lack live := by
  cases e with
  | malformed name => exact (Except.ok.inj h).symm
  | table t =>
    rw [compare] at h
    rw [lack]
    cases hl : liveTable? live t.name with
    | none =>
      simp only [hl] at h
      obtain ⟨_, _, h⟩ := Logged.outcome_bind_eq_ok.1 h
      exact (Except.ok.inj h).symm
    | some l =>
      simp only [hl] at h
      obtain ⟨_, _, h⟩ := Logged.outcome_bind_eq_ok.1 h
      split at h
      · obtain ⟨_, _, h⟩ := Logged.outcome_bind_eq_ok.1 h
        exact (Except.ok.inj h).symm
      · exact (Except.ok.inj h).symm

theorem outcome_of_complete (h : e.lack live = ⟨none, none⟩) :
    (e.compare live d).outcome = .ok ⟨none, none⟩ := by
  cases e with
  | malformed name => rfl
  | table t =>
    rw [lack] at h
    rw [compare]
    cases hl : liveTable? live t.name with
    | none => simp [hl] at h
    | some l =>
      simp only [hl, Lack.mk.injEq, true_and] at h
      simp only [h]
      rfl

/-- A comparison only reports types, and only of a table that is live. -/
theorem events_compare_table (t : Table) :
    (compare live d (.table t)).events =
      match liveTable? live t.name with
      | none => []
      | some l => t.typeWarnings l d := by
  rw [compare]
  cases liveTable? live t.name with
  | none =>
    dsimp only
    cases t.checkIndexes <;> rfl
  | some l =>
    dsimp only
    rw [Logged.events_bind (Logged.outcome_report _), Logged.events_report]
    cases t.extension? l with
    | none => exact List.append_nil _
    | some x => cases t.checkColumnKeys <;> exact List.append_nil _

def creations (live : List LiveTable) (entries : List SchemaEntry) : List Table :=
  entries.filterMap fun e => (e.lack live).creation?

def extensions (live : List LiveTable) (entries : List SchemaEntry) : List Extension :=
  entries.filterMap fun e => (e.lack live).extension?

/-- Only a table lacks anything. -/
theorem exists_lack_iff {α : Type} {part : Lack → Option α} (hnone : part ⟨none, none⟩ = none)
    {entries : List SchemaEntry} {a : α} :
    (∃ e ∈ entries, part (e.lack live) = some a) ↔
      ∃ u, .table u ∈ entries ∧ part (lack live (.table u)) = some a := by
  constructor
  · rintro ⟨e, he, hpart⟩
    cases e with
    | malformed name => exact absurd (hnone.symm.trans hpart) (by simp)
    | table u => exact ⟨u, he, hpart⟩
  · rintro ⟨u, hu, hpart⟩
    exact ⟨.table u, hu, hpart⟩

theorem mem_creations {entries : List SchemaEntry} {t : Table} :
    t ∈ creations live entries ↔
      ∃ u, .table u ∈ entries ∧ liveTable? live u.name = none ∧ t = u.complete := by
  rw [creations, List.mem_filterMap, exists_lack_iff rfl]
  refine exists_congr fun u => and_congr_right fun _ => ?_
  cases hl : liveTable? live u.name with
  | none => simp [lack, hl, eq_comm]
  | some l => simp [lack, hl]

theorem mem_extensions {entries : List SchemaEntry} {x : Extension} :
    x ∈ extensions live entries ↔
      ∃ u l, .table u ∈ entries ∧ liveTable? live u.name = some l ∧ u.extension? l = some x := by
  rw [extensions, List.mem_filterMap, exists_lack_iff rfl]
  refine exists_congr fun u => ?_
  cases hl : liveTable? live u.name with
  | none => simp [lack, hl]
  | some l => simp [lack, hl]

end SchemaEntry

theorem mem_of_liveTable?_eq_some {live : List LiveTable} {name : String} {l : LiveTable}
    (h : liveTable? live name = some l) : l ∈ live ∧ l.name = name :=
  ⟨List.mem_reverse.1 (List.mem_of_find?_eq_some h), by simpa using List.find?_some h⟩

theorem Table.table_of_extension? {t : Table} {l : LiveTable} {x : Extension}
    (h : t.extension? l = some x) : x.table = t.name := by
  rw [Table.extension?] at h
  split at h
  · exact absurd h (by simp)
  · rw [← Option.some.inj h]

/-- The extension of a table is the one that goes by its name. -/
theorem SchemaEntry.extension?_of_mem {entries : List SchemaEntry} {live : List LiveTable}
    (names : (entries.map SchemaEntry.name).Nodup) {x : Extension}
    (hx : x ∈ extensions live entries) {t : Table} (ht : .table t ∈ entries)
    (hname : x.table = t.name) {l : LiveTable} (hl : liveTable? live t.name = some l) :
    t.extension? l = some x := by
  obtain ⟨u, l', hu, hul, hux⟩ := mem_extensions.1 hx
  have hsame : SchemaEntry.table u = .table t :=
    List.inj_on_of_nodup_map names hu ht ((Table.table_of_extension? hux).symm.trans hname)
  obtain rfl := SchemaEntry.table.inj hsame
  obtain rfl := Option.some.inj (hul.symm.trans hl)
  exact hux

theorem mem_names_of_lacking {entries : List SchemaEntry} {live : List LiveTable} {name : String}
    (h : name ∈ (SchemaEntry.extensions live entries).map Extension.table ++
      (SchemaEntry.creations live entries).map Table.name) :
    name ∈ entries.map SchemaEntry.name := by
  rcases List.mem_append.1 h with h | h
  · obtain ⟨x, hx, rfl⟩ := List.mem_map.1 h
    obtain ⟨u, l, hu, _, hux⟩ := SchemaEntry.mem_extensions.1 hx
    exact List.mem_map.2 ⟨.table u, hu, (Table.table_of_extension? hux).symm⟩
  · obtain ⟨t, ht, rfl⟩ := List.mem_map.1 h
    obtain ⟨u, hu, _, rfl⟩ := SchemaEntry.mem_creations.1 ht
    exact List.mem_map.2 ⟨.table u, hu, rfl⟩

/-- No table is lacking in two ways. -/
theorem nodup_lacking {entries : List SchemaEntry} (live : List LiveTable)
    (names : (entries.map SchemaEntry.name).Nodup) :
    ((SchemaEntry.extensions live entries).map Extension.table ++
      (SchemaEntry.creations live entries).map Table.name).Nodup := by
  induction entries with
  | nil => exact List.nodup_nil
  | cons e entries ih =>
    obtain ⟨hnew, hnames⟩ := List.nodup_cons.1 names
    have ih := ih hnames
    -- what an entry lacks goes by its name, which no later entry has
    have hfresh : e.name ∉ (SchemaEntry.extensions live entries).map Extension.table ++
        (SchemaEntry.creations live entries).map Table.name :=
      fun hmem => hnew (mem_names_of_lacking hmem)
    simp only [SchemaEntry.creations, SchemaEntry.extensions, List.filterMap_cons] at ih hfresh ⊢
    cases e with
    | malformed name => exact ih
    | table t =>
      cases hl : liveTable? live t.name with
      | none =>
        have hlack : (SchemaEntry.table t).lack live = ⟨some t.complete, none⟩ := by
          simp [SchemaEntry.lack, hl]
        simp only [hlack, List.map_cons]
        exact List.perm_middle.nodup_iff.2 (List.nodup_cons.2 ⟨hfresh, ih⟩)
      | some l =>
        have hlack : (SchemaEntry.table t).lack live = ⟨none, t.extension? l⟩ := by
          simp [SchemaEntry.lack, hl]
        cases hx : t.extension? l with
        | none => simpa only [hlack, hx] using ih
        | some x =>
          simp only [hlack, hx, List.map_cons, List.cons_append]
          rw [Table.table_of_extension? hx]
          exact List.nodup_cons.2 ⟨hfresh, ih⟩

/-! ## Whole differences -/

section Difference

variable {entries : List SchemaEntry} {live : List LiveTable} {d : Dialect}

/-- A difference holds what is lacking of all entries, the tables in creation order.  Reported is
    what each comparison reports, and then the cycles. -/
theorem difference_inv {found : Difference} (h : (difference entries live d).outcome = .ok found) :
    (creationOrder (SchemaEntry.creations live entries)).outcome = .ok found.toCreate ∧
      found.toAdd = extensionsByOrder (SchemaEntry.extensions live entries) ∧
      (difference entries live d).events =
        (entries.flatMap fun e => (e.compare live d).events) ++
          (creationOrder (SchemaEntry.creations live entries)).events := by
  obtain ⟨lacks, hlacks, h⟩ := Logged.outcome_bind_eq_ok.1 h
  obtain ⟨toCreate, hcreate, h⟩ := Logged.outcome_bind_eq_ok.1 h
  have hmap : entries.map (·.lack live) = lacks := map_eq_of_forall₂
    ((Logged.outcome_mapM_eq_ok.1 hlacks).imp fun _ _ hk => (SchemaEntry.lack_of_outcome hk).symm)
  rw [difference, Logged.events_bind hlacks, Logged.events_mapM hlacks,
    Logged.events_bind hcreate, Logged.events_pure, List.append_nil]
  subst hmap
  simp only [List.filterMap_map] at h hcreate ⊢
  obtain rfl := Except.ok.inj h
  exact ⟨hcreate, rfl, rfl⟩

/-- A difference is found just where each entry can be compared and what is lacking can be put in
    creation order. -/
theorem difference_eq_ok {found : Difference} :
    (difference entries live d).outcome = .ok found ↔
      (∀ e ∈ entries, (e.compare live d).outcome = .ok (e.lack live)) ∧
        (creationOrder (SchemaEntry.creations live entries)).outcome = .ok found.toCreate ∧
        found.toAdd = extensionsByOrder (SchemaEntry.extensions live entries) := by
  constructor
  · intro h
    obtain ⟨hcreate, hadd, -⟩ := difference_inv h
    refine ⟨fun e he => ?_, hcreate, hadd⟩
    obtain ⟨lacks, hlacks, -⟩ := Logged.outcome_bind_eq_ok.1 h
    obtain ⟨k, hk, -⟩ := exists_mem_zip_of_forall₂ (Logged.outcome_mapM_eq_ok.1 hlacks) he
    rw [hk, SchemaEntry.lack_of_outcome hk]
  · rintro ⟨hcompare, hcreate, hadd⟩
    obtain ⟨toCreate, toAdd⟩ := found
    obtain rfl : toAdd = extensionsByOrder (SchemaEntry.extensions live entries) := hadd
    rw [difference, Logged.outcome_bind (Logged.outcome_mapM_of_forall hcompare),
      List.filterMap_map, List.filterMap_map]
    exact Logged.outcome_bind hcreate _

theorem creationOrder_nil : creationOrder [] = pure [] := by
  simp [creationOrder, creationOrderBy, byOrderAndName, orderGroups]

theorem extensionsByOrder_nil : extensionsByOrder [] = [] := by
  simp [extensionsByOrder, byOrderAndName]

/-- Nothing is lacking of entries of which each is complete. -/
theorem difference_of_complete (h : ∀ e ∈ entries, e.lack live = ⟨none, none⟩) :
    (difference entries live d).outcome = .ok ⟨[], []⟩ ∧
      (difference entries live d).events = entries.flatMap fun e => (e.compare live d).events := by
  have hlacks : (entries.mapM (SchemaEntry.compare live d)).outcome =
      .ok (entries.map fun _ => ⟨none, none⟩) :=
    Logged.outcome_mapM_of_forall fun e he => SchemaEntry.outcome_of_complete (h e he)
  have hnone : ∀ {β : Type} (g : Lack → Option β), g ⟨none, none⟩ = none →
      (entries.map fun _ => (⟨none, none⟩ : Lack)).filterMap g = [] := by
    intro β g hg
    simp [hg]
  rw [difference, Logged.outcome_bind hlacks, Logged.events_bind hlacks, Logged.events_mapM hlacks,
    hnone _ rfl, hnone _ rfl, creationOrder_nil, extensionsByOrder_nil]
  exact ⟨rfl, List.append_nil _⟩

end Difference

theorem Schema.mem_entries {schema : Schema} {t : Table} :
    .table t ∈ schema.entries ↔ t ∈ schema := by
  simp [Schema.entries]

theorem Schema.entries_nodup {schema : Schema} (h : (schema.map Table.name).Nodup) :
    (schema.entries.map SchemaEntry.name).Nodup := by
  rw [Schema.entries, List.map_map]
  exact h

end Accrete
