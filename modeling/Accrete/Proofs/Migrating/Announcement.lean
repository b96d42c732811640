import Accrete.Proofs.Database.Reporting
import Accrete.Proofs.Migrating.Running
import Accrete.Proofs.Planning.Completion

/-!
# What is announced

A difference announces tables and columns.  Running its plan makes just these.

* `Difference.IsDone`         -- what is announced is what differs between two reports
* `Difference.IsMade`         -- what is announced is stored
* `Difference.IsMade.isDone`  -- what is stored is reported
* `Plan.isMade_run`           -- a plan that is run without a failure stores what is announced
-/

namespace Accrete

/-! ## Planned columns -/

theorem Field.columnType_mem_sqliteTypes (f : Field) (covered : Bool) :
    f.columnType .sqlite covered ∈ sqliteTypes := by
  have hnative : ∀ s ∈ Dialect.sqlite.nativeTypes f.type, s ∈ sqliteTypes := by
    cases f.type <;> decide
  exact hnative _ (columnType_mem_nativeTypes f .sqlite covered)

theorem Extension.isPlanned_addition (x : Extension) :
    (Operation.add (x.addition .sqlite)).IsPlanned := by
  refine ⟨fun c hc => ?_, fun c h => absurd h (by simp)⟩
  obtain ⟨e, -, rfl⟩ := List.mem_map.1 hc
  exact Field.columnType_mem_sqliteTypes ..

theorem Table.isPlanned_creation (t : Table) :
    (Operation.create (t.creation .sqlite)).IsPlanned := by
  refine ⟨fun c hc => ?_, fun c h => ?_⟩
  · rcases List.mem_cons.1 hc with rfl | hc
    · decide
    · obtain ⟨e, -, rfl⟩ := List.mem_map.1 hc
      exact Field.columnType_mem_sqliteTypes ..
  · obtain rfl := Operation.create.inj h
    exact ⟨_, _, rfl, rfl⟩

theorem Plan.isPlanned_of_build {toCreate : List Table} {toAdd : List Extension} {plan : Plan}
    (h : (build toCreate toAdd .sqlite).outcome = .ok plan) :
    ∀ op ∈ plan.operations, op.IsPlanned := by
  obtain ⟨tables, -, -, -, hoperations⟩ := build_inv h
  intro op hop
  rw [hoperations, List.mem_append, List.mem_map, List.mem_map] at hop
  rcases hop with ⟨x, -, rfl⟩ | ⟨t, -, rfl⟩
  · exact x.isPlanned_addition
  · exact t.isPlanned_creation

/-- A column is reported under its name, and with its type in upper case. -/
def Column.IsShownAs (c : Column) (l : LiveColumn) : Prop :=
  c.name = .text l.name ∧ l.type = Text.upper c.type

theorem Column.Makes.exists_reported {c : Column} {s : StoredColumn} (h : c.Makes s)
    (htype : c.type ∈ sqliteTypes) : ∃ l, s.IsReportedAs l ∧ c.IsShownAs l :=
  ⟨_, StoredColumn.isReportedAs_of_type htype h.2, h.1, rfl⟩

theorem exists_reported_of_makes {columns : List Column} {stored : List StoredColumn}
    (htypes : ∀ c ∈ columns, c.type ∈ sqliteTypes) (h : List.Forall₂ Column.Makes columns stored) :
    ∃ live, List.Forall₂ StoredColumn.IsReportedAs stored live := by
  induction h with
  | nil => exact ⟨[], .nil⟩
  | @cons c s columns stored hs _ ih =>
    obtain ⟨l, hl, -⟩ := hs.exists_reported (htypes c List.mem_cons_self)
    obtain ⟨live, hlive⟩ := ih fun c hc => htypes c (List.mem_cons_of_mem _ hc)
    exact ⟨l :: live, .cons hl hlive⟩

/-- What a migration made is reported as it says. -/
theorem isShownAs_of_makes {columns : List Column} {stored : List StoredColumn}
    {live : List LiveColumn} (htypes : ∀ c ∈ columns, c.type ∈ sqliteTypes)
    (h : List.Forall₂ Column.Makes columns stored)
    (hlive : List.Forall₂ StoredColumn.IsReportedAs stored live) :
    List.Forall₂ Column.IsShownAs columns live := by
  induction h generalizing live with
  | nil =>
    obtain rfl := List.forall₂_nil_left_iff.1 hlive
    exact .nil
  | @cons c s columns stored hs _ ih =>
    obtain ⟨l, live, hl, hrest, rfl⟩ := List.forall₂_cons_left_iff.1 hlive
    obtain ⟨l', hl', hshown⟩ := hs.exists_reported (htypes c List.mem_cons_self)
    obtain rfl := hl.unique hl'
    exact .cons hshown (ih (fun c hc => htypes c (List.mem_cons_of_mem _ hc)) hrest)

/-! ## Tables -/

theorem liveTable?_of_mem {live : List LiveTable} (h : (live.map LiveTable.name).Nodup)
    {l : LiveTable} (hl : l ∈ live) : liveTable? live l.name = some l := by
  have hnodup : (live.reverse.map LiveTable.name).Nodup := by
    rw [List.map_reverse]
    exact List.nodup_reverse.2 h
  have hfound := find?_of_nodup_map hnodup (List.mem_reverse.2 hl)
  exact hfound

/-- What a difference announces is what differs between the tables that are reported before and
    after: each table to create is there, with the generated key and then a column for each field
    in order; each table to extend has its columns, and then one for each field that it lacked;
    there are no other tables, and no others differ. -/
structure Difference.IsDone (found : Difference) (before after : List LiveTable) : Prop where
  names : (after.map LiveTable.name).Perm
    (before.map LiveTable.name ++ found.toCreate.map Table.name)
  nodup : (after.map LiveTable.name).Nodup
  created : ∀ t ∈ found.toCreate, ∃ key columns, ⟨t.name, key :: columns⟩ ∈ after ∧
    (Table.keyColumn .sqlite).IsShownAs key ∧
    List.Forall₂ Column.IsShownAs (t.declaredColumns .sqlite) columns
  extended : ∀ x ∈ found.toAdd, ∃ l ∈ before, l.name = x.table ∧ ∃ added,
    ⟨l.name, l.columns ++ added⟩ ∈ after ∧
    List.Forall₂ Column.IsShownAs (x.addition .sqlite).columns added
  untouched : ∀ l ∈ before, (∀ x ∈ found.toAdd, x.table ≠ l.name) → l ∈ after

/-- What a difference announces is stored: `gained` are the columns that each table gains, and
    `created` the tables that are new. -/
structure Difference.IsMade (found : Difference) (before : List (String × List StoredColumn))
    (gained : String → List StoredColumn) (created : List (String × List StoredColumn)) : Prop where
  live : ∀ x ∈ found.toAdd, x.table ∈ before.map Prod.fst
  extended : ∀ x ∈ found.toAdd,
    List.Forall₂ Column.Makes (x.addition .sqlite).columns (gained x.table)
  untouched : ∀ table, (∀ x ∈ found.toAdd, x.table ≠ table) → gained table = []
  created : ∃ tables, tables.Perm found.toCreate ∧
    List.Forall₂ (fun (t : Table) (u : String × List StoredColumn) =>
      u.1 = t.name ∧ List.Forall₂ Column.Makes (t.creation .sqlite).columns u.2) tables created

namespace Difference.IsMade

variable {found : Difference} {db db' : Database} {gained : String → List StoredColumn}
  {created : List (String × List StoredColumn)} {before after : List LiveTable}

theorem exists_gained (h : found.IsMade db.shown gained created) (table : String) :
    ∃ added, List.Forall₂ StoredColumn.IsReportedAs (gained table) added := by
  by_cases hextended : ∃ x ∈ found.toAdd, x.table = table
  · obtain ⟨x, hx, rfl⟩ := hextended
    exact exists_reported_of_makes x.isPlanned_addition.types (h.extended x hx)
  · rw [h.untouched table fun x hx heq => hextended ⟨x, hx, heq⟩]
    exact ⟨[], .nil⟩

theorem isReportedAs_extended {t : String × List StoredColumn} {l : LiveTable}
    {stored : List StoredColumn} {added : List LiveColumn} (hl : IsReportedAs t l)
    (hadded : List.Forall₂ StoredColumn.IsReportedAs stored added) :
    IsReportedAs (t.1, t.2 ++ stored) ⟨l.name, l.columns ++ added⟩ :=
  ⟨hl.1, List.rel_append hl.2 hadded⟩

/-- All that is stored afterwards is reported. -/
theorem exists_introspect (h : found.IsMade db.shown gained created)
    (hshown : db'.shown = db.shown.map (fun t => (t.1, t.2 ++ gained t.1)) ++ created)
    (hbefore : (db.introspect none).outcome = .ok before) :
    ∃ after, (db'.introspect none).outcome = .ok after := by
  refine Database.exists_introspect fun t' ht' => ?_
  rw [hshown, List.mem_append, List.mem_map] at ht'
  rcases ht' with ⟨t, ht, rfl⟩ | hnew
  · obtain ⟨l, hl⟩ := Database.exists_isReportedAs hbefore ht
    obtain ⟨added, hadded⟩ := h.exists_gained t.1
    exact ⟨_, isReportedAs_extended hl hadded⟩
  · obtain ⟨tables, -, hcreated⟩ := h.created
    obtain ⟨t, ⟨-, hmakes⟩, -⟩ := exists_mem_zip_of_forall₂ hcreated.flip hnew
    obtain ⟨live, hlive⟩ := exists_reported_of_makes t.isPlanned_creation.types hmakes
    exact ⟨⟨t'.1, live⟩, rfl, hlive⟩

/-- What is stored is reported as it was announced. -/
theorem isDone (h : found.IsMade db.shown gained created) (hdb' : db'.NamesDiffer)
    (hshown : db'.shown = db.shown.map (fun t => (t.1, t.2 ++ gained t.1)) ++ created)
    (hbefore : (db.introspect none).outcome = .ok before)
    (hafter : (db'.introspect none).outcome = .ok after) : found.IsDone before after := by
  obtain ⟨tables, htables, hcreated⟩ := h.created
  have hold : ∀ t ∈ db.shown, (t.1, t.2 ++ gained t.1) ∈ db'.shown := fun t ht =>
    hshown ▸ List.mem_append_left _ (List.mem_map.2 ⟨t, ht, rfl⟩)
  refine ⟨?_, hdb'.nodup_introspect hafter, fun t ht => ?_, fun x hx => ?_, fun l hl hother => ?_⟩
  · -- no other tables are there
    have hnames : db'.shown.map Prod.fst = db.shown.map Prod.fst ++ tables.map Table.name := by
      rw [hshown, List.map_append, List.map_map]
      exact congrArg _ (map_eq_map_of_forall₂ (hcreated.imp fun _ _ hu => hu.1.symm)).symm
    refine (Database.names_introspect_perm hafter).trans (hnames ▸ ?_)
    exact (Database.names_introspect_perm hbefore).symm.append (htables.map _)
  · -- a table that was created
    obtain ⟨u, ⟨hname, hmakes⟩, hmem⟩ :=
      exists_mem_zip_of_forall₂ hcreated (htables.mem_iff.2 ht)
    have hu : u ∈ db'.shown := hshown ▸ List.mem_append_right _ (List.of_mem_zip hmem).1
    obtain ⟨l, hl⟩ := Database.exists_isReportedAs hafter hu
    have hcolumns := isShownAs_of_makes t.isPlanned_creation.types hmakes hl.2
    obtain ⟨key, columns, hkey, hdeclared, hlcolumns⟩ := List.forall₂_cons_left_iff.1 hcolumns
    refine ⟨key, columns, ?_, hkey, hdeclared⟩
    rw [← hname, ← hl.1, ← hlcolumns]
    exact Database.mem_of_isReportedAs hafter hu hl
  · -- a table that was extended
    obtain ⟨t, ht, hname⟩ := List.mem_map.1 (h.live x hx)
    obtain ⟨l, hl⟩ := Database.exists_isReportedAs hbefore ht
    obtain ⟨added, hadded⟩ := h.exists_gained t.1
    refine ⟨l, Database.mem_of_isReportedAs hbefore ht hl, hl.1.trans hname, added, ?_, ?_⟩
    · exact Database.mem_of_isReportedAs hafter (hold t ht) (isReportedAs_extended hl hadded)
    · rw [hname] at hadded
      exact isShownAs_of_makes x.isPlanned_addition.types (h.extended x hx) hadded
  · -- any other table
    obtain ⟨t, ht, htl⟩ := Database.exists_shown_of_mem hbefore hl
    have hsame := hold t ht
    rw [h.untouched t.1 (htl.1 ▸ hother), List.append_nil] at hsame
    exact Database.mem_of_isReportedAs hafter hsame htl

end Difference.IsMade

/-- The plan of a difference extends tables that are shown, and creates those that are lacking. -/
theorem Plan.build_difference_live {db : Database} {entries : List SchemaEntry}
    {before : List LiveTable} {found : Difference} {plan : Plan}
    (names : (entries.map SchemaEntry.name).Nodup)
    (hbefore : (db.introspect none).outcome = .ok before)
    (hfound : (difference entries before .sqlite).outcome = .ok found)
    (hplan : (build found.toCreate found.toAdd .sqlite).outcome = .ok plan) :
    ∃ (additions : List Extension) (tables : List Table),
      additions.Perm found.toAdd ∧ tables.Perm found.toCreate ∧
      plan.dialect = .sqlite ∧
      plan.operations = (additions.map (·.addition .sqlite)).map .add ++
        (tables.map (·.creation .sqlite)).map .create ∧
      (additions.map Extension.table).Nodup ∧
      ∀ x ∈ found.toAdd, x.table ∈ db.shown.map Prod.fst := by
  obtain ⟨hcreate, hadd, -⟩ := difference_inv hfound
  obtain ⟨tables, htables, -, hdialect, hoperations⟩ := build_inv hplan
  obtain ⟨hextensions, hcreations, -⟩ := List.nodup_append.1 (nodup_lacking before names)
  have htoCreate := creationOrder_perm hcreations hcreate
  have hsorted : (extensionsByOrder found.toAdd).Perm found.toAdd := byOrderAndName_perm ..
  have htoAdd : found.toAdd.Perm (SchemaEntry.extensions before entries) :=
    hadd ▸ byOrderAndName_perm ..
  refine ⟨extensionsByOrder found.toAdd, tables, hsorted,
    creationOrder_perm ((htoCreate.map _).nodup_iff.2 hcreations) htables, hdialect, ?_,
    ((hsorted.trans htoAdd).map Extension.table).nodup_iff.2 hextensions, fun x hx => ?_⟩
  · rw [hoperations, List.map_map, List.map_map]
    rfl
  · obtain ⟨u, l, -, hl, hux⟩ := SchemaEntry.mem_extensions.1 (htoAdd.mem_iff.1 hx)
    obtain ⟨hmem, hname⟩ := mem_of_liveTable?_eq_some hl
    rw [Table.table_of_extension? hux, ← hname]
    exact (Database.names_introspect_perm hbefore).mem_iff.1 (List.mem_map_of_mem hmem)

/-- A plan that is run without a failure makes what its difference announces. -/
theorem Plan.isMade_run {db : Database} {entries : List SchemaEntry} {before : List LiveTable}
    {found : Difference} {plan : Plan} {bind : BindKind} (hdb : db.NamesDiffer)
    (names : (entries.map SchemaEntry.name).Nodup)
    (hbefore : (db.introspect none).outcome = .ok before)
    (hfound : (difference entries before .sqlite).outcome = .ok found)
    (hplan : (build found.toCreate found.toAdd .sqlite).outcome = .ok plan)
    (hexact : ∀ op ∈ plan.operations, op.IsExact)
    (hrun : (plan.run Database.backend bind db).failure = none) :
    ∃ gained created, found.IsMade db.shown gained created ∧
      (plan.run Database.backend bind db).state.shown =
        db.shown.map (fun t => (t.1, t.2 ++ gained t.1)) ++ created := by
  obtain ⟨additions, tables, hadditions, htables, hdialect, hoperations, hnodup, hlive⟩ :=
    build_difference_live names hbefore hfound hplan
  have hdistinct : ((additions.map (·.addition .sqlite)).map (·.table)).Nodup := by
    rw [List.map_map]
    exact hnodup
  have hshownTables : ∀ a ∈ additions.map (·.addition .sqlite),
      a.table ∈ db.shown.map Prod.fst := by
    rw [List.forall_mem_map]
    exact fun x hx => hlive x (hadditions.mem_iff.1 hx)
  obtain ⟨gained, created, hshown, hgained, hnone, hcreated⟩ := plan.shown_run
    (additions.map (·.addition .sqlite)) (tables.map (·.creation .sqlite)) hdb hdialect hoperations
    hdistinct hshownTables hexact (isPlanned_of_build hplan) hrun
  refine ⟨gained, created, ⟨hlive, fun x hx => ?_, fun table htable => ?_, tables, htables, ?_⟩,
    hshown⟩
  · exact hgained _ (List.mem_map_of_mem (hadditions.mem_iff.2 hx))
  · refine hnone table fun hmem => ?_
    rw [List.map_map] at hmem
    obtain ⟨x, hx, heq⟩ := List.mem_map.1 hmem
    exact htable x (hadditions.mem_iff.1 hx) heq
  · exact List.forall₂_map_left_iff.1 hcreated

end Accrete
