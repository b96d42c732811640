import Accrete.Field.Defined
import Accrete.Proofs.Assembly
import Accrete.Proofs.Migrating.Exactness

/-!
# Migrations that succeed

A migration for SQLite that is run without a failure does what it announces, and then there is
nothing left to do, just if all names that it writes are read back as they are.

* `Difference.IsDone.areMadeUp`   -- what was announced is no longer lacking
* `Migration.IsDone`              -- a migration did what it announced, and nothing is left to do
* `Migration.isDone_run_iff`      -- which a migration that succeeds does just if its names are exact
-/

namespace Accrete

/-! ## What was lacking -/

/-- The types that SQLite reports of written columns are compatible with their fields. -/
theorem Field.acceptsType_upper (f : Field) (covered : Bool) :
    f.acceptsType .sqlite (Text.upper (f.columnType .sqlite covered)) = true := by
  have hplain : ∀ type, ∀ s ∈ Dialect.sqlite.nativeTypes type,
      (plain type).acceptsType .sqlite (Text.upper s) = true := by
    intro type
    cases type <;> decide +kernel
  rw [acceptsType_congr (f := f) (g := plain f.type) rfl]
  exact hplain _ _ (columnType_mem_nativeTypes f .sqlite covered)

/-- Columns that are reported of the columns of fields stand for these. -/
theorem Bag.standFor_of_isShownAs {b : Bag} {covered : Columns} {cs : List LiveColumn}
    (h : List.Forall₂ Column.IsShownAs (b.map fun f => f.2.column f.1 .sqlite covered) cs) :
    (∀ e ∈ b, e.1.text?.isSome) ∧ Bag.StandFor .sqlite b cs := by
  rw [List.forall₂_map_left_iff] at h
  have htexts : ∀ (e : Value × Field) (c : LiveColumn),
      (e.2.column e.1 .sqlite covered).IsShownAs c → e.1.text? = some c.name := by
    intro e c hc
    rw [show e.1 = .text c.name from hc.1, Value.text?]
  refine ⟨fun e he => ?_, h.imp fun e c hc => ⟨htexts e c hc, ?_⟩⟩
  · obtain ⟨c, hc, -⟩ := exists_mem_zip_of_forall₂ h he
    rw [htexts e c hc, Option.isSome_some]
  · rw [hc.2]
    exact Field.acceptsType_upper ..

theorem Bag.HasDistinctNames.isCanonical {b : Bag} (h : b.HasDistinctNames)
    (htexts : ∀ e ∈ b, e.1.text?.isSome) : b.IsCanonical := by
  refine ⟨htexts, ?_⟩
  rw [HasDistinctNames, names, List.pairwise_map] at h
  rw [List.Nodup, List.pairwise_map]
  refine h.imp_of_mem fun {e e'} he he' hdiffers heq => ?_
  obtain ⟨s, hs⟩ := Option.isSome_iff_exists.1 (htexts e he)
  rw [Value.sameKey_of_text? hs (heq.symm.trans hs)] at hdiffers
  simp at hdiffers

namespace Difference.IsDone

variable {found : Difference} {before after : List LiveTable} {entries : List SchemaEntry}
  {t : Table}

section

variable (h : found.IsDone before after)
  (names : (entries.map SchemaEntry.name).Nodup)
  (hfound : (difference entries before .sqlite).outcome = .ok found) (ht : .table t ∈ entries)
include h names hfound ht

/-- A table that was not live has columns that stand for its fields. -/
theorem exists_created (hl : liveTable? before t.name = none) :
    ∃ key columns, liveTable? after t.name = some ⟨t.name, key :: columns⟩ ∧
      key.name = primaryKeyName ∧ (∀ e ∈ t.fields, e.1.text?.isSome) ∧
      Bag.StandFor .sqlite t.fields columns := by
  obtain ⟨hcreate, -, -⟩ := difference_inv hfound
  have hcreations := (List.nodup_append.1 (nodup_lacking before names)).2.1
  have hmem : t.complete ∈ found.toCreate := (creationOrder_perm hcreations hcreate).mem_iff.2
    (SchemaEntry.mem_creations.2 ⟨t, ht, hl, rfl⟩)
  obtain ⟨key, columns, hafter, hkey, hcolumns⟩ := h.created t.complete hmem
  obtain ⟨htexts, hstand⟩ := Bag.standFor_of_isShownAs hcolumns
  exact ⟨key, columns, liveTable?_of_mem h.nodup hafter, (Value.text.inj hkey.1).symm, htexts,
    hstand⟩

/-- A table that was live keeps its columns, and has more that stand for the missing fields. -/
theorem exists_extended {l : LiveTable} (hbefore : (before.map LiveTable.name).Nodup)
    (hl : liveTable? before t.name = some l) :
    ∃ added, liveTable? after t.name = some ⟨t.name, l.columns ++ added⟩ ∧
      (∀ e ∈ t.missingFields l, e.1.text?.isSome) ∧
      Bag.StandFor .sqlite (t.missingFields l) added := by
  obtain ⟨-, hadd, -⟩ := difference_inv hfound
  have htoAdd : found.toAdd.Perm (SchemaEntry.extensions before entries) :=
    hadd ▸ byOrderAndName_perm ..
  obtain ⟨hmem, hname⟩ := mem_of_liveTable?_eq_some hl
  cases hx : t.extension? l with
  | none =>
    -- an extension that is announced for it would be its own, and it has none
    have huntouched : l ∈ after := by
      refine h.untouched l hmem fun x hx' hxl => ?_
      have hsame := SchemaEntry.extension?_of_mem names (htoAdd.mem_iff.1 hx') ht
        (hxl.trans hname) hl
      exact absurd (hsame.symm.trans hx) (by simp)
    rw [Table.missingFields_of_extension? hx]
    refine ⟨[], ?_, by simp, .nil⟩
    rw [List.append_nil, ← hname]
    exact liveTable?_of_mem h.nodup huntouched
  | some x =>
    obtain ⟨hxname, hfields, -⟩ := Table.extension?_inv hx
    obtain ⟨l', hl', hname', added, hafter, hadded⟩ := h.extended x
      (htoAdd.mem_iff.2 (SchemaEntry.mem_extensions.2 ⟨t, l, ht, hl, hx⟩))
    obtain rfl : l' = l :=
      List.inj_on_of_nodup_map hbefore hl' hmem (by rw [hname', hxname, hname])
    obtain ⟨htexts, hstand⟩ := Bag.standFor_of_isShownAs hadded
    rw [hfields] at htexts hstand
    refine ⟨added, ?_, htexts, hstand⟩
    rw [hname] at hafter
    exact liveTable?_of_mem h.nodup hafter

theorem isSome_text? (hbefore : (before.map LiveTable.name).Nodup) {e : Value × Field}
    (he : e ∈ t.fields) : e.1.text?.isSome := by
  cases hl : liveTable? before t.name with
  | none =>
    obtain ⟨-, -, -, -, htexts, -⟩ := h.exists_created names hfound ht hl
    exact htexts e he
  | some l =>
    obtain ⟨-, -, htexts, -⟩ := h.exists_extended names hfound ht hbefore hl
    cases hc : l.column? e.1 with
    | none => exact htexts e (Table.mem_missingFields.2 ⟨he, hc⟩)
    | some c =>
      rw [LiveTable.column?, Option.bind_eq_some_iff] at hc
      obtain ⟨s, hs, -⟩ := hc
      rw [hs, Option.isSome_some]

end

theorem areMadeUp {plan : Plan} (h : found.IsDone before after)
    (names : (entries.map SchemaEntry.name).Nodup)
    (hbefore : (before.map LiveTable.name).Nodup)
    (hdistinct : ∀ t, .table t ∈ entries → t.fields.HasDistinctNames)
    (hfound : (difference entries before .sqlite).outcome = .ok found)
    (hmakes : plan.MakesUpFor entries before .sqlite) :
    AreMadeUp entries before after .sqlite := by
  have canonical : ∀ t, .table t ∈ entries → Bag.IsCanonical t.fields := fun t ht =>
    (hdistinct t ht).isCanonical fun e he => h.isSome_text? names hfound ht hbefore he
  refine ⟨fun t ht hl => ?_, fun t l ht hl => ?_⟩
  · obtain ⟨key, columns, hafter, hkey, -, hstand⟩ := h.exists_created names hfound ht hl
    exact ⟨_, hafter, fun e he => hstand.column?_after (canonical t ht) key
      (fun e he => hkey ▸ hmakes.text?_ne_key ht hl he) t.name he⟩
  · obtain ⟨added, hafter, -, hstand⟩ := h.exists_extended names hfound ht hbefore hl
    exact ⟨_, hafter, fun e he => Table.column?_extended (canonical t ht) hstand t.name he⟩

end Difference.IsDone

/-! ## Migrations -/

namespace Plan

theorem build_nil (d : Dialect) : build [] [] d = pure ⟨d, []⟩ := by
  rw [build, creationOrder_nil, extensionsByOrder_nil]
  rfl

end Plan

namespace Migration

theorem bindDialect_of_sqlite {stated : Option String}
    (h : ∀ name ∈ stated, Dialect.ofName? name = some .sqlite) :
    bindDialect (some Database.dialectName) stated = pure .sqlite := by
  cases stated with
  | none =>
    have hname : Dialect.ofName? Database.dialectName = some .sqlite := by decide +kernel
    unfold bindDialect inferDialect
    simp only [hname]
    rfl
  | some name =>
    unfold bindDialect Dialect.parse
    simp only [h name rfl]
    rfl

section Against

variable {schema : Schema} {d : Dialect} {db : Database} {m : Migration}

theorem against_eq_ok : (against schema d db none).outcome = .ok m ↔
    ∃ live, (db.introspect none).outcome = .ok live ∧
      (Accrete.difference schema.entries live d).outcome = .ok m.difference ∧
      (Plan.build m.difference.toCreate m.difference.toAdd d).outcome = .ok m.plan := by
  simp only [against, Logged.outcome_bind_eq_ok, Logged.outcome_pure]
  constructor
  · rintro ⟨live, hlive, found, hfound, plan, hplan, h⟩
    obtain rfl := Except.ok.inj h
    exact ⟨live, hlive, hfound, hplan⟩
  · rintro ⟨live, hlive, hfound, hplan⟩
    exact ⟨live, hlive, _, hfound, _, hplan, rfl⟩

theorem events_against {live : List LiveTable} (h : (against schema d db none).outcome = .ok m)
    (hlive : (db.introspect none).outcome = .ok live) :
    (against schema d db none).events = (db.introspect none).events ++
      ((Accrete.difference schema.entries live d).events ++
        (Plan.build m.difference.toCreate m.difference.toAdd d).events) := by
  obtain ⟨live', hlive', hfound, hplan⟩ := against_eq_ok.1 h
  obtain rfl := Except.ok.inj (hlive.symm.trans hlive')
  rw [against, Logged.events_bind hlive, Logged.events_bind hfound, Logged.events_bind hplan,
    Logged.events_pure, List.append_nil]

end Against

variable {fragments : List Fragment} {stated : Option String}

/-- Preparing assembles fragments and plans for the dialect that is stated or inferred. -/
theorem prepare_of_assemble (db : Database) {schema : Schema}
    (hstated : ∀ name ∈ stated, Dialect.ofName? name = some .sqlite)
    (hschema : (Schema.assemble fragments).outcome = .ok schema) :
    (prepare db fragments stated none).outcome = (against schema .sqlite db none).outcome ∧
      (prepare db fragments stated none).events =
        (Schema.assemble fragments).events ++ (against schema .sqlite db none).events := by
  have htarget : (target fragments stated).outcome = .ok (schema, .sqlite) := by
    rw [target, Logged.outcome_bind hschema, bindDialect_of_sqlite hstated]
    rfl
  have hevents : (target fragments stated).events = (Schema.assemble fragments).events := by
    rw [target, Logged.events_bind hschema, bindDialect_of_sqlite hstated]
    exact List.append_nil _
  rw [prepare, Logged.outcome_bind htarget, Logged.events_bind htarget, hevents]
  exact ⟨rfl, rfl⟩

/-- A migration did what it announced, and nothing is left to do: the tables that are reported
    before and after differ in what was announced, another migration would do nothing, and no
    warning is given about the type of a column that was made. -/
structure IsDone (m : Migration) (fragments : List Fragment) (stated : Option String)
    (db db' : Database) : Prop where
  announced : ∃ before after, (db.introspect none).outcome = .ok before ∧
    (db'.introspect none).outcome = .ok after ∧ m.difference.IsDone before after
  nothingLeft : (prepare db' fragments stated none).outcome = .ok ⟨⟨[], []⟩, ⟨.sqlite, []⟩⟩
  noWarning : ∃ schema, (Schema.assemble fragments).outcome = .ok schema ∧
    ∀ table column expected type, .typeDiffers table column expected type ∈
        (prepare db' fragments stated none).events →
      ∃ t ∈ schema, t.name = table ∧ ∃ e ∈ t.fields, e.1.plain = column ∧
        ∀ op ∈ m.plan.operations, op.table = table → ∀ c ∈ op.columns, c.name.text? ≠ e.1.text?

/-- A migration for SQLite that is run without a failure does what it announces, and leaves nothing
    to do, just if all names that its plan writes are read back as they are. -/
theorem isDone_run_iff {db : Database} {m : Migration} {bind : BindKind} (hdb : db.NamesDiffer)
    (hstated : ∀ name ∈ stated, Dialect.ofName? name = some .sqlite)
    (hm : (prepare db fragments stated none).outcome = .ok m)
    (hrun : (m.run bind db).failure = none) :
    m.IsDone fragments stated db (m.run bind db).state ↔
      ∀ op ∈ m.plan.operations, op.IsExact := by
  obtain ⟨target, htarget, -⟩ := Logged.outcome_bind_eq_ok.1 hm
  obtain ⟨schema, hschema, -⟩ := Logged.outcome_bind_eq_ok.1 htarget
  obtain ⟨before, hbefore, hfound, hplan⟩ :=
    against_eq_ok.1 ((prepare_of_assemble db hstated hschema).1.symm.trans hm)
  have names : (schema.entries.map SchemaEntry.name).Nodup := by
    rw [Schema.entries, List.map_map]
    exact Schema.assemble_nodup hschema
  have hdistinct : ∀ t, .table t ∈ schema.entries → t.fields.HasDistinctNames := by
    intro t ht
    obtain ⟨u, hu, hut⟩ := List.mem_map.1 ht
    exact SchemaEntry.table.inj hut ▸ Schema.assemble_distinct hschema u hu
  constructor
  · rintro ⟨⟨before', after, hbefore', hafter, hdone⟩, -, -⟩
    obtain rfl := Except.ok.inj (hbefore.symm.trans hbefore')
    exact hdone.isExact hdb names hbefore hfound hplan hrun hafter
  intro hexact
  -- what is announced is stored, and then reported
  have hdb' : (m.run bind db).state.NamesDiffer := by
    obtain ⟨hfailure, hstate⟩ := m.plan.run_backend bind db
    rw [run, hstate]
    exact runOperations_namesDiffer hdb (hfailure.symm.trans hrun)
  obtain ⟨gained, created, hmade, hshown⟩ :=
    Plan.isMade_run hdb names hbefore hfound hplan hexact hrun
  obtain ⟨after, hafter⟩ := hmade.exists_introspect hshown hbefore
  have hdone := hmade.isDone hdb' hshown hbefore hafter
  -- so nothing is lacking any more
  have hmakes := Plan.build_difference_makesUpFor names hfound hplan
  have hup := hdone.areMadeUp names (hdb.nodup_introspect hbefore) hdistinct hfound hmakes
  obtain ⟨hempty, hevents⟩ := difference_of_complete (d := .sqlite) fun e he => (hup.compare he).1
  have hagain : (against schema .sqlite (m.run bind db).state none).outcome =
      .ok ⟨⟨[], []⟩, ⟨.sqlite, []⟩⟩ :=
    against_eq_ok.2 ⟨after, hafter, hempty, by rw [Plan.build_nil]; rfl⟩
  obtain ⟨houtcome, hreported⟩ := prepare_of_assemble (m.run bind db).state hstated hschema
  refine ⟨⟨before, after, hbefore, hafter, hdone⟩, houtcome.trans hagain, schema, hschema,
    fun table column expected type hevent => ?_⟩
  rw [hreported, events_against hagain hafter, Plan.build_nil, Logged.events_pure, List.append_nil,
    hevents, List.mem_append, List.mem_append] at hevent
  rcases hevent with hevent | hevent | hevent
  · exact absurd (Schema.source_assemble hschema _ hevent) (by simp [Event.source])
  · exact absurd (Database.events_introspect hafter _ hevent) (by simp)
  · obtain ⟨t, ht, hname, hcolumn⟩ := hup.notMem_columns_of_typeDiffers hmakes hevent
    obtain ⟨u, hu, hut⟩ := List.mem_map.1 ht
    obtain rfl := SchemaEntry.table.inj hut
    exact ⟨u, hu, hname, hcolumn⟩

def storedRoom : StoredTable where
  name := "room"
  columns := [⟨"id", some "text", .text, .binary, some .abort, none, none⟩]
  rowKey := none
  guards := []
  checks := []
  keyless := false
  strict := false
  definition := ("room (id text NOT NULL".toList, ")".toList)
  rows := []

/-- A fragment with one more column for the stored table, and one for a table that is not there. -/
def house : List Fragment :=
  [⟨"door", Bag.toValue [(.text "room", { Field.plain .string with
      references := .reference ⟨.text "room", .text "id", none⟩ })], none, none, [], []⟩,
    ⟨"room", Bag.toValue [(.text "size", { Field.plain .number with required := .bool false })],
      some (.int 1), none, [], []⟩]

theorem house_isDone :
    let db : Database := ⟨[storedRoom], [], .none⟩
    db.NamesDiffer ∧ ∃ m, (prepare db house none none).outcome = .ok m ∧
      (∀ op ∈ m.plan.operations, op.IsExact) ∧ (m.run .engine db).failure = none ∧
      m.difference.toCreate.map Table.name = ["door"] ∧
      m.difference.toAdd.map Extension.table = ["room"] ∧
      m.IsDone house none db (m.run .engine db).state := by
  intro db
  have hdb : db.NamesDiffer := List.nodup_singleton _
  have hruns : (prepare db house none none).outcome.toOption.any (fun m =>
      decide (∀ op ∈ m.plan.operations, op.IsExact) && (m.run .engine db).failure.isNone &&
        (m.difference.toCreate.map Table.name == ["door"]) &&
        (m.difference.toAdd.map Extension.table == ["room"])) = true := by decide +kernel
  obtain ⟨m, hm, hruns⟩ := Except.exists_of_any hruns
  simp only [Bool.and_eq_true, decide_eq_true_eq, Option.isNone_iff_eq_none, beq_iff_eq] at hruns
  obtain ⟨⟨⟨hexact, hrun⟩, hcreate⟩, hadd⟩ := hruns
  exact ⟨hdb, m, hm, hexact, hrun, hcreate, hadd,
    (isDone_run_iff hdb (by simp) hm hrun).2 hexact⟩

/-- A name that ends in a line feed and otherwise needs no quotes is written without any. -/
def lineFeed : List Fragment :=
  [⟨"a\n", Bag.toValue [(.text "c", Field.plain .string)], none, none, [], []⟩]

/-- The line feed is not read back, so that the table goes by another name. -/
theorem lineFeed_not_isDone :
    Database.empty.NamesDiffer ∧ ∃ m, (prepare .empty lineFeed none none).outcome = .ok m ∧
      (m.run .engine .empty).failure = none ∧
      (∀ before after, ((m.run .engine .empty).state.introspect none).outcome = .ok after →
        ¬m.difference.IsDone before after) ∧
      ∃ again, (prepare (m.run .engine .empty).state lineFeed none none).outcome = .ok again ∧
        again.plan.operations ≠ [] := by
  have hruns : (prepare .empty lineFeed none none).outcome.toOption.any (fun m =>
      (m.run .engine .empty).failure.isNone &&
        (m.difference.toCreate.map Table.name == ["a\n"]) &&
        ((m.run .engine .empty).state.shown.map Prod.fst == ["a"]) &&
        (prepare (m.run .engine .empty).state lineFeed none none).outcome.toOption.any
          fun again => !again.plan.operations.isEmpty) = true := by decide +kernel
  obtain ⟨m, hm, hruns⟩ := Except.exists_of_any hruns
  simp only [Bool.and_eq_true, Option.isNone_iff_eq_none, beq_iff_eq] at hruns
  obtain ⟨⟨⟨hrun, hcreate⟩, hshown⟩, hagain⟩ := hruns
  obtain ⟨again, hagain, hnonempty⟩ := Except.exists_of_any hagain
  refine ⟨Database.empty_namesDiffer, m, hm, hrun, fun before after hafter hdone => ?_, again,
    hagain, fun hnil => by simp [hnil] at hnonempty⟩
  have hnames := (Database.names_introspect_perm hafter).symm.trans hdone.names
  rw [hshown, hcreate] at hnames
  have hmem : "a\n" ∈ ["a"] := hnames.mem_iff.2 (by simp)
  exact absurd hmem (by decide)

end Migration

end Accrete
