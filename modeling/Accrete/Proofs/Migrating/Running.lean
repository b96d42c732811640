import Accrete.Migration
import Accrete.Proofs.Database.Executing
import Accrete.Proofs.Statements

/-!
# What operations do to a database

An operation that is run without a failure creates its table or extends it, and changes nothing
else that is shown.

* `Run.sequence_cons`              -- a run of several steps, of which none fails
* `Operation.IsExact`              -- an operation of which all names are read back as they are
* `Operation.Does`                 -- what an operation does to the tables that are shown
* `Plan.shown_run`                 -- what all operations of a plan do to them
-/

namespace Accrete

/-! ## Runs without a failure -/

namespace Run

variable {σ α : Type} {step : α → σ → Run σ} {a : α} {rest : List α} {state : σ}

theorem andThen_eq {r : Run σ} (next : σ → Run σ) (h : r.failure = none) :
    (r.andThen next).failure = (next r.state).failure ∧
      (r.andThen next).state = (next r.state).state := by
  simp [andThen, h]

theorem failure_of_andThen {r : Run σ} {next : σ → Run σ} (h : (r.andThen next).failure = none) :
    r.failure = none := by
  cases hr : r.failure with
  | none => rfl
  | some e => simp [andThen, hr] at h

theorem sequence_cons (h : (sequence step (a :: rest) state).failure = none) :
    (step a state).failure = none ∧ (sequence step rest (step a state).state).failure = none ∧
      (sequence step (a :: rest) state).state =
        (sequence step rest (step a state).state).state := by
  have hfirst := failure_of_andThen h
  obtain ⟨hfailure, hstate⟩ := andThen_eq (sequence step rest) hfirst
  exact ⟨hfirst, hfailure ▸ h, hstate⟩

theorem sequence_append {before : List α}
    (h : (sequence step (before ++ rest) state).failure = none) :
    (sequence step before state).failure = none ∧
      (sequence step rest (sequence step before state).state).failure = none ∧
      (sequence step (before ++ rest) state).state =
        (sequence step rest (sequence step before state).state).state := by
  induction before generalizing state with
  | nil => exact ⟨rfl, h, rfl⟩
  | cons a before ih =>
    obtain ⟨hfirst, hnext, hstate⟩ := sequence_cons h
    obtain ⟨hbefore, hrest, hstate'⟩ := ih hnext
    obtain ⟨hfailure, hsame⟩ := andThen_eq (sequence step before) hfirst
    rw [sequence, hfailure, hsame]
    exact ⟨hbefore, hrest, hstate.trans hstate'⟩

/-- What every step keeps is kept by a run without a failure. -/
theorem sequence_induction {I : σ → Prop} {steps : List α}
    (hstep : ∀ a ∈ steps, ∀ s, I s → (step a s).failure = none → I (step a s).state)
    (hstate : I state) (h : (sequence step steps state).failure = none) :
    I (sequence step steps state).state := by
  induction steps generalizing state with
  | nil => exact hstate
  | cons a steps ih =>
    obtain ⟨hfirst, hrest, hs⟩ := sequence_cons h
    rw [hs]
    exact ih (fun a ha => hstep a (List.mem_cons_of_mem _ ha))
      (hstep a List.mem_cons_self state hstate hfirst) hrest

end Run

variable {db db' : Database}

theorem reportFailure_ne_none {planned : Dialect} {table : String} {s : Statement} {e : Error} :
    (reportFailure planned table s db e).failure ≠ none := by
  rw [reportFailure]
  split <;> simp [Run.failed]

/-- A statement that is run without a failure is written and executed. -/
theorem runStatement_eq_ok {planned : Dialect} {table : String} {s : Statement}
    (h : (runStatement Database.backend planned table s db).failure = none) :
    ∃ text, s.sent .sqlite = .ok text ∧
      db.execute s text = .ok (runStatement Database.backend planned table s db).state := by
  cases htext : s.sent .sqlite with
  | error cause =>
    simp only [runStatement, Database.backend, htext] at h
    exact absurd h reportFailure_ne_none
  | ok text =>
    cases hexecute : db.execute s text with
    | error cause =>
      simp only [runStatement, Database.backend, htext, hexecute] at h
      exact absurd h reportFailure_ne_none
    | ok db' =>
      refine ⟨text, rfl, ?_⟩
      simp [runStatement, Database.backend, htext, hexecute, Run.done]

theorem runStatement_namesDiffer (hdb : db.NamesDiffer) {planned : Dialect} {table : String}
    {s : Statement} (h : (runStatement Database.backend planned table s db).failure = none) :
    (runStatement Database.backend planned table s db).state.NamesDiffer := by
  obtain ⟨text, -, hexecute⟩ := runStatement_eq_ok h
  exact Database.execute_namesDiffer hdb hexecute

/-- Indexes are not seen in the tables that are shown. -/
theorem shown_runIndexes {planned : Dialect} {table : String} {ss : List Statement}
    (hss : ∀ s ∈ ss, s.IsIndex)
    (h : (Run.sequence (runStatement Database.backend planned table) ss db).failure = none) :
    (Run.sequence (runStatement Database.backend planned table) ss db).state.shown = db.shown := by
  refine Run.sequence_induction (I := fun db' => db'.shown = db.shown) ?_ rfl h
  intro s hs db' hdb' hfailure
  obtain ⟨text, -, hexecute⟩ := runStatement_eq_ok hfailure
  cases s with
  | createIndex => exact (Database.shown_createIndex hexecute).trans hdb'
  | createTable | addColumn | addForeignKey => exact absurd (hss _ hs) id

/-! ## Operations -/

/-- A column is stored under its name and with its type. -/
def Column.Makes (c : Column) (stored : StoredColumn) : Prop :=
  c.name = .text stored.name ∧ stored.type = some c.type

/-- A value names a column by a text that is read back as it is. -/
def Value.IsExact (v : Value) : Prop := ∃ name, v = .text name ∧ Dialect.sqlite.KeepsName name

instance : DecidablePred Value.IsExact
  | .text name => decidable_of_iff (Dialect.sqlite.KeepsName name)
      ⟨fun h => ⟨name, rfl, h⟩, fun ⟨_, heq, h⟩ => Value.text.inj heq ▸ h⟩
  | .null | .bool _ | .number _ | .list _ | .mapping _ | .computedKind _ | .field _
  | .reference _ | .default _ => isFalse fun ⟨_, heq, _⟩ => absurd heq (by simp)

/-- An operation of which all names are texts that are read back as they are. -/
structure Operation.IsExact (op : Operation) : Prop where
  table : Dialect.sqlite.KeepsName op.table
  columns : ∀ c ∈ op.columns, c.name.IsExact

instance : DecidablePred Operation.IsExact := fun op =>
  decidable_of_iff (Dialect.sqlite.KeepsName op.table ∧ ∀ c ∈ op.columns, c.name.IsExact)
    ⟨fun h => ⟨h.1, h.2⟩, fun h => ⟨h.table, h.columns⟩⟩

/-- An operation as it is planned for SQLite. -/
structure Operation.IsPlanned (op : Operation) : Prop where
  types : ∀ c ∈ op.columns, c.type ∈ sqliteTypes
  key : ∀ c, op = .create c → ∃ key columns, c.columns = key :: columns ∧ key.primaryKey = true

/-- What an operation does to the tables that are shown. -/
def Operation.Does (before after : List (String × List StoredColumn)) (op : Operation) : Prop :=
  ∃ columns, List.Forall₂ Column.Makes op.columns columns ∧ match op with
    | .create c => after = before ++ [(c.table, columns)]
    | .add a => after = before.map fun t => if t.1 = a.table then (t.1, t.2 ++ columns) else t

theorem names_extended {before : List (String × List StoredColumn)} {table : String}
    {columns : List StoredColumn} :
    (before.map fun t => if t.1 = table then (t.1, t.2 ++ columns) else t).map Prod.fst =
      before.map Prod.fst := by
  rw [List.map_map]
  refine List.map_congr_left fun t _ => ?_
  dsimp only [Function.comp]
  split <;> rfl

theorem runOperation_eq_ok {planned : Dialect} {op : Operation}
    (h : (runOperation Database.backend planned op db).failure = none) :
    ∃ ss, op.statements planned = .ok ss ∧
      (Run.sequence (runStatement Database.backend planned op.table) ss db).failure = none ∧
      (runOperation Database.backend planned op db).state =
        (Run.sequence (runStatement Database.backend planned op.table) ss db).state := by
  rw [runOperation] at h ⊢
  cases hss : op.statements planned with
  | error cause => simp [hss, Run.failed] at h
  | ok ss =>
    simp only [hss] at h
    exact ⟨ss, rfl, h, rfl⟩

theorem runOperation_namesDiffer (hdb : db.NamesDiffer) {planned : Dialect} {op : Operation}
    (h : (runOperation Database.backend planned op db).failure = none) :
    (runOperation Database.backend planned op db).state.NamesDiffer := by
  obtain ⟨ss, -, hfailure, hstate⟩ := runOperation_eq_ok h
  rw [hstate]
  exact Run.sequence_induction (fun s _ _ hdb' hs => runStatement_namesDiffer hdb' hs) hdb hfailure

/-- An operation that creates a table puts one after the others, with the columns that are read. -/
theorem shown_runOperation_create {c : TableCreation} (hplanned : (Operation.create c).IsPlanned)
    (h : (runOperation Database.backend .sqlite (.create c) db).failure = none) :
    ∃ key columns name names stored, c.columns = key :: columns ∧
      List.Forall₂ Column.IsNamed (key :: columns) (name :: names) ∧
      (runOperation Database.backend .sqlite (.create c) db).state.shown =
        db.shown ++ [(Dialect.sqlite.readBack c.table, stored)] ∧
      stored.map StoredColumn.declared = Definition.readAs (key.spec name) ::
        Definition.declaredBy ((names.zip columns).map fun (name, col) => col.spec name) := by
  obtain ⟨ss, hss, hfailure, hstate⟩ := runOperation_eq_ok h
  obtain ⟨key, columns, hcolumns, hkey⟩ := hplanned.key c rfl
  have htypes : ∀ col ∈ key :: columns, col.type ∈ sqliteTypes := hcolumns ▸ hplanned.types
  obtain ⟨htype, htypes⟩ := List.forall_mem_cons.1 htypes
  obtain ⟨name, names, keys, others, indexes, hnames, rfl, hindexes⟩ :=
    TableCreation.statements_eq_ok hcolumns hkey hss
  -- the table is made by the first statement, and all others make indexes
  obtain ⟨hfirst, hrest, hlast⟩ := Run.sequence_cons hfailure
  obtain ⟨text, hsent, hexecute⟩ := runStatement_eq_ok hfirst
  obtain ⟨stored, hshown, hdeclared⟩ := Database.shown_createTable htype
    (fun s hs => by
      obtain ⟨⟨name, col⟩, hmem, rfl⟩ := List.mem_map.1 hs
      exact htypes col (List.of_mem_zip hmem).2) hsent hexecute
  refine ⟨key, columns, name, names, stored, hcolumns, hnames, ?_, hdeclared⟩
  rw [hstate, hlast, shown_runIndexes (fun s hs => (hindexes s hs).isIndex) hrest, hshown]

theorem makes_of_declared {columns : List Column} {names : List String}
    {stored : List StoredColumn}
    (hnames : List.Forall₂ (fun (c : Column) name => c.name = .text name) columns names)
    (h : stored.map StoredColumn.declared =
      (names.zip columns).map fun (name, c) => (name, some c.type)) :
    List.Forall₂ Column.Makes columns stored := by
  induction hnames generalizing stored with
  | nil => simpa using h
  | @cons c name columns names hname _ ih =>
    rw [List.zip_cons_cons, List.map_cons, List.map_eq_cons_iff] at h
    obtain ⟨s, stored, rfl, hs, hstored⟩ := h
    obtain ⟨hsname, htype⟩ := Prod.mk.inj hs
    exact .cons ⟨hsname ▸ hname, htype⟩ (ih hstored)

theorem runOperation_create {c : TableCreation} (hexact : (Operation.create c).IsExact)
    (hplanned : (Operation.create c).IsPlanned)
    (h : (runOperation Database.backend .sqlite (.create c) db).failure = none) :
    Operation.Does db.shown (runOperation Database.backend .sqlite (.create c) db).state.shown
      (.create c) := by
  obtain ⟨key, columns, name, names, stored, hcolumns, hnames, hshown, hdeclared⟩ :=
    shown_runOperation_create hplanned h
  have hcols : ∀ col ∈ key :: columns, col.name.IsExact := hcolumns ▸ hexact.columns
  -- all columns are named by texts, which are stated and read back as they are
  have htexts : List.Forall₂ (fun (c : Column) name =>
      c.name = .text name ∧ Dialect.sqlite.KeepsName name) (key :: columns) (name :: names) := by
    rw [List.forall₂_iff_zip] at hnames ⊢
    refine ⟨hnames.1, fun {col own} hmem => ?_⟩
    obtain ⟨text, htext, hkeeps⟩ := hcols col (List.of_mem_zip hmem).1
    obtain rfl := (hnames.2 hmem).eq htext
    exact ⟨htext, hkeeps⟩
  obtain ⟨⟨-, hkey⟩, hrest⟩ := List.forall₂_cons.1 htexts
  have hkey : Dialect.sqlite.KeepsName (key.spec name).name := hkey
  have htable : Dialect.sqlite.KeepsName c.table := hexact.table
  refine ⟨stored, ?_, ?_⟩
  · rw [show (Operation.create c).columns = key :: columns from hcolumns]
    refine makes_of_declared (htexts.imp fun _ _ h => h.1) (hdeclared.trans ?_)
    rw [Definition.declaredBy_of_keepsName ?_, List.map_map, List.zip_cons_cons, List.map_cons,
      Definition.readAs_of_keepsName hkey]
    · rfl
    · intro s hs
      obtain ⟨⟨own, col⟩, hmem, rfl⟩ := List.mem_map.1 hs
      exact ((List.forall₂_iff_zip.1 hrest.flip).2 hmem).2
  · dsimp only
    rw [hshown, Dialect.readBack_of_keepsName htable]

theorem shown_runColumns {a : ColumnAddition} {columns : List Column} {ss : List Statement}
    (hdb : db.NamesDiffer) (htable : Dialect.sqlite.KeepsName a.table)
    (hlive : a.table ∈ db.shown.map Prod.fst)
    (hexact : ∀ c ∈ columns, c.name.IsExact)
    (htypes : ∀ c ∈ columns, c.type ∈ sqliteTypes)
    (hss : List.Forall₂ a.Adds columns ss)
    (h : (Run.sequence (runStatement Database.backend .sqlite a.table) ss db).failure = none) :
    ∃ stored, List.Forall₂ Column.Makes columns stored ∧
      (Run.sequence (runStatement Database.backend .sqlite a.table) ss db).state.shown =
        db.shown.map fun t => if t.1 = a.table then (t.1, t.2 ++ stored) else t := by
  induction hss generalizing db with
  | nil => exact ⟨[], .nil, by simp [Run.sequence, Run.done]⟩
  | @cons c s columns ss hs _ ih =>
    obtain ⟨name, hname, hkeeps⟩ := hexact c List.mem_cons_self
    have htype := htypes c List.mem_cons_self
    obtain ⟨spec, rfl, -, hspec⟩ := hs
    obtain rfl := hspec name hname
    obtain ⟨hfirst, hrest, hlast⟩ := Run.sequence_cons h
    obtain ⟨text, hsent, hexecute⟩ := runStatement_eq_ok hfirst
    obtain ⟨t, ht, hsame, column, hdeclared, hshown⟩ :=
      Database.shown_addColumn hdb htype hsent hexecute
    rw [Database.name_eq_of_shown hdb htable hlive ht hsame] at hshown
    obtain ⟨stored, hstored, hmore⟩ := ih (runStatement_namesDiffer hdb hfirst)
      (by rwa [hshown, names_extended]) (fun c hc => hexact c (List.mem_cons_of_mem _ hc))
      (fun c hc => htypes c (List.mem_cons_of_mem _ hc)) hrest
    obtain ⟨hcname, hctype⟩ := Prod.mk.inj hdeclared
    have hcname : column.name = name :=
      hcname.trans (Dialect.readBack_of_keepsName hkeeps)
    refine ⟨column :: stored, .cons ⟨hcname ▸ hname, hctype⟩ hstored, ?_⟩
    rw [hlast, hmore, hshown, List.map_map]
    refine List.map_congr_left fun t _ => ?_
    -- the later columns are put after the first one, in this table alone
    by_cases ht : t.1 = a.table
    · simp [ht]
    · simp [ht]

theorem shown_runOperation_add {a : ColumnAddition}
    (h : (runOperation Database.backend .sqlite (.add a) db).failure = none) :
    ∃ adds, List.Forall₂ a.Adds a.columns adds ∧
      (Run.sequence (runStatement Database.backend .sqlite a.table) adds db).failure = none ∧
      (runOperation Database.backend .sqlite (.add a) db).state.shown =
        (Run.sequence (runStatement Database.backend .sqlite a.table) adds db).state.shown := by
  obtain ⟨ss, hss, hfailure, hstate⟩ := runOperation_eq_ok h
  obtain ⟨adds, indexes, rfl, hadds, hindexes⟩ := ColumnAddition.statements_eq_ok hss
  obtain ⟨hbefore, hafter, hlast⟩ := Run.sequence_append hfailure
  refine ⟨adds, hadds, hbefore, ?_⟩
  rw [hstate, hlast, shown_runIndexes hindexes hafter]
  rfl

theorem runOperation_add {a : ColumnAddition} (hdb : db.NamesDiffer)
    (hlive : a.table ∈ db.shown.map Prod.fst) (hexact : (Operation.add a).IsExact)
    (hplanned : (Operation.add a).IsPlanned)
    (h : (runOperation Database.backend .sqlite (.add a) db).failure = none) :
    Operation.Does db.shown (runOperation Database.backend .sqlite (.add a) db).state.shown
      (.add a) := by
  obtain ⟨adds, hadds, hfailure, hshown⟩ := shown_runOperation_add h
  obtain ⟨stored, hstored, hadded⟩ := shown_runColumns hdb hexact.table hlive hexact.columns
    hplanned.types hadds hfailure
  exact ⟨stored, hstored, hshown.trans hadded⟩

/-! ## Plans -/

/-- Additions to tables that are shown put columns after those of each of them. -/
theorem runOperations_add {as : List ColumnAddition} (hdb : db.NamesDiffer)
    (hnodup : (as.map (·.table)).Nodup) (hlive : ∀ a ∈ as, a.table ∈ db.shown.map Prod.fst)
    (hexact : ∀ a ∈ as, (Operation.add a).IsExact)
    (hplanned : ∀ a ∈ as, (Operation.add a).IsPlanned)
    (h : (runOperations Database.backend .sqlite (as.map .add) db).failure = none) :
    ∃ gained : String → List StoredColumn,
      (∀ a ∈ as, List.Forall₂ Column.Makes a.columns (gained a.table)) ∧
      (∀ table, table ∉ as.map (·.table) → gained table = []) ∧
      (runOperations Database.backend .sqlite (as.map .add) db).state.shown =
        db.shown.map fun t => (t.1, t.2 ++ gained t.1) := by
  induction as generalizing db with
  | nil => exact ⟨fun _ => [], by simp, by simp, by simp [runOperations, Run.sequence, Run.done]⟩
  | cons a as ih =>
    obtain ⟨hnew, hnodup⟩ := List.nodup_cons.1 hnodup
    obtain ⟨hfirst, hrest, hlast⟩ := Run.sequence_cons h
    obtain ⟨stored, hstored, hshown⟩ := runOperation_add hdb (hlive a List.mem_cons_self)
      (hexact a List.mem_cons_self) (hplanned a List.mem_cons_self) hfirst
    dsimp only at hshown
    obtain ⟨gained, hgained, hnone, hmore⟩ := ih (runOperation_namesDiffer hdb hfirst) hnodup
      (fun b hb => by rw [hshown, names_extended]; exact hlive b (List.mem_cons_of_mem _ hb))
      (fun b hb => hexact b (List.mem_cons_of_mem _ hb))
      (fun b hb => hplanned b (List.mem_cons_of_mem _ hb)) hrest
    -- what is added later goes to other tables
    refine ⟨fun table => if table = a.table then stored else gained table, ?_, ?_, ?_⟩
    · intro b hb
      rcases List.mem_cons.1 hb with rfl | hb
      · dsimp only
        rw [if_pos rfl]
        exact hstored
      · have hne : b.table ≠ a.table :=
          fun heq => hnew (List.mem_map.2 ⟨b, hb, heq⟩)
        simpa [hne] using hgained b hb
    · intro table htable
      rw [List.map_cons, List.mem_cons, not_or] at htable
      simpa [htable.1] using hnone table htable.2
    · rw [show (runOperations Database.backend .sqlite ((a :: as).map .add) db).state.shown = _
        from congrArg Database.shown hlast]
      refine hmore.trans ?_
      rw [hshown, List.map_map]
      refine List.map_congr_left fun t _ => ?_
      by_cases ht : t.1 = a.table
      · simp [ht, hnone a.table hnew]
      · simp [ht]

/-- Creations put one table after the other, each with its columns. -/
theorem runOperations_create {cs : List TableCreation}
    (hexact : ∀ c ∈ cs, (Operation.create c).IsExact)
    (hplanned : ∀ c ∈ cs, (Operation.create c).IsPlanned)
    (h : (runOperations Database.backend .sqlite (cs.map .create) db).failure = none) :
    ∃ created, List.Forall₂ (fun (c : TableCreation) (t : String × List StoredColumn) =>
        t.1 = c.table ∧ List.Forall₂ Column.Makes c.columns t.2) cs created ∧
      (runOperations Database.backend .sqlite (cs.map .create) db).state.shown =
        db.shown ++ created := by
  induction cs generalizing db with
  | nil => exact ⟨[], .nil, by simp [runOperations, Run.sequence, Run.done]⟩
  | cons c cs ih =>
    obtain ⟨hfirst, hrest, hlast⟩ := Run.sequence_cons h
    obtain ⟨stored, hstored, hshown⟩ := runOperation_create (hexact c List.mem_cons_self)
      (hplanned c List.mem_cons_self) hfirst
    dsimp only at hshown
    obtain ⟨created, hcreated, hmore⟩ := ih (fun d hd => hexact d (List.mem_cons_of_mem _ hd))
      (fun d hd => hplanned d (List.mem_cons_of_mem _ hd)) hrest
    refine ⟨(c.table, stored) :: created, .cons ⟨rfl, hstored⟩ hcreated, ?_⟩
    rw [show (runOperations Database.backend .sqlite ((c :: cs).map .create) db).state.shown = _
      from congrArg Database.shown hlast]
    refine hmore.trans ?_
    rw [hshown, List.append_assoc, List.singleton_append]

/-- Whatever a plan is run on, its operations are run on the database as it is. -/
theorem Plan.run_backend (p : Plan) (bind : BindKind) (db : Database) :
    (p.run Database.backend bind db).failure =
        (runOperations Database.backend p.dialect p.operations db).failure ∧
      (p.run Database.backend bind db).state =
        (runOperations Database.backend p.dialect p.operations db).state := by
  unfold Plan.run
  split
  next hempty =>
    rw [List.isEmpty_iff.1 hempty]
    exact ⟨rfl, rfl⟩
  · cases bind with
    | connection => exact ⟨rfl, rfl⟩
    | engine =>
      simp only [inTransaction, Database.backend, id]
      split
      next h => exact ⟨h.symm ▸ rfl, rfl⟩
      · exact ⟨rfl, rfl⟩

theorem runOperations_namesDiffer (hdb : db.NamesDiffer) {planned : Dialect} {ops : List Operation}
    (h : (runOperations Database.backend planned ops db).failure = none) :
    (runOperations Database.backend planned ops db).state.NamesDiffer :=
  Run.sequence_induction (fun _ _ _ hdb' hop => runOperation_namesDiffer hdb' hop) hdb h

/-- A plan extends the tables that it says, and puts those that it creates after all others. -/
theorem Plan.shown_run {p : Plan} {bind : BindKind} (as : List ColumnAddition)
    (cs : List TableCreation) (hdb : db.NamesDiffer) (hdialect : p.dialect = .sqlite)
    (hoperations : p.operations = as.map .add ++ cs.map .create)
    (hnodup : (as.map (·.table)).Nodup) (hlive : ∀ a ∈ as, a.table ∈ db.shown.map Prod.fst)
    (hexact : ∀ op ∈ p.operations, op.IsExact) (hplanned : ∀ op ∈ p.operations, op.IsPlanned)
    (h : (p.run Database.backend bind db).failure = none) :
    ∃ (gained : String → List StoredColumn) (created : List (String × List StoredColumn)),
      (p.run Database.backend bind db).state.shown =
        db.shown.map (fun t => (t.1, t.2 ++ gained t.1)) ++ created ∧
      (∀ a ∈ as, List.Forall₂ Column.Makes a.columns (gained a.table)) ∧
      (∀ table, table ∉ as.map (·.table) → gained table = []) ∧
      List.Forall₂ (fun (c : TableCreation) (t : String × List StoredColumn) =>
        t.1 = c.table ∧ List.Forall₂ Column.Makes c.columns t.2) cs created := by
  obtain ⟨hfailure, hstate⟩ := p.run_backend bind db
  rw [hfailure, hdialect, hoperations] at h
  rw [hoperations] at hexact hplanned
  -- additions come before creations, and neither fails
  obtain ⟨hadd, hcreate, hlast⟩ := Run.sequence_append h
  have hleft : ∀ a ∈ as, Operation.add a ∈ as.map .add ++ cs.map .create :=
    fun a ha => List.mem_append_left _ (List.mem_map_of_mem ha)
  have hright : ∀ c ∈ cs, Operation.create c ∈ as.map .add ++ cs.map .create :=
    fun c hc => List.mem_append_right _ (List.mem_map_of_mem hc)
  obtain ⟨gained, hgained, hnone, hextended⟩ := runOperations_add hdb hnodup hlive
    (fun a ha => hexact _ (hleft a ha)) (fun a ha => hplanned _ (hleft a ha)) hadd
  obtain ⟨created, hcreated, hmore⟩ := runOperations_create
    (fun c hc => hexact _ (hright c hc)) (fun c hc => hplanned _ (hright c hc)) hcreate
  refine ⟨gained, created, ?_, hgained, hnone, hcreated⟩
  rw [hstate, hdialect, hoperations, ← hextended]
  exact (congrArg Database.shown hlast).trans hmore

end Accrete
