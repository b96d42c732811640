import Accrete.Migration
import Accrete.Proofs.Database.Runs
import Accrete.Proofs.Migrating.Success
import Accrete.Proofs.Running.Preview

/-!
# What migrations keep

Planning and running, in any order and however often something fails, lose nothing of a database.

* `Database.Keeps`          -- nothing of a database is lost in another
* `Database.execute_keeps`  -- a statement that is executed loses nothing
* `Database.faultyBackend`  -- an SQLite database of which statements fail at will
* `Task`, `Task.perform`    -- what is done with a database: planning, migrating, running
* `Task.keeps_perform`      -- a task loses nothing
* `Task.keeps_performAll`   -- nor do any number of them
-/

namespace Accrete

/-! ## Statements -/

namespace Database

variable {db db' db'' : Database} {text : String}

/-- Nothing is lost: every table is there under its name, with its columns before all others, and
    every index. -/
structure Keeps (db db' : Database) : Prop where
  tables : ∀ t ∈ db.tables, ∃ t' ∈ db'.tables, t'.name = t.name ∧ t.columns <+: t'.columns
  indexes : db.indexes <+: db'.indexes

namespace Keeps

theorem refl (db : Database) : db.Keeps db := ⟨Grows.refl db, List.prefix_rfl⟩

theorem trans (h : db.Keeps db') (h' : db'.Keeps db'') : db.Keeps db'' :=
  ⟨Grows.trans h.tables h'.tables, h.indexes.trans h'.indexes⟩

end Keeps

theorem createTable_keeps (h : db.createTable text = .ok db') : db.Keeps db' := by
  obtain ⟨s, t, -, -, rfl⟩ := createTable_eq_ok h
  exact ⟨grows_withTable t, List.prefix_rfl⟩

theorem addColumn_keeps (hdb : db.NamesDiffer) (h : db.addColumn text = .ok db') :
    db.Keeps db' := by
  obtain ⟨s, t, whole, hs, ht, hname, hcolumns, rfl⟩ := addColumn_eq_ok h
  obtain ⟨before, column, hbefore, hextends⟩ :=
    Reader.of_run (ColumnStatement.ensures_extends _ _) hs
  -- the columns that are read first are those of the table
  obtain ⟨u, hu, hubefore⟩ := columnsBefore_eq_ok hbefore
  obtain rfl := Option.some.inj (ht.symm.trans hu)
  obtain ⟨added, hadded, -⟩ := hextends.columns
  have hprefix : t.columns <+: whole.columns := by
    rw [hcolumns, hadded, hubefore]
    exact List.prefix_append ..
  exact ⟨grows_update hdb (table?_eq_some ht).1 hname hprefix, List.prefix_rfl⟩

theorem createIndex_keeps (h : db.createIndex text = .ok db') : db.Keeps db' := by
  obtain ⟨i, rfl⟩ := createIndex_eq_ok h
  exact ⟨Grows.refl db, List.prefix_append ..⟩

/-- A statement that is executed loses nothing. -/
theorem execute_keeps (hdb : db.NamesDiffer) {s : Statement} (h : db.execute s text = .ok db') :
    db.Keeps db' := by
  cases s with
  | createTable => exact createTable_keeps h
  | addColumn | addForeignKey => exact addColumn_keeps hdb h
  | createIndex => exact createIndex_keeps h

end Database

/-! ## Faults -/

namespace Database

/-- An SQLite database of which statements fail at will.  Statements are counted, and `fails` tells
    by its number why a statement fails that could be executed. -/
def faultyBackend (fails : ℕ → Option Error) : Backend (ℕ × Database) where
  dialect := .sqlite
  execute s text st :=
    match fails st.1 with
    | some e => ((st.1 + 1, st.2), some e)
    | none => ((st.1 + 1, (backend.execute s text st.2).1), (backend.execute s text st.2).2)
  start := id
  commit := id
  rollback := id

/-- Without faults it is a database like any other. -/
theorem views_faultyBackend : (faultyBackend fun _ => none).Views backend Prod.snd :=
  ⟨rfl, fun _ _ _ => rfl, fun _ => rfl, fun _ => rfl, fun _ => rfl⟩

theorem run_faultyBackend (p : Plan) (bind : BindKind) (db : Database) :
    p.run backend bind db = (p.run (faultyBackend fun _ => none) bind (0, db)).map Prod.snd :=
  p.run_view views_faultyBackend bind (0, db)

variable {db : Database}

/-- A statement that fails leaves a database as it is. -/
theorem execute_backend (s : Statement) (text : String) (db : Database) :
    (backend.execute s text db).1 = db ∨
      db.execute s text = .ok (backend.execute s text db).1 := by
  simp only [backend]
  cases h : db.execute s text with
  | ok db' => exact .inr rfl
  | error cause => exact .inl rfl

theorem attempt_faultyBackend (fails : ℕ → Option Error) (x : Step) (st : ℕ × Database) :
    ((faultyBackend fails).attempt x st).1.2 = st.2 ∨
      ∃ s text, st.2.execute s text = .ok ((faultyBackend fails).attempt x st).1.2 := by
  rw [Backend.attempt]
  split
  · exact .inl rfl
  next s _ =>
    split
    · exact .inl rfl
    next text _ =>
      simp only [faultyBackend]
      split
      · exact .inl rfl
      · exact (execute_backend s text st.2).imp_right fun h => ⟨s, text, h⟩

end Database

/-! ## Tasks -/

/-- Something that is done with a database. -/
inductive Task where
  /-- A migration is planned, and shown at most. -/
  | plan (fragments : List Fragment) (stated schemaName : Option String)
  /-- A migration is planned and run at once. -/
  | migrate (fragments : List Fragment) (stated : Option String) (bind : BindKind)
  /-- A plan is run that was made before, for this database or another. -/
  | run (p : Plan) (bind : Option BindKind)
  | operations (d : Dialect) (ops : List Operation)

namespace Task

/-- Does a task, in which statements fail at will.  `fails` tells by their numbers which do. -/
def perform (fails : ℕ → Option Error) (db : Database) : Task → Run Database
  | plan fragments stated schemaName =>
    let planned := Migration.prepare db fragments stated schemaName
    match planned.outcome with
    | .error e => ⟨db, planned.events, some e⟩
    | .ok _ => ⟨db, planned.events, none⟩
  | migrate fragments stated bind =>
    let planned := Migration.prepare db fragments stated none
    match planned.outcome with
    | .error e => ⟨db, planned.events, some e⟩
    | .ok m =>
      let r := m.plan.run (Database.faultyBackend fails) bind (0, db)
      ⟨r.state.2, planned.events ++ r.events, r.failure⟩
  | run p bind => (p.runOn (Database.faultyBackend fails) bind (0, db)).map Prod.snd
  | operations d ops => (runOperations (Database.faultyBackend fails) d ops (0, db)).map Prod.snd

/-- The database that several tasks leave, each with its faults.  One that fails does not stop
    those after it. -/
def performAll (tasks : List (Task × (ℕ → Option Error))) (db : Database) : Database :=
  tasks.foldl (fun db task => (task.1.perform task.2 db).state) db

variable {db before : Database} (fails : ℕ → Option Error)

theorem keeps_attempt (x : Step) (st : ℕ × Database)
    (h : st.2.NamesDiffer ∧ before.Keeps st.2) :
    ((Database.faultyBackend fails).attempt x st).1.2.NamesDiffer ∧
      before.Keeps ((Database.faultyBackend fails).attempt x st).1.2 := by
  obtain ⟨hdiffer, hkeeps⟩ := h
  rcases Database.attempt_faultyBackend fails x st with hsame | ⟨s, text, hexecute⟩
  · rw [hsame]
    exact ⟨hdiffer, hkeeps⟩
  · exact ⟨Database.execute_namesDiffer hdiffer hexecute,
      hkeeps.trans (Database.execute_keeps hdiffer hexecute)⟩

theorem keeps_run (hdb : db.NamesDiffer) (p : Plan) (bind : BindKind) :
    (p.run (Database.faultyBackend fails) bind (0, db)).state.2.NamesDiffer ∧
      db.Keeps (p.run (Database.faultyBackend fails) bind (0, db)).state.2 :=
  Plan.run_keeps (keeps_attempt fails) (fun _ h => h) (fun _ h => h) (fun _ h => h) ⟨hdb, .refl db⟩

/-- What a task is done with is left as it is, but for what is added. -/
theorem keeps_perform (hdb : db.NamesDiffer) (task : Task) :
    (task.perform fails db).state.NamesDiffer ∧ db.Keeps (task.perform fails db).state := by
  have hsame : db.NamesDiffer ∧ db.Keeps db := ⟨hdb, .refl db⟩
  cases task with
  | plan fragments stated schemaName =>
    rw [perform]
    split <;> exact hsame
  | migrate fragments stated bind =>
    rw [perform]
    split
    · exact hsame
    · exact keeps_run fails hdb _ bind
  | run p bind =>
    cases bind with
    | none => exact hsame
    | some bind => exact keeps_run fails hdb p bind
  | operations d ops => exact runOperations_keeps d (keeps_attempt fails) hsame

/-- Nothing is ever lost: whatever is done with a database, and wherever it fails, tables keep
    their names, their columns come first and unchanged, and indexes stay.  What is only planned
    changes nothing. -/
theorem keeps_performAll (hdb : db.NamesDiffer) (tasks : List (Task × (ℕ → Option Error))) :
    db.Keeps (performAll tasks db) ∧ ∀ fragments stated schemaName fails,
      ((plan fragments stated schemaName).perform fails (performAll tasks db)).state =
        performAll tasks db := by
  constructor
  · induction tasks generalizing db with
    | nil => exact .refl db
    | cons task tasks ih =>
      obtain ⟨hdiffer, hkeeps⟩ := keeps_perform task.2 hdb task.1
      exact hkeeps.trans (ih hdiffer)
  · intro fragments stated schemaName fails
    rw [perform]
    split <;> rfl

/-- A migration is interrupted after it has added a column, so that a plan fails which adds that
    column too.  Then the migration is made up for, and a part of the plan is run for another
    dialect. -/
def interruptedHouse : List (Task × (ℕ → Option Error)) :=
  let none : ℕ → Option Error := fun _ => .none
  [(.plan Migration.house .none .none, none),
    (.migrate Migration.house .none .engine, fun n => if n = 1 then some (.interrupted n) else .none),
    (.run Plan.guestBook (some .connection), none),
    (.migrate Migration.house .none .engine, none),
    (.operations .mysql (Plan.guestBook.operations.drop 1), none)]

theorem keeps_interruptedHouse :
    let db : Database := ⟨[Migration.storedRoom], [], .none⟩
    db.NamesDiffer ∧ db.Keeps (performAll interruptedHouse db) ∧
      (performAll interruptedHouse db).tables.map (fun t => (t.name, t.columnNames)) =
        [("room", ["id", "size"]), ("door", ["id", "room"]), ("guest", ["id"])] ∧
      (performAll interruptedHouse db).indexes.map (·.name) = ["ix_guest_id"] := by
  intro db
  have hdb : db.NamesDiffer := List.nodup_singleton _
  have hdone : (performAll interruptedHouse db).tables.map (fun t => (t.name, t.columnNames)) =
        [("room", ["id", "size"]), ("door", ["id", "room"]), ("guest", ["id"])] ∧
      (performAll interruptedHouse db).indexes.map (·.name) = ["ix_guest_id"] := by decide +kernel
  exact ⟨hdb, (keeps_performAll hdb interruptedHouse).1, hdone⟩

end Task

end Accrete
