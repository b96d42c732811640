import Accrete.Proofs.Migrating.Keeping
import Accrete.Proofs.Migrating.Scripts
import Accrete.Proofs.Planning.Build
import Accrete.Proofs.Planning.Completion
import Accrete.Proofs.Running.Interleaving

/-!
# Two migrations at a time

The first statement of a plan cannot be repeated, so that of two runs of it only one gets further.

* `Database.Executes.not_again`   -- a statement that makes a table or a column is not repeated
* `Plan.exists_firstStep`         -- every plan starts with one
* `Plan.race_eq_run`              -- two runs of a plan do what a single run does
-/

namespace Accrete

namespace Database

variable {db db' d d' : Database} {s : Statement} {x : Step}

/-! ## Statements that make something -/

/-- Once a statement has made a table or a column, it is not executed again, whatever else has been
    done. -/
theorem Executes.not_again (hdb : db.NamesDiffer) (hs : s.IsPlanned) (hindex : ¬s.IsIndex)
    (h : db.Executes s db') (hd : d.NamesDiffer) (hgrows : db'.Grows d) : ¬d.Executes s d' := by
  intro hagain
  have hplanned : ∀ t ∈ [s], t.IsPlanned := by simpa using hs
  have hrun : db.Runs [s] db' := .cons h .nil
  have hrepeat : d.Runs [s] d' := .cons hagain .nil
  cases s with
  | createTable table columns constraints =>
    exact hrepeat.not_hasTable hd hplanned List.mem_cons_self
      (hgrows.hasTable (hrun.hasTable hdb hplanned List.mem_cons_self))
  | addColumn table c unique references =>
    cases hs
    exact (hrepeat.not_has hd hplanned List.mem_cons_self).2
      (hgrows.has (hrun.has hdb hplanned List.mem_cons_self))
  | addForeignKey => cases hs
  | createIndex => exact hindex True.intro

/-- A step is refused and changes nothing, or executes its statement. -/
theorem attempt_cases (x : Step) (db : Database) :
    (∃ e, backend.attempt x db = (db, some e)) ∨
      ∃ s db', x.statement = .ok s ∧ db.Executes s db' ∧ backend.attempt x db = (db', none) := by
  cases hx : x.statement with
  | error cause => exact .inl ⟨.statement cause, by rw [Backend.attempt, hx]⟩
  | ok s =>
    cases htext : s.sent .sqlite with
    | error cause => exact .inl ⟨.statement cause, by simp [Backend.attempt, hx, backend, htext]⟩
    | ok text =>
      cases hexecute : db.execute s text with
      | error cause =>
        exact .inl ⟨.refused cause text, by simp [Backend.attempt, hx, backend, htext, hexecute]⟩
      | ok db' =>
        exact .inr ⟨s, db', rfl, ⟨text, htext, hexecute⟩,
          by simp [Backend.attempt, hx, backend, htext, hexecute]⟩

theorem keeps_attempt {before : Database} (x : Step) (db : Database)
    (h : db.NamesDiffer ∧ before.Keeps db) :
    (backend.attempt x db).1.NamesDiffer ∧ before.Keeps (backend.attempt x db).1 := by
  rw [views_faultyBackend.attempt x (0, db)]
  exact Task.keeps_attempt _ x (0, db) h

/-- A runner that is alone leaves its first step refused, if that makes a table or a column. -/
theorem leavesRefused (hdb : db.NamesDiffer)
    (hx : ∀ s, x.statement = .ok s → s.IsPlanned ∧ ¬s.IsIndex) (rest : List Step) :
    Race.LeavesRefused backend .sqlite x rest db := by
  intro n
  dsimp only
  rw [Function.iterate_succ_apply, Runner.start]
  rcases attempt_cases x db with ⟨e, hfirst⟩ | ⟨s, db', hs, hexecutes, hfirst⟩
  · -- nothing has been done, and nothing will be
    rw [Runner.turn_of_some (congrArg Prod.snd hfirst), hfirst,
      Runner.iterate_turn_of_isOver (Runner.isOver_of_failure_ne_none failure_report)]
    exact ⟨e, hfirst⟩
  · -- what the first step made is kept by all that follows, and cannot be made twice
    rw [Runner.turn_of_none (congrArg Prod.snd hfirst), hfirst]
    obtain ⟨hplanned, hindex⟩ := hx s hs
    have hkept := Runner.iterate_turn_keeps keeps_attempt .sqlite ⟨rest, [], none⟩
      ⟨hexecutes.namesDiffer hdb, Keeps.refl db'⟩ n
    revert hkept
    generalize ((Runner.turn backend .sqlite)^[n] (⟨rest, [], none⟩, db')).2 = d
    rintro ⟨hd, hkeeps⟩
    rcases attempt_cases x d with hrefused | ⟨s', d', hs', hrepeats, -⟩
    · exact hrefused
    · obtain rfl := Except.ok.inj (hs.symm.trans hs')
      exact absurd hrepeats (hexecutes.not_again hdb hplanned hindex hd hkeeps.tables)

end Database

/-! ## Plans -/

/-- An operation starts with a statement that makes a table or a column, if it has any columns. -/
theorem Operation.exists_firstStep {op : Operation} (h : op.IsPlanned) (hcolumns : op.columns ≠ []) :
    ∃ x rest, op.steps .sqlite = x :: rest ∧
      ∀ s, x.statement = .ok s → s.IsPlanned ∧ ¬s.IsIndex := by
  cases hss : op.statements .sqlite with
  | error cause =>
    refine ⟨⟨op.table, .error cause⟩, [], by rw [steps, hss], fun s hs => ?_⟩
    exact absurd hs (by simp)
  | ok ss =>
    have hscript := statements_eq_script hss
    obtain rfl := Except.ok.inj (hss.symm.trans hscript)
    -- a creation starts with its table, and an addition with its first column
    have hfirst : ∃ s rest, op.script = s :: rest ∧ ¬s.IsIndex := by
      cases op with
      | create c =>
        obtain ⟨_, _, _, _, _, _, _, -, -, heq, -⟩ := script_create h hscript
        exact ⟨_, _, heq, id⟩
      | add a =>
        obtain ⟨adds, indexes, heq, hadds, -⟩ := ColumnAddition.statements_eq_ok hscript
        obtain ⟨c, columns, hc⟩ := List.exists_cons_of_ne_nil hcolumns
        rw [show a.columns = c :: columns from hc, List.forall₂_cons_left_iff] at hadds
        obtain ⟨_, adds, ⟨spec, rfl, -⟩, -, rfl⟩ := hadds
        exact ⟨_, _, heq, id⟩
    obtain ⟨s, rest, heq, hindex⟩ := hfirst
    have hs : s.IsPlanned := h.forall_script hscript s (heq ▸ List.mem_cons_self)
    refine ⟨⟨op.table, .ok s⟩, rest.map fun s => ⟨op.table, .ok s⟩, ?_, fun t ht => ?_⟩
    · rw [steps, hscript, heq]
      rfl
    · obtain rfl := Except.ok.inj ht
      exact ⟨hs, hindex⟩

namespace Plan

variable {entries : List SchemaEntry} {live : List LiveTable} {found : Difference} {p : Plan}
  {db : Database}

theorem exists_firstStep (hfound : (difference entries live .sqlite).outcome = .ok found)
    (hp : (build found.toCreate found.toAdd .sqlite).outcome = .ok p) (hne : p.operations ≠ []) :
    ∃ x rest, p.steps = x :: rest ∧ ∀ s, x.statement = .ok s → s.IsPlanned ∧ ¬s.IsIndex := by
  obtain ⟨-, hadd, -⟩ := difference_inv hfound
  obtain ⟨tables, -, -, hdialect, hoperations⟩ := build_inv hp
  have hplanned := isPlanned_of_build hp
  obtain ⟨op, ops, hops⟩ := List.exists_cons_of_ne_nil hne
  have hop : op ∈ p.operations := hops ▸ List.mem_cons_self
  have hcolumns : op.columns ≠ [] := by
    rw [hoperations, List.mem_append, List.mem_map, List.mem_map] at hop
    rcases hop with ⟨x, hx, rfl⟩ | ⟨t, -, rfl⟩
    · -- a table is only extended by fields that it lacks
      rw [hadd] at hx
      have hx := (byOrderAndName_perm ..).mem_iff.1 ((byOrderAndName_perm ..).mem_iff.1 hx)
      obtain ⟨u, l, -, -, hextension⟩ := SchemaEntry.mem_extensions.1 hx
      simpa [Operation.columns, Extension.addition] using (Table.extension?_inv hextension).2.2
    · simp [Operation.columns, Table.creation]
  obtain ⟨x, rest, hsteps, hx⟩ := Operation.exists_firstStep (hplanned op hop) hcolumns
  refine ⟨x, rest ++ ops.flatMap (Operation.steps .sqlite), ?_, hx⟩
  rw [steps, hops, hdialect, List.flatMap_cons, hsteps, List.cons_append]

/-- Whatever a plan is run on, its steps are run on the database as it is. -/
theorem run_backend_eq_sequence (hne : p.operations ≠ []) (bind : BindKind) (db : Database) :
    p.run Database.backend bind db =
      Run.sequence (runStep Database.backend p.dialect) p.steps db := by
  rw [run_eq_sequence hne, Run.ended]
  cases bind <;> split <;> rfl

/-- Two runs of a plan do what a single run of it does, in whatever order their statements are
    executed: the one that comes first runs as if it were alone, and the other stops at its first
    statement and changes nothing.  So does a plan that is run once more.  The plan may have been
    made for another state of the database. -/
theorem race_eq_run (hdb : db.NamesDiffer)
    (hfound : (difference entries live .sqlite).outcome = .ok found)
    (hp : (build found.toCreate found.toAdd .sqlite).outcome = .ok p) (hne : p.operations ≠ [])
    (bind : BindKind) :
    let single := p.run Database.backend bind db
    (∀ first schedule,
      let race turns := (Race.start p.steps db).play Database.backend .sqlite (first :: turns)
      (race schedule).isOver = true →
        (race schedule).state = single.state ∧
        ((race schedule).runner first).events = single.events ∧
        ((race schedule).runner first).failure = single.failure ∧
        ((race schedule).runner first.other).HasStopped .sqlite p.steps ∧
        ∀ before after, schedule = before ++ first.other :: after →
          (race (before ++ [first.other])).state = (race before).state) ∧
    ∀ again : BindKind,
      (p.run Database.backend again single.state).state = single.state ∧
      ∃ e, Database.backend.FailsAt p.steps single.state 0 e ∧
        (p.run Database.backend again single.state).failure ≠ none := by
  intro single
  obtain ⟨x, rest, hsteps, hx⟩ := exists_firstStep hfound hp hne
  obtain ⟨-, -, -, hdialect, -⟩ := build_inv hp
  have hrefused := Database.leavesRefused hdb hx rest
  have hsingle := run_backend_eq_sequence hne bind db
  rw [hdialect, hsteps] at hsingle
  constructor
  · intro first schedule race hover
    simp only [race, hsteps] at hover ⊢
    obtain ⟨hstate, hevents, hfailure, hstopped⟩ :=
      Race.play_eq_sequence hrefused first schedule hover
    refine ⟨hstate.trans (congrArg Run.state hsingle.symm),
      hevents.trans (congrArg Run.events hsingle.symm),
      hfailure.trans (congrArg Run.failure hsingle.symm), hstopped, fun before _ _ => ?_⟩
    exact Race.play_other hrefused first before
  · intro again
    obtain ⟨e, he⟩ := hrefused.attempt_sequence
    rw [← hsingle] at he
    have hfails : Database.backend.FailsAt p.steps single.state 0 e := by
      rw [hsteps]
      exact Backend.failsAt_zero.2 (congrArg Prod.snd he)
    obtain ⟨y, hy, hrun⟩ := sequence_of_failsAt p.dialect hfails
    rw [run_backend_eq_sequence hne again, hrun, state_report, hsteps]
    exact ⟨congrArg Prod.fst he, e, hsteps ▸ hfails, failure_report⟩

/-- Of two runners that add a column and create a table, the second to start gets nowhere. -/
theorem house_race :
    let db : Database := ⟨[Migration.storedRoom], [], .none⟩
    db.NamesDiffer ∧ ∃ entries live found p, (db.introspect none).outcome = .ok live ∧
      (difference entries live .sqlite).outcome = .ok found ∧
      (build found.toCreate found.toAdd .sqlite).outcome = .ok p ∧ p.operations ≠ [] ∧
      let race := (Race.start p.steps db).play Database.backend .sqlite [.two, .one, .one, .two]
      (race.runner .one).HasStopped .sqlite p.steps ∧ (race.runner .two).failure = none ∧
      race.state.tables.map (fun t => (t.name, t.columnNames)) =
        [("room", ["id", "size"]), ("door", ["id", "room"])] := by
  intro db
  have hdb : db.NamesDiffer := List.nodup_singleton _
  have hassembled : (Schema.assemble Migration.house).outcome.isOk = true := by decide +kernel
  obtain ⟨schema, hschema⟩ := Except.eq_ok_of_isOk hassembled
  have hruns : (Migration.prepare db Migration.house none none).outcome.toOption.any (fun m =>
      !m.plan.operations.isEmpty && m.plan.steps.length == 2 &&
        (m.plan.run Database.backend .engine db).failure.isNone &&
        (m.plan.run Database.backend .engine db).state.tables.map
          (fun t => (t.name, t.columnNames)) ==
            [("room", ["id", "size"]), ("door", ["id", "room"])]) = true := by decide +kernel
  obtain ⟨m, hm, hruns⟩ := Except.exists_of_any hruns
  simp only [Bool.and_eq_true, Option.isNone_iff_eq_none, beq_iff_eq] at hruns
  obtain ⟨⟨⟨hnonempty, hlength⟩, hsucceeds⟩, htables⟩ := hruns
  have hne : m.plan.operations ≠ [] := by simpa using hnonempty
  obtain ⟨live, hlive, hfound, hp⟩ := Migration.against_eq_ok.1
    ((Migration.prepare_of_assemble db (by simp) hschema).1.symm.trans hm)
  have hover : ((Race.start m.plan.steps db).play Database.backend .sqlite
      [.two, .one, .one, .two]).isOver = true :=
    Race.isOver_play fun side => by cases side <;> exact hlength.le
  obtain ⟨hstate, -, hfailure, hstopped, -⟩ :=
    (race_eq_run hdb hfound hp hne .engine).1 .two [.one, .one, .two] hover
  exact ⟨hdb, _, live, _, m.plan, hlive, hfound, hp, hne, hstopped, hfailure.trans hsucceeds,
    hstate ▸ htables⟩

end Plan

end Accrete
