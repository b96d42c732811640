import Accrete.Proofs.Running.Preview
import Mathlib.Tactic.IntervalCases

/-!
# Runs that stop

A run of a plan that is written executes its statements up to the first that fails.

* `Plan.tableStatements`         -- the statements of a plan, each with its table
* `Plan.exists_tableStatements`  -- a plan with a document has them, and they are all written
* `Plan.run_stops_or_commits`    -- what a run does, reports and asks for
-/

namespace Accrete

/-! ## Statements -/

/-- The statements of an operation, each with the table of the operation. -/
def Operation.tableStatements (d : Dialect) (op : Operation) :
    Except StatementError (List (String × Statement)) := do
  return (← op.statements d).map fun s => (op.table, s)

/-- The statements of a plan in order, each with the table of its operation. -/
def Plan.tableStatements (p : Plan) : Except StatementError (List (String × Statement)) := do
  return (← p.operations.mapM (Operation.tableStatements p.dialect)).flatten

def Step.ofStatement (x : String × Statement) : Step := ⟨x.1, .ok x.2⟩

/-- What a statement is asked for as, if it is written in a dialect. -/
def Statement.action? (d : Dialect) (s : Statement) : Option Action :=
  (s.sql d).toOption.map .execute

theorem flatMap_actions_map_ofStatement {d : Dialect} (ss : List (String × Statement)) :
    (ss.map Step.ofStatement).flatMap (Step.actions d) =
      ss.filterMap fun x => x.2.action? d := by
  induction ss with
  | nil => rfl
  | cons x ss ih =>
    rw [List.map_cons, List.flatMap_cons, ih, Step.actions, Step.ofStatement]
    cases hsql : x.2.sql d with
    | error cause => simp [Statement.action?, hsql, Except.toOption]
    | ok sql => simp [Statement.action?, hsql, Except.toOption]

theorem Operation.exists_tableStatements {d : Dialect} {op : Operation} {texts : List String}
    (h : op.sqlTexts d = .ok texts) : ∃ ss, op.tableStatements d = .ok ss ∧
      op.steps d = ss.map .ofStatement ∧ ∀ x ∈ ss, ∃ sql, x.2.sql d = .ok sql := by
  obtain ⟨ss, hss, htexts⟩ := Except.bind_eq_ok.1 h
  refine ⟨ss.map fun s => (op.table, s), Except.bind_eq_ok.2 ⟨ss, hss, rfl⟩, ?_, ?_⟩
  · rw [steps_of_ok hss, List.map_map]
    rfl
  · rintro _ hx
    obtain ⟨s, hs, rfl⟩ := List.mem_map.1 hx
    exact Except.exists_mapM_iff.1 ⟨_, htexts⟩ s hs

theorem exists_tableStatements_of_forall {d : Dialect} {ops : List Operation}
    (h : ∀ op ∈ ops, ∃ texts, op.sqlTexts d = .ok texts) :
    ∃ groups, ops.mapM (Operation.tableStatements d) = .ok groups ∧
      ops.flatMap (Operation.steps d) = groups.flatten.map .ofStatement ∧
      ∀ x ∈ groups.flatten, ∃ sql, x.2.sql d = .ok sql := by
  induction ops with
  | nil => exact ⟨[], rfl, rfl, by simp⟩
  | cons op ops ih =>
    obtain ⟨⟨texts, htexts⟩, hrest⟩ := List.forall_mem_cons.1 h
    obtain ⟨ss, hss, hsteps, hwritten⟩ := Operation.exists_tableStatements htexts
    obtain ⟨groups, hgroups, hmore, hothers⟩ := ih hrest
    refine ⟨ss :: groups, ?_, ?_, List.forall_mem_append.2 ⟨hwritten, hothers⟩⟩
    · rw [List.mapM_cons]
      exact Except.bind_eq_ok.2 ⟨ss, hss, Except.bind_eq_ok.2 ⟨groups, hgroups, rfl⟩⟩
    · rw [List.flatMap_cons, hsteps, hmore, List.flatten_cons, List.map_append]

namespace Plan

variable {p : Plan}

/-- A plan with a document consists of statements that are all written. -/
theorem exists_tableStatements {doc : String} (hdoc : p.document = .ok doc) :
    ∃ ss, p.tableStatements = .ok ss ∧ p.steps = ss.map .ofStatement ∧
      ∀ x ∈ ss, ∃ sql, x.2.sql p.dialect = .ok sql := by
  obtain ⟨texts, htexts, -⟩ := document_eq_ok.1 hdoc
  obtain ⟨groups, hgroups, hsteps, hwritten⟩ :=
    exists_tableStatements_of_forall (Except.exists_mapM_iff.1 ⟨texts, htexts⟩)
  exact ⟨groups.flatten, Except.bind_eq_ok.2 ⟨groups, hgroups, rfl⟩, hsteps, hwritten⟩

/-- A run of a plan executes its statements in order up to the first that fails, which is the only
    thing that it reports, and takes back the transaction that it has opened, if it has one of its
    own.  A run in which none fails executes all of them and commits. -/
theorem run_stops_or_commits {σ : Type} {doc : String} (hp : p.operations ≠ [])
    (hdoc : p.document = .ok doc) (b : Backend σ) (bind : BindKind) (state : σ) :
    ∃ ss, p.tableStatements = .ok ss ∧
      (∀ n e, b.FailsAt (ss.map .ofStatement) (bind.opened b state) n e →
        ∃ table s sql, ss[n]? = some (table, s) ∧ s.sql p.dialect = .ok sql ∧
          p.run b bind state =
            ⟨bind.abandoned b (b.after (bind.opened b state) ((ss.take (n + 1)).map .ofStatement)),
              [.statementFailed table sql], some e⟩ ∧
          (Event.statementFailed table sql).level = .error ∧
          p.actions b bind state =
            bind.around .rollback ((ss.take (n + 1)).filterMap fun x => x.2.action? b.dialect)) ∧
      (b.Succeeds (ss.map .ofStatement) (bind.opened b state) →
        p.run b bind state =
            ⟨bind.committed b (b.after (bind.opened b state) (ss.map .ofStatement)), [], none⟩ ∧
          p.actions b bind state =
            bind.around .commit (ss.filterMap fun x => x.2.action? b.dialect)) := by
  obtain ⟨ss, hss, hsteps, hwritten⟩ := exists_tableStatements hdoc
  refine ⟨ss, hss, fun n e h => ?_, fun h => ?_⟩ <;> rw [← hsteps] at h
  · obtain ⟨x, hx, hrun⟩ := run_of_failsAt hp h
    rw [hsteps, List.getElem?_map] at hx
    obtain ⟨⟨table, s⟩, hs, rfl⟩ := Option.map_eq_some_iff.1 hx
    obtain ⟨sql, hsql⟩ := hwritten _ (List.mem_of_getElem? hs)
    refine ⟨table, s, sql, hs, hsql, ?_, rfl, ?_⟩
    · rw [hrun, report_statement rfl hsql, hsteps, List.map_take]
      rfl
    · rw [actions_of_failsAt hp h, hsteps, ← List.map_take, flatMap_actions_map_ofStatement]
  · refine ⟨hsteps ▸ run_of_succeeds hp h, ?_⟩
    rw [actions_of_succeeds hp h, hsteps, flatMap_actions_map_ofStatement]

/-- The last statement of an operation fails, and the others stay executed. -/
theorem guestBook_stops :
    let b := Recorder.backend .sqlite (some 2)
    guestBook.operations ≠ [] ∧ (∃ doc, guestBook.document = .ok doc) ∧
      ∃ ss e sql, guestBook.tableStatements = .ok ss ∧ ss.length = 3 ∧
        b.FailsAt (ss.map .ofStatement) [.start] 2 e ∧
        (guestBook.run b .engine []).events = [.statementFailed "guest" sql] ∧
        guestBook.actions b .engine [] =
          .start :: ss.filterMap (fun x => x.2.action? .sqlite) ++ [.rollback] := by
  intro b
  have hp : guestBook.operations ≠ [] := by simp [guestBook]
  obtain ⟨doc, hdoc, -⟩ := Except.exists_of_any (x := guestBook.document) (p := fun _ => true)
    (by decide +kernel)
  obtain ⟨ss, hss, hstops, -⟩ := run_stops_or_commits hp hdoc b .engine []
  obtain ⟨ss', hss', hchecked⟩ := Except.exists_of_any (x := guestBook.tableStatements)
    (p := fun ss => ss.length == 3 && ss[2]?.map Prod.fst == some "guest" &&
      (b.failure? (ss.map .ofStatement) [.start] 0).isNone &&
      (b.failure? (ss.map .ofStatement) [.start] 1).isNone &&
      (b.failure? (ss.map .ofStatement) [.start] 2).isSome) (by decide +kernel)
  obtain rfl := Except.ok.inj (hss'.symm.trans hss)
  simp only [Bool.and_eq_true, beq_iff_eq, Option.isNone_iff_eq_none, Option.isSome_iff_exists]
    at hchecked
  obtain ⟨⟨⟨⟨hlength, htable⟩, hfirst⟩, hsecond⟩, e, hthird⟩ := hchecked
  have hfails : b.FailsAt (ss'.map .ofStatement) [.start] 2 e := by
    refine ⟨fun m hm => ?_, hthird⟩
    interval_cases m
    · exact hfirst
    · exact hsecond
  obtain ⟨table, s, sql, hs, -, hrun, -, hactions⟩ := hstops 2 e hfails
  rw [hs] at htable
  obtain rfl := Option.some.inj htable
  rw [List.take_of_length_le hlength.le] at hactions
  exact ⟨hp, ⟨doc, hdoc⟩, ss', e, sql, hss', hlength, hfails, by rw [hrun], hactions⟩

end Plan

end Accrete
