import Accrete.Proofs.Running.Steps
import Accrete.Runner.Recorder

/-!
# What a run asks for

Runs that write down each action before they do it.

* `Backend.recorded`          -- a backend that writes down what it is asked to do
* `Plan.run_recorded`         -- writing down changes nothing else
* `Plan.actions`              -- what a run of a plan asks for
* `actions_of_failsAt`, `actions_of_succeeds` -- the statements up to the first failure, between
  the ends of the transaction
-/

namespace Accrete

variable {σ : Type}

/-! ## One step -/

/-- A backend that writes down what it is asked to do, and does it. -/
def Backend.recorded (b : Backend σ) : Backend (List Action × σ) where
  dialect := b.dialect
  execute s text r :=
    ((r.1 ++ [.execute (Text.trim text)], (b.execute s text r.2).1), (b.execute s text r.2).2)
  start r := (r.1 ++ [.start], b.start r.2)
  commit r := (r.1 ++ [.commit], b.commit r.2)
  rollback r := (r.1 ++ [.rollback], b.rollback r.2)

/-- What a step asks a backend for.  What cannot be built or written is not asked for. -/
def Step.actions (d : Dialect) (x : Step) : List Action :=
  match x.statement with
  | .error _ => []
  | .ok s =>
    match s.sql d with
    | .error _ => []
    | .ok text => [.execute text]

namespace Action

/-- The text of a statement that is asked for. -/
def text? : Action → Option String
  | .execute sql => some sql
  | _ => none

end Action

namespace Backend

variable {b : Backend σ} {x : Step} {steps : List Step} {before : List Action} {state : σ}

theorem attempt_recorded : b.recorded.attempt x (before, state) =
    ((before ++ x.actions b.dialect, (b.attempt x state).1), (b.attempt x state).2) := by
  cases hx : x.statement with
  | error cause => simp [attempt, Step.actions, hx]
  | ok s =>
    cases htext : s.sent b.dialect with
    | error cause => simp [attempt, Step.actions, hx, Statement.sql, htext, recorded]
    | ok text => simp [attempt, Step.actions, hx, Statement.sql, htext, recorded]

theorem after_recorded : b.recorded.after (before, state) steps =
    (before ++ steps.flatMap (Step.actions b.dialect), b.after state steps) := by
  -- what is written down already grows from step to step
  induction steps generalizing before state with
  | nil => simp
  | cons x steps ih => simp [attempt_recorded, ih]

theorem failure?_recorded {n : ℕ} :
    b.recorded.failure? steps (before, state) n = b.failure? steps state n := by
  simp [failure?, after_recorded, attempt_recorded]

theorem failsAt_recorded {n : ℕ} {e : Error} :
    b.recorded.FailsAt steps (before, state) n e ↔ b.FailsAt steps state n e :=
  ⟨fun h => ⟨fun m hm => failure?_recorded ▸ h.before m hm, failure?_recorded ▸ h.fails⟩,
    fun h => ⟨fun m hm => failure?_recorded.trans (h.before m hm),
      failure?_recorded.trans h.fails⟩⟩

theorem succeeds_recorded :
    b.recorded.Succeeds steps (before, state) ↔ b.Succeeds steps state := by
  simp [Succeeds, failure?_recorded]

end Backend

/-! ## Plans -/

namespace BindKind

/-- What is asked for in the transaction of a plan, with how it ends. -/
def around (last : Action) : BindKind → List Action → List Action
  | .engine, middle => .start :: middle ++ [last]
  | .connection, middle => middle

theorem filterMap_text?_around {last : Action} (hlast : last.text? = none) (bind : BindKind)
    (middle : List Action) :
    (bind.around last middle).filterMap Action.text? = middle.filterMap Action.text? := by
  cases bind with
  | connection => rfl
  | engine =>
    rw [around, List.cons_append, List.filterMap_cons_none rfl, List.filterMap_append,
      List.filterMap_cons_none hlast, List.filterMap_nil, List.append_nil]

theorem opened_recorded (b : Backend σ) (bind : BindKind) (state : σ) :
    ∃ before, bind.opened b.recorded ([], state) = (before, bind.opened b state) ∧
      ∀ (middle : List Action) (state' : σ),
        bind.committed b.recorded (before ++ middle, state') =
            (bind.around .commit middle, bind.committed b state') ∧
          bind.abandoned b.recorded (before ++ middle, state') =
            (bind.around .rollback middle, bind.abandoned b state') := by
  cases bind with
  | engine => exact ⟨[.start], rfl, fun _ _ => ⟨rfl, rfl⟩⟩
  | connection => exact ⟨[], rfl, fun _ _ => ⟨rfl, rfl⟩⟩

end BindKind

namespace Plan

variable {p : Plan} {b : Backend σ} {bind : BindKind} {state : σ}

/-- A run that stops at a step ends its transaction by taking it back. -/
theorem run_of_failsAt (hp : p.operations ≠ []) {n : ℕ} {e : Error}
    (h : b.FailsAt p.steps (bind.opened b state) n e) :
    ∃ x, p.steps[n]? = some x ∧ p.run b bind state = x.report p.dialect
      (bind.abandoned b (b.after (bind.opened b state) (p.steps.take (n + 1)))) e := by
  obtain ⟨x, hx, hrun⟩ := sequence_of_failsAt p.dialect h
  refine ⟨x, hx, ?_⟩
  rw [run_eq_sequence hp, hrun, Run.ended]
  split
  next hnone => exact absurd hnone failure_report
  next =>
    rw [report_eq p.dialect x (b.after ..), report_eq p.dialect x (bind.abandoned b _)]

theorem run_of_succeeds (hp : p.operations ≠ [])
    (h : b.Succeeds p.steps (bind.opened b state)) : p.run b bind state =
      .done (bind.committed b (b.after (bind.opened b state) p.steps)) := by
  rw [run_eq_sequence hp, sequence_of_succeeds p.dialect h]
  rfl

theorem succeeds_of_run (hp : p.operations ≠ []) (h : (p.run b bind state).failure = none) :
    b.Succeeds p.steps (bind.opened b state) := by
  rcases b.exists_failsAt_or_succeeds p.steps (bind.opened b state) with ⟨n, e, hfails⟩ | hsucceeds
  · obtain ⟨x, -, hrun⟩ := run_of_failsAt hp hfails
    exact absurd (hrun ▸ h) failure_report
  · exact hsucceeds

/-- What a run of a plan asks for, in order. -/
def actions (p : Plan) (b : Backend σ) (bind : BindKind) (state : σ) : List Action :=
  (p.run b.recorded bind ([], state)).state.1

theorem views_recorded (b : Backend σ) : b.recorded.Views b Prod.snd :=
  ⟨rfl, fun _ _ _ => rfl, fun _ => rfl, fun _ => rfl, fun _ => rfl⟩

/-- Writing down what a run asks for changes nothing else about it. -/
theorem run_recorded (p : Plan) (b : Backend σ) (bind : BindKind) (state : σ) :
    p.run b bind state = (p.run b.recorded bind ([], state)).map Prod.snd :=
  p.run_view (views_recorded b) bind ([], state)

/-- A run that stops at a step asks for the statements up to that one. -/
theorem actions_of_failsAt (hp : p.operations ≠ []) {n : ℕ} {e : Error}
    (h : b.FailsAt p.steps (bind.opened b state) n e) : p.actions b bind state =
      bind.around .rollback ((p.steps.take (n + 1)).flatMap (Step.actions b.dialect)) := by
  obtain ⟨before, hopened, hended⟩ := bind.opened_recorded b state
  have hfails : b.recorded.FailsAt p.steps (bind.opened b.recorded ([], state)) n e :=
    hopened ▸ Backend.failsAt_recorded.2 h
  obtain ⟨x, -, hrecorded⟩ := run_of_failsAt hp hfails
  rw [actions, hrecorded, state_report, hopened, Backend.after_recorded, (hended _ _).2]

theorem actions_of_succeeds (hp : p.operations ≠ [])
    (h : b.Succeeds p.steps (bind.opened b state)) : p.actions b bind state =
      bind.around .commit (p.steps.flatMap (Step.actions b.dialect)) := by
  obtain ⟨before, hopened, hended⟩ := bind.opened_recorded b state
  have hsucceeds : b.recorded.Succeeds p.steps (bind.opened b.recorded ([], state)) :=
    hopened ▸ Backend.succeeds_recorded.2 h
  rw [actions, run_of_succeeds hp hsucceeds, Run.done, hopened, Backend.after_recorded,
    (hended _ _).1]

end Plan

end Accrete
