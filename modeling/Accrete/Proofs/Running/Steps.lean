import Accrete.Proofs.Logged
import Accrete.Runner

/-!
# Plans step by step

A plan as one list of steps, whichever operations they belong to.

* `Plan.steps`                        -- the steps of a plan, one for each statement
* `Backend.attempt`, `Backend.after`  -- what one step does to a state, and what several do
* `runOperations_eq_sequence`         -- operations are run step by step
* `Backend.FailsAt`                   -- which step is the first to fail
* `sequence_of_failsAt`, `sequence_of_succeeds` -- what is run then
* `Plan.run_eq_sequence`              -- a plan with the ends of its transaction
* `Plan.run_keeps`                    -- what every step keeps
* `Plan.run_view`                     -- backends that do the same to a part of the state
-/

namespace Accrete

/-- One thing that a plan does to a table.  An operation of which no statements can be built has
    a single step, that fails. -/
structure Step where
  table : String
  statement : Except StatementError Statement

def Operation.steps (planned : Dialect) (o : Operation) : List Step :=
  match o.statements planned with
  | .error cause => [⟨o.table, .error cause⟩]
  | .ok statements => statements.map fun s => ⟨o.table, .ok s⟩

def Plan.steps (p : Plan) : List Step := p.operations.flatMap (Operation.steps p.dialect)

section

variable {σ : Type}

/-! ## One step -/

/-- What a step does to a state, and why it fails if it does. -/
def Backend.attempt (b : Backend σ) (x : Step) (state : σ) : σ × Option Error :=
  match x.statement with
  | .error cause => (state, some (.statement cause))
  | .ok s =>
    match s.sent b.dialect with
    | .error cause => (state, some (.statement cause))
    | .ok text => b.execute s text state

def Step.report (planned : Dialect) (x : Step) (state : σ) (e : Error) : Run σ :=
  match x.statement with
  | .error cause => .failed state (.statement cause)
  | .ok s => reportFailure planned x.table s state e

def runStep (b : Backend σ) (planned : Dialect) (x : Step) (state : σ) : Run σ :=
  match b.attempt x state with
  | (state', none) => .done state'
  | (state', some e) => x.report planned state' e

/-- What is reported of a failure does not depend on the state. -/
theorem report_eq (planned : Dialect) (x : Step) (state : σ) (e : Error) :
    x.report planned state e =
      ⟨state, (x.report planned () e).events, (x.report planned () e).failure⟩ := by
  rw [Step.report, Step.report]
  split
  · rfl
  · rw [reportFailure, reportFailure]
    split <;> rfl

theorem state_report {planned : Dialect} {x : Step} {state : σ} {e : Error} :
    (x.report planned state e).state = state := by rw [report_eq]

theorem failure_report {planned : Dialect} {x : Step} {state : σ} {e : Error} :
    (x.report planned state e).failure ≠ none := by
  rw [Step.report]
  split
  · simp [Run.failed]
  · rw [reportFailure]
    split <;> simp [Run.failed]

theorem andThen_report {planned : Dialect} {x : Step} {state : σ} {e : Error} {next : σ → Run σ} :
    (x.report planned state e).andThen next = x.report planned state e := by
  rw [Run.andThen]
  split
  next => rfl
  next hnone => exact absurd hnone failure_report

/-- A statement with a text in the dialect of the plan is reported, and fails for its own
    reason. -/
theorem report_statement {planned : Dialect} {x : Step} {s : Statement} {sql : String} {state : σ}
    {e : Error} (hx : x.statement = .ok s) (hsql : s.sql planned = .ok sql) :
    x.report planned state e = ⟨state, [.statementFailed x.table sql], some e⟩ := by
  simp only [Step.report, reportFailure, hx, hsql]

theorem runStep_of_none {b : Backend σ} {planned : Dialect} {x : Step} {state : σ}
    (h : (b.attempt x state).2 = none) : runStep b planned x state = .done (b.attempt x state).1 := by
  rw [runStep]
  split
  next heq => rw [heq]
  next heq => exact absurd (heq ▸ h) (by simp)

theorem runStep_of_some {b : Backend σ} {planned : Dialect} {x : Step} {state : σ} {e : Error}
    (h : (b.attempt x state).2 = some e) :
    runStep b planned x state = x.report planned (b.attempt x state).1 e := by
  rw [runStep]
  split
  next heq => exact absurd (heq ▸ h) (by simp)
  next heq =>
    obtain rfl := Option.some.inj (heq ▸ h)
    rw [heq]

theorem state_runStep {b : Backend σ} {planned : Dialect} {x : Step} {state : σ} :
    (runStep b planned x state).state = (b.attempt x state).1 := by
  cases h : (b.attempt x state).2 with
  | none => rw [runStep_of_none h, Run.done]
  | some e => rw [runStep_of_some h, state_report]

/-! ## Operations -/

namespace Run

theorem andThen_assoc (r : Run σ) (f g : σ → Run σ) :
    (r.andThen f).andThen g = r.andThen fun state => (f state).andThen g := by
  obtain ⟨state, events, _ | e⟩ := r
  · simp only [andThen]
    split <;> simp [*]
  · rfl

theorem done_andThen (state : σ) (f : σ → Run σ) : (done state).andThen f = f state := rfl

theorem sequence_append_eq {α : Type} (step : α → σ → Run σ) (xs ys : List α) (state : σ) :
    sequence step (xs ++ ys) state = (sequence step xs state).andThen (sequence step ys) := by
  induction xs generalizing state with
  | nil => rfl
  | cons x xs ih =>
    rw [List.cons_append, sequence, sequence, andThen_assoc]
    exact congrArg _ (funext ih)

theorem sequence_flatMap {α β : Type} (step : β → σ → Run σ) (f : α → List β) (xs : List α)
    (state : σ) :
    sequence step (xs.flatMap f) state = sequence (fun x => sequence step (f x)) xs state := by
  induction xs generalizing state with
  | nil => rfl
  | cons x xs ih =>
    rw [List.flatMap_cons, sequence_append_eq, sequence]
    exact congrArg _ (funext ih)

theorem sequence_map {α β : Type} (step : β → σ → Run σ) (f : α → β) (xs : List α) (state : σ) :
    sequence step (xs.map f) state = sequence (fun x => step (f x)) xs state := by
  induction xs generalizing state with
  | nil => rfl
  | cons x xs ih =>
    rw [List.map_cons, sequence, sequence]
    exact congrArg _ (funext ih)

end Run

theorem runStep_statement (b : Backend σ) (planned : Dialect) (table : String) (s : Statement) :
    runStep b planned ⟨table, .ok s⟩ = runStatement b planned table s := by
  funext state
  cases htext : s.sent b.dialect with
  | error cause => simp only [runStep, Backend.attempt, Step.report, runStatement, htext]
  | ok text =>
    rcases hexecute : b.execute s text state with ⟨state', _ | e⟩ <;>
      simp only [runStep, Backend.attempt, Step.report, runStatement, htext, hexecute]

theorem runOperation_eq_sequence (b : Backend σ) (planned : Dialect) (o : Operation) (state : σ) :
    runOperation b planned o state =
      Run.sequence (runStep b planned) (o.steps planned) state := by
  cases hss : o.statements planned with
  | error cause => simp only [runOperation, Operation.steps, hss]; rfl
  | ok ss =>
    simp only [runOperation, Operation.steps, hss, Run.sequence_map, runStep_statement]

theorem runOperations_eq_sequence (b : Backend σ) (planned : Dialect) (ops : List Operation)
    (state : σ) : runOperations b planned ops state =
      Run.sequence (runStep b planned) (ops.flatMap (Operation.steps planned)) state := by
  rw [Run.sequence_flatMap, runOperations]
  exact congrArg (fun step => Run.sequence step ops state) (funext fun o => funext fun state =>
    runOperation_eq_sequence b planned o state)

/-! ## Failures -/

namespace Backend

variable (b : Backend σ)

/-- The state after several steps have been attempted. -/
def after (state : σ) (steps : List Step) : σ :=
  steps.foldl (fun state x => (b.attempt x state).1) state

/-- Why a step fails, when those before it have been attempted. -/
def failure? (steps : List Step) (state : σ) (n : ℕ) : Option Error :=
  steps[n]?.bind fun x => (b.attempt x (b.after state (steps.take n))).2

/-- The first step that fails is the one of that number. -/
structure FailsAt (steps : List Step) (state : σ) (n : ℕ) (e : Error) : Prop where
  before : ∀ m < n, b.failure? steps state m = none
  fails : b.failure? steps state n = some e

def Succeeds (steps : List Step) (state : σ) : Prop := ∀ n, b.failure? steps state n = none

variable {b} {x : Step} {steps : List Step} {state : σ} {n : ℕ} {e : Error}

@[simp] theorem after_nil : b.after state [] = state := rfl

@[simp] theorem after_cons :
    b.after state (x :: steps) = b.after (b.attempt x state).1 steps := rfl

@[simp] theorem failure?_zero :
    b.failure? (x :: steps) state 0 = (b.attempt x state).2 := rfl

@[simp] theorem failure?_succ :
    b.failure? (x :: steps) state (n + 1) = b.failure? steps (b.attempt x state).1 n := rfl

theorem failsAt_zero : b.FailsAt (x :: steps) state 0 e ↔ (b.attempt x state).2 = some e :=
  ⟨fun h => h.fails, fun h => ⟨fun _ hm => absurd hm (Nat.not_lt_zero _), h⟩⟩

theorem failsAt_succ : b.FailsAt (x :: steps) state (n + 1) e ↔
    (b.attempt x state).2 = none ∧ b.FailsAt steps (b.attempt x state).1 n e := by
  constructor
  · intro h
    exact ⟨h.before 0 n.succ_pos, fun m hm => h.before (m + 1) (Nat.succ_lt_succ hm), h.fails⟩
  · rintro ⟨hx, h⟩
    refine ⟨fun m hm => ?_, h.fails⟩
    cases m with
    | zero => exact hx
    | succ m => exact h.before m (Nat.lt_of_succ_lt_succ hm)

theorem succeeds_cons : b.Succeeds (x :: steps) state ↔
    (b.attempt x state).2 = none ∧ b.Succeeds steps (b.attempt x state).1 := by
  refine ⟨fun h => ⟨h 0, fun n => h (n + 1)⟩, fun ⟨hx, h⟩ n => ?_⟩
  cases n with
  | zero => exact hx
  | succ n => exact h n

theorem exists_failsAt_or_succeeds (b : Backend σ) (steps : List Step) (state : σ) :
    (∃ n e, b.FailsAt steps state n e) ∨ b.Succeeds steps state := by
  induction steps generalizing state with
  | nil => exact .inr fun _ => rfl
  | cons x steps ih =>
    cases hx : (b.attempt x state).2 with
    | some e => exact .inl ⟨0, e, failsAt_zero.2 hx⟩
    | none =>
      rcases ih (b.attempt x state).1 with ⟨n, e, h⟩ | h
      · exact .inl ⟨n + 1, e, failsAt_succ.2 ⟨hx, h⟩⟩
      · exact .inr (succeeds_cons.2 ⟨hx, h⟩)

end Backend

variable {b : Backend σ} (planned : Dialect) {steps : List Step} {state : σ}

/-- A run stops right after the first step that fails, which is all that it reports. -/
theorem sequence_of_failsAt {n : ℕ} {e : Error} (h : b.FailsAt steps state n e) :
    ∃ x, steps[n]? = some x ∧ Run.sequence (runStep b planned) steps state =
      x.report planned (b.after state (steps.take (n + 1))) e := by
  -- the steps before it are left one by one, and its number goes down with them
  induction steps generalizing state n with
  | nil => exact absurd h.fails (by simp [Backend.failure?])
  | cons x steps ih =>
    cases n with
    | zero =>
      refine ⟨x, rfl, ?_⟩
      have hx := Backend.failsAt_zero.1 h
      rw [Run.sequence, runStep_of_some hx, andThen_report]
      rfl
    | succ n =>
      obtain ⟨hx, hrest⟩ := Backend.failsAt_succ.1 h
      obtain ⟨y, hy, hrun⟩ := ih hrest
      refine ⟨y, hy, ?_⟩
      rw [Run.sequence, runStep_of_none hx, Run.done_andThen, hrun]
      rfl

theorem sequence_of_succeeds (h : b.Succeeds steps state) :
    Run.sequence (runStep b planned) steps state = .done (b.after state steps) := by
  induction steps generalizing state with
  | nil => rfl
  | cons x steps ih =>
    obtain ⟨hx, hrest⟩ := Backend.succeeds_cons.1 h
    rw [Run.sequence, runStep_of_none hx, Run.done_andThen, ih hrest]
    rfl

/-! ## Plans -/

namespace BindKind

/-- The state in which a plan starts. -/
def opened (b : Backend σ) : BindKind → σ → σ
  | .engine, state => b.start state
  | .connection, state => state

/-- The state that a plan leaves when it does not fail. -/
def committed (b : Backend σ) : BindKind → σ → σ
  | .engine, state => b.commit state
  | .connection, state => state

/-- The state that a plan leaves when it fails. -/
def abandoned (b : Backend σ) : BindKind → σ → σ
  | .engine, state => b.rollback state
  | .connection, state => state

end BindKind

/-- Ends the transaction of a run, if it has one of its own. -/
def Run.ended (b : Backend σ) (bind : BindKind) (r : Run σ) : Run σ :=
  match r.failure with
  | none => { r with state := bind.committed b r.state }
  | some _ => { r with state := bind.abandoned b r.state }

/-- A plan is run step by step, between the ends of its transaction. -/
theorem Plan.run_eq_sequence {p : Plan} (hp : p.operations ≠ []) (b : Backend σ) (bind : BindKind)
    (state : σ) : p.run b bind state =
      (Run.sequence (runStep b p.dialect) p.steps (bind.opened b state)).ended b bind := by
  have hempty : ¬p.isEmpty = true := by simpa [Plan.isEmpty] using hp
  rw [Plan.run.eq_def, if_neg hempty, Plan.steps]
  cases bind with
  | connection =>
    dsimp only
    rw [runOperations_eq_sequence, Run.ended, BindKind.opened]
    split <;> rfl
  | engine =>
    simp only [inTransaction, runOperations_eq_sequence]
    rfl

theorem Plan.run_of_isEmpty {p : Plan} (hp : p.operations = []) (b : Backend σ) (bind : BindKind)
    (state : σ) : p.run b bind state = ⟨state, [.upToDate], none⟩ := by
  rw [Plan.run.eq_def, if_pos (by simp [Plan.isEmpty, hp])]

/-! ## Invariants -/

section Invariants

variable {I : σ → Prop} (hattempt : ∀ x state, I state → I (b.attempt x state).1)
include hattempt

/-- What every attempt keeps is kept by a run, whether it fails or not. -/
theorem sequence_keeps (steps : List Step) (h : I state) :
    I (Run.sequence (runStep b planned) steps state).state := by
  induction steps generalizing state with
  | nil => exact h
  | cons x steps ih =>
    have hx : I (runStep b planned x state).state := state_runStep ▸ hattempt x state h
    rw [Run.sequence, Run.andThen]
    split
    · exact hx
    · exact ih hx

theorem runOperations_keeps {ops : List Operation} (h : I state) :
    I (runOperations b planned ops state).state := by
  rw [runOperations_eq_sequence]
  exact sequence_keeps planned hattempt _ h

theorem Plan.run_keeps {p : Plan} {bind : BindKind} (hstart : ∀ state, I state → I (b.start state))
    (hcommit : ∀ state, I state → I (b.commit state))
    (hrollback : ∀ state, I state → I (b.rollback state)) (h : I state) :
    I (p.run b bind state).state := by
  by_cases hp : p.operations = []
  · rwa [Plan.run_of_isEmpty hp]
  rw [Plan.run_eq_sequence hp, Run.ended]
  have hopened : I (bind.opened b state) := by
    cases bind with
    | engine => exact hstart _ h
    | connection => exact h
  -- the invariant goes through the steps to the end of the transaction
  have hrun := sequence_keeps p.dialect hattempt p.steps hopened
  cases bind with
  | connection => split <;> exact hrun
  | engine =>
    split
    · exact hcommit _ hrun
    · exact hrollback _ hrun

end Invariants

/-! ## Views -/

/-- A run of which less is seen of the state. -/
def Run.map {τ : Type} (view : σ → τ) (r : Run σ) : Run τ := ⟨view r.state, r.events, r.failure⟩

/-- A backend does the same as another to a part of the state. -/
structure Backend.Views {τ : Type} (b : Backend σ) (b' : Backend τ) (view : σ → τ) : Prop where
  dialect : b'.dialect = b.dialect
  execute : ∀ s text state,
    b'.execute s text (view state) = (view (b.execute s text state).1, (b.execute s text state).2)
  start : ∀ state, b'.start (view state) = view (b.start state)
  commit : ∀ state, b'.commit (view state) = view (b.commit state)
  rollback : ∀ state, b'.rollback (view state) = view (b.rollback state)

section Views

variable {τ : Type} {b' : Backend τ} {view : σ → τ}

theorem Run.sequence_view {α : Type} {step : α → σ → Run σ} {step' : α → τ → Run τ}
    (h : ∀ x state, step' x (view state) = (step x state).map view) (xs : List α) (state : σ) :
    sequence step' xs (view state) = (sequence step xs state).map view := by
  induction xs generalizing state with
  | nil => rfl
  | cons x xs ih =>
    rw [sequence, sequence, h]
    obtain ⟨state', events, _ | e⟩ := step x state
    · simp only [andThen, Run.map, ih]
    · rfl

variable (h : b.Views b' view)
include h

theorem Backend.Views.attempt (x : Step) (state : σ) :
    b'.attempt x (view state) = (view (b.attempt x state).1, (b.attempt x state).2) := by
  cases hx : x.statement with
  | error cause => simp [Backend.attempt, hx]
  | ok s =>
    cases htext : s.sent b.dialect with
    | error cause => simp [Backend.attempt, hx, h.dialect, htext]
    | ok text => simpa [Backend.attempt, hx, h.dialect, htext] using h.execute s text state

theorem runStep_view (planned : Dialect) (x : Step) (state : σ) :
    runStep b' planned x (view state) = (runStep b planned x state).map view := by
  have hattempt := h.attempt x state
  have hsame : (b'.attempt x (view state)).2 = (b.attempt x state).2 := by rw [hattempt]
  cases hfailure : (b.attempt x state).2 with
  | none =>
    rw [runStep_of_none hfailure, runStep_of_none (hsame.trans hfailure), hattempt]
    rfl
  | some e =>
    rw [runStep_of_some hfailure, runStep_of_some (hsame.trans hfailure), hattempt, report_eq,
      report_eq planned x (b.attempt x state).1]
    rfl

/-- A run of a plan does to the part of the state what a run on that part does. -/
theorem Plan.run_view (p : Plan) (bind : BindKind) (state : σ) :
    p.run b' bind (view state) = (p.run b bind state).map view := by
  by_cases hp : p.operations = []
  · rw [Plan.run_of_isEmpty hp, Plan.run_of_isEmpty hp]
    rfl
  have hopened : bind.opened b' (view state) = view (bind.opened b state) := by
    cases bind with
    | engine => exact h.start state
    | connection => rfl
  rw [Plan.run_eq_sequence hp, Plan.run_eq_sequence hp, hopened,
    Run.sequence_view (runStep_view h p.dialect)]
  -- whether the run commits or takes back depends on its failure, which the view leaves alone
  generalize Run.sequence (runStep b p.dialect) p.steps (bind.opened b state) = r
  obtain ⟨final, events, _ | e⟩ := r
  · cases bind with
    | engine => exact congrArg (Run.mk · events none) (h.commit final)
    | connection => rfl
  · cases bind with
    | engine => exact congrArg (Run.mk · events (some e)) (h.rollback final)
    | connection => rfl

end Views

end

end Accrete
