import Accrete.Plan

/-!
# Running plans

Statements executed one at a time, in order, up to the first failure.

* `Backend`        -- where statements take effect
* `Run`            -- the state a run leaves, what it reported, and why it stopped
* `runOperations`  -- the operations of a plan
* `Plan.run`       -- a plan, inside a transaction of its own or inside the caller's

A failing statement is reported with its text in the dialect of the plan; what cannot be built or
written at all is not reported.
-/

namespace Accrete

/-- Where statements take effect: a dialect, what executing a statement does to a state of type
    `σ`, and what the ends of a transaction do. -/
structure Backend (σ : Type) where
  dialect : Dialect
  execute : Statement → String → σ → σ × Option Error
  start : σ → σ
  commit : σ → σ
  rollback : σ → σ

/-- What a run leaves. -/
structure Run (σ : Type) where
  state : σ
  events : List Event
  failure : Option Error

namespace Run

variable {σ : Type}

/-- A run that does nothing. -/
def done (state : σ) : Run σ := ⟨state, [], none⟩

def failed (state : σ) (e : Error) : Run σ := ⟨state, [], some e⟩

/-- A run followed by another, unless it failed. -/
def andThen (r : Run σ) (next : σ → Run σ) : Run σ :=
  match r.failure with
  | some _ => r
  | none =>
    let r' := next r.state
    ⟨r'.state, r.events ++ r'.events, r'.failure⟩

/-- Steps in sequence, up to the first failure. -/
def sequence {α : Type} (step : α → σ → Run σ) : List α → σ → Run σ
  | [], state => done state
  | a :: rest, state => (step a state).andThen (sequence step rest)

end Run

variable {σ : Type}

/-- What is left of a failure: it is reported with the statement's text in the dialect of the
    plan, unless the statement has none, which is the failure then. -/
def reportFailure (planned : Dialect) (table : String) (s : Statement) (state : σ) (e : Error) :
    Run σ :=
  match s.sql planned with
  | .ok sql => ⟨state, [.statementFailed table sql], some e⟩
  | .error cause => .failed state (.statement cause)

def runStatement (b : Backend σ) (planned : Dialect) (table : String) (s : Statement)
    (state : σ) : Run σ :=
  -- The text is that of the place where it runs, not that of the plan.
  match s.sent b.dialect with
  | .error cause => reportFailure planned table s state (.statement cause)
  | .ok text =>
    match b.execute s text state with
    | (state', none) => .done state'
    | (state', some e) => reportFailure planned table s state' e

def runOperation (b : Backend σ) (planned : Dialect) (o : Operation) (state : σ) : Run σ :=
  match o.statements planned with
  | .error cause => .failed state (.statement cause)
  | .ok statements => Run.sequence (runStatement b planned o.table) statements state

def runOperations (b : Backend σ) (planned : Dialect) (operations : List Operation) (state : σ) :
    Run σ :=
  Run.sequence (runOperation b planned) operations state

/-- What a plan is run on: an engine opens a transaction of its own, a connection is inside its
    caller's. -/
inductive BindKind where
  | engine | connection
deriving DecidableEq, Repr

def inTransaction (b : Backend σ) (task : σ → Run σ) (state : σ) : Run σ :=
  let r := task (b.start state)
  match r.failure with
  | none => { r with state := b.commit r.state }
  | some _ => { r with state := b.rollback r.state }

/-- Runs a plan.  An empty one touches nothing. -/
def Plan.run (p : Plan) (b : Backend σ) (bind : BindKind) (state : σ) : Run σ :=
  if p.isEmpty then ⟨state, [.upToDate], none⟩
  else match bind with
    | .connection => runOperations b p.dialect p.operations state
    | .engine => inTransaction b (runOperations b p.dialect p.operations) state

def Plan.runOn (p : Plan) (b : Backend σ) (bind : Option BindKind) (state : σ) : Run σ :=
  match bind with
  | none => .failed state (.bindMissing .running)
  | some kind => p.run b kind state

end Accrete
