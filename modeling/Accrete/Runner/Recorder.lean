import Accrete.Runner

/-!
# Recording runs

A backend that writes down what it is asked to do, and can be made to fail at a statement.

* `Action`            -- one thing a run asks for
* `Recorder.backend`  -- the backend, with the number of the statement that fails, if any
-/

namespace Accrete

/-- One thing a run asks of its backend. -/
inductive Action where
  | start
  | execute (sql : String)
  | commit
  | rollback
deriving DecidableEq, Repr

namespace Action

def isExecute : Action → Bool
  | .execute _ => true
  | _ => false

end Action

namespace Recorder

/-- Writes down a statement; the one whose number is `failAt` then fails. -/
def execute (failAt : Option Nat) (text : String) (actions : List Action) :
    List Action × Option Error :=
  let number := actions.countP Action.isExecute
  (actions ++ [.execute (Text.trim text)],
    if failAt = some number then some (.interrupted number) else none)

def backend (dialect : Dialect) (failAt : Option Nat) : Backend (List Action) where
  dialect
  execute _ text actions := execute failAt text actions
  start actions := actions ++ [.start]
  commit actions := actions ++ [.commit]
  rollback actions := actions ++ [.rollback]

end Recorder

end Accrete
