import Accrete.Event

/-!
# Logged tasks

A task yields the events it reported, oldest first, and its outcome.  Events reported before a
failure are kept.

* `Logged`          -- events and outcome
* `Logged.report`   -- a task that only reports
* `Logged.fail`     -- a task that only fails
* `Logged.bind_ok`, `Logged.bind_error` -- how tasks are put in sequence
-/

namespace Accrete

/-- The events that a task reported and its outcome. -/
structure Logged (α : Type) where
  events : List Event
  outcome : Except Error α

namespace Logged

variable {α β : Type}

/-- A task that reports nothing and yields a value. -/
protected def pure (a : α) : Logged α := ⟨[], .ok a⟩

/-- Two tasks in sequence.  The second runs only if the first succeeds. -/
protected def bind (x : Logged α) (f : α → Logged β) : Logged β :=
  match x.outcome with
  | .ok a => ⟨x.events ++ (f a).events, (f a).outcome⟩
  | .error e => ⟨x.events, .error e⟩

instance : Monad Logged where
  pure := Logged.pure
  bind := Logged.bind

/-- A task that reports events and nothing else. -/
def report (events : List Event) : Logged Unit := ⟨events, .ok ()⟩

def fail (e : Error) : Logged α := ⟨[], .error e⟩

/-- A task that reports nothing. -/
def ofExcept (x : Except Error α) : Logged α := ⟨[], x⟩

/-- A task that reports events and yields a value. -/
def ofPair (x : List Event × α) : Logged α := ⟨x.1, .ok x.2⟩

@[simp] theorem bind_ok (events : List Event) (a : α) (f : α → Logged β) :
    (⟨events, .ok a⟩ : Logged α) >>= f = ⟨events ++ (f a).events, (f a).outcome⟩ := rfl

@[simp] theorem bind_error (events : List Event) (e : Error) (f : α → Logged β) :
    (⟨events, .error e⟩ : Logged α) >>= f = ⟨events, .error e⟩ := rfl

end Logged

end Accrete
