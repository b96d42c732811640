/-!
# Activity

What a database remembers of what was done to it.

* `Activity`          -- the number of changed rows, the key of the last row, and drawn numbers
* `Activity.inserted` -- after a row is inserted
* `Activity.failed`   -- after no row is inserted
-/

namespace Accrete

/-- What a database remembers of what was done to it. -/
structure Activity where
  /-- How many rows the last change concerned. -/
  changes : Nat
  totalChanges : Nat
  /-- The key of the last row that was inserted. -/
  lastKey : Int
  /-- How many random numbers were drawn. -/
  draws : Nat
deriving DecidableEq, Repr, Inhabited

namespace Activity

/-- Nothing was done yet. -/
def none : Activity := ⟨0, 0, 0, 0⟩

def inserted (a : Activity) (key : Option Int) : Activity :=
  { a with changes := 1, totalChanges := a.totalChanges + 1, lastKey := key.getD a.lastKey }

/-- After no row is inserted. -/
def failed (a : Activity) : Activity := { a with changes := 0 }

end Activity

end Accrete
