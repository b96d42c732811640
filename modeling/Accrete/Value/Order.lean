import Accrete.Value.Key

/-!
# Order of values

Numbers are in order among themselves, and so are texts; no other values are.

* `Value.sort`  -- keys in ascending order, each one once
-/

namespace Accrete.Value

/-- Keys, each one once, the first of equal ones. -/
def distinct (vs : List Value) : List Value :=
  vs.foldl (fun seen v => if v.isIn seen then seen else seen ++ [v]) []

/-- Whether a value is before another, or none if the two cannot be put in order. -/
def before? (a b : Value) : Option Bool :=
  match a.numeral?, b.numeral?, a.text?, b.text? with
  | some m, some n, _, _ => some (m.lt n)
  | _, _, some s, some t => some (decide (s < t))
  | _, _, _, _ => none

def insertSorted (v : Value) : List Value → Except Misuse (List Value)
  | [] => .ok [v]
  | w :: rest => match v.before? w with
    | none => .error (.notOrdered v.kindName w.kindName)
    | some true => .ok (v :: w :: rest)
    | some false => do return w :: (← insertSorted v rest)

/-- How early a value is compared to others: numbers first and texts last. -/
def sortRank (v : Value) : Nat :=
  if v.numeral?.isSome then 0 else if v.text?.isSome then 2 else 1

/-- Keys in ascending order, each one once. -/
def sort (vs : List Value) : Except Misuse (List Value) :=
  ((distinct vs).mergeSort fun a b => decide (a.sortRank ≤ b.sortRank)).foldlM
    (fun sorted v => insertSorted v sorted) []

end Accrete.Value
