/-!
# Places of expressions

Where an expression stands in the definition of a table, and how that is worded.

* `Place`           -- the places
* `Place.plural`    -- all places of a kind
* `Place.singular`  -- one of them
-/

namespace Accrete

/-- Where an expression stands in the definition of a table. -/
inductive Place where
  | check
  | computed
  | index
deriving DecidableEq, Repr

namespace Place

def plural : Place → String
  | .check => "CHECK constraints"
  | .computed => "generated columns"
  | .index => "index expressions"

def singular : Place → String
  | .check => "a CHECK constraint"
  | .computed => "a generated column"
  | .index => "an index"

end Place

end Accrete
