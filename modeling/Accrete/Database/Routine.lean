import Accrete.Text.Case

/-!
# Routines

The functions that a database knows, by their names and the numbers of their arguments.

* `Routine`           -- what is known about a function
* `Routine.find?`     -- the function of a name for a number of arguments
* `Routine.isKnown`   -- whether a name is that of a function at all

A function may take any number of arguments; one that is made for an exact number of them goes
first.
-/

namespace Accrete

/-- What a function is computed from. -/
inductive RoutineKind where
  /-- Its arguments. -/
  | scalar
  /-- The arguments in many rows. -/
  | aggregate
  | window
  /-- What only the database itself may ask for. -/
  | internal
deriving DecidableEq, Repr

/-- What is known about a function for some numbers of arguments. -/
structure Routine where
  name : String
  kind : RoutineKind
  /-- Whether the value depends on nothing but the arguments. -/
  steady : Bool
deriving DecidableEq, Repr

namespace Routine

/-- Functions of one kind, with the numbers of arguments that they are made for, none for any. -/
structure Family where
  kind : RoutineKind
  steady : Bool
  counts : Option (List Nat)
  names : List String

/-- The functions of texts, numbers and other values. -/
def scalarFamilies : List Family :=
  [⟨.scalar, true, some [0], ["fts5_source_id", "pi"]⟩,
   ⟨.scalar, true, some [1],
    ["abs", "acos", "acosh", "asin", "asinh", "atan", "atanh", "ceil", "ceiling", "cos", "cosh",
     "degrees", "exp", "floor", "hex", "json", "json_quote", "json_valid", "length", "likely", "ln",
     "log10", "log2", "lower", "quote", "radians", "sign", "sin", "sinh", "soundex", "sqrt", "tan",
     "tanh", "trunc", "typeof", "unicode", "unlikely", "upper", "zeroblob"]⟩,
   ⟨.scalar, true, some [1, 2],
    ["json_array_length", "json_type", "log", "ltrim", "round", "rtrim", "trim"]⟩,
   ⟨.scalar, true, some [2],
    ["->", "->>", "atan2", "glob", "ifnull", "instr", "json_patch", "likelihood", "mod", "nullif",
     "pow", "power", "regexp", "sqlite_log"]⟩,
   ⟨.scalar, true, some [2, 3], ["like", "substr", "substring"]⟩,
   ⟨.scalar, true, some [3], ["iif", "replace"]⟩,
   ⟨.scalar, true, none,
    ["char", "date", "datetime", "format", "json_array", "json_extract", "json_insert",
     "json_object", "json_remove", "json_replace", "json_set", "julianday", "printf", "strftime",
     "time", "unixepoch"]⟩]

/-- The functions that take at least one or two arguments. -/
def openFamilies : List (Nat × List String) := [(1, ["max", "min"]), (2, ["coalesce"])]

/-- The functions whose values depend on more than their arguments. -/
def unsteadyFamilies : List Family :=
  [⟨.scalar, false, some [0],
    ["changes", "current_date", "current_time", "current_timestamp", "last_insert_rowid", "random",
     "sqlite_source_id", "sqlite_version", "total_changes"]⟩,
   ⟨.scalar, false, some [1],
    ["fts5", "offsets", "optimize", "randomblob", "rtreedepth", "sqlite_compileoption_get",
     "sqlite_compileoption_used"]⟩,
   ⟨.scalar, false, some [1, 2], ["fts3_tokenizer", "load_extension", "matchinfo"]⟩,
   ⟨.scalar, false, some [2], ["match", "rtreenode"]⟩,
   ⟨.scalar, false, none, ["bm25", "highlight", "rtreecheck", "snippet"]⟩]

/-- The functions of many rows and of windows. -/
def rowFamilies : List Family :=
  [⟨.aggregate, true, some [0, 1], ["count"]⟩,
   ⟨.aggregate, true, some [1], ["avg", "json_group_array", "max", "min", "sum", "total"]⟩,
   ⟨.aggregate, true, some [1, 2], ["group_concat"]⟩,
   ⟨.aggregate, true, some [2], ["json_group_object"]⟩,
   ⟨.window, true, some [0], ["cume_dist", "dense_rank", "percent_rank", "rank", "row_number"]⟩,
   ⟨.window, true, some [1], ["first_value", "last_value", "ntile"]⟩,
   ⟨.window, true, some [1, 2, 3], ["lag", "lead"]⟩,
   ⟨.window, true, some [2], ["nth_value"]⟩]

/-- The functions that only the database itself may ask for. -/
def internalFamilies : List Family :=
  [⟨.internal, true, some [1], ["affinity"]⟩,
   ⟨.internal, true, some [2],
    ["expr_compare", "expr_implies_expr", "implies_nonnull_row", "sqlite_rename_quotefix"]⟩,
   ⟨.internal, true, some [3], ["sqlite_drop_column"]⟩,
   ⟨.internal, true, some [7], ["sqlite_rename_table", "sqlite_rename_test"]⟩,
   ⟨.internal, true, some [9], ["sqlite_rename_column"]⟩]

/-- All functions of given numbers of arguments. -/
def families : List Family :=
  rowFamilies ++ scalarFamilies ++ unsteadyFamilies ++ internalFamilies

/-- The function of a name for a number of arguments. -/
def find? (name : String) (count : Nat) : Option Routine :=
  let name := Text.asciiLower name
  let found (exact : Bool) : Option Family :=
    families.find? fun f =>
      (match f.counts with
        | some counts => exact && counts.contains count
        | none => !exact) && f.names.contains name
  match found true <|> found false with
  | some f => some ⟨name, f.kind, f.steady⟩
  | none =>
    if openFamilies.any fun (least, names) => least ≤ count && names.contains name then
      some ⟨name, .scalar, true⟩
    else none

def isKnown (name : String) : Bool :=
  let name := Text.asciiLower name
  (families.any fun f => f.names.contains name) || openFamilies.any fun f => f.2.contains name

/-- Whether a function depends on nothing but its arguments. -/
def isSteady (name : String) (count : Nat) : Bool :=
  (find? name count).any fun r => r.steady && r.kind == .scalar

/-- Whether a function only hints at how likely its first argument is. -/
def isHint (name : String) : Bool :=
  ["likelihood", "likely", "unlikely"].contains (Text.asciiLower name)

/-- Whether a function compares its arguments. -/
def compares (name : String) : Bool :=
  ["max", "min", "nullif"].contains (Text.asciiLower name)

/-- Functions that a definition may not call. -/
def isUnsafe (name : String) : Bool :=
  ["fts3_tokenizer", "load_extension"].contains (Text.asciiLower name)

end Routine

end Accrete
