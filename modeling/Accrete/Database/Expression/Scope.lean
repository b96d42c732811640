import Accrete.Database.Expression
import Accrete.Database.Place

/-!
# Scopes

What is known about the parts of an expression without a row: which columns there are, and what
they bring to a comparison.

* `Scope`                      -- the columns that an expression may name, and where it stands
* `Expression.canBeNull`       -- whether an expression is known not to be null
* `Expression.testedTruth?`    -- the truth that is asked for in a comparison with a word for it
* `Expression.affinity?`       -- the affinity that an expression brings to a comparison
* `Expression.collation?`      -- the collation that an expression brings to a comparison
* `Expression.collationWith?`  -- the collation under which two expressions are compared

A collation that is stated goes before that of a column, and the first of two goes before the
second.
-/

namespace Accrete

/-- What is known about a column without a row. -/
structure ColumnNature where
  affinity : Affinity
  /-- There is none for the key of a row. -/
  collation : Option Collation
  rejectsNull : Bool

/-- The columns that an expression may name, and where it stands.  A default has no place: it knows
    no columns and is not looked at before it is used. -/
structure Scope where
  place : Option Place
  column? : String → Option ColumnNature

namespace Scope

def ofDefault : Scope := ⟨none, fun _ => none⟩

def hides (s : Scope) (name : String) : Bool := (s.column? name).isSome

end Scope

namespace Expression

def column? (s : Scope) : Expression → Option ColumnNature
  | .column name _ | .qualified _ name => s.column? name
  | _ => none

/-- Whether an expression may be null, as far as that is known without a row. -/
def canBeNull (s : Scope) : Expression → Bool
  | .unary .plus e | .unary .negate e => e.canBeNull s
  | .integer _ | .hexadecimal _ => false
  | .literal c => c.isNull
  | .column name quoting => match s.column? name with
    | some c => !c.rejectsNull
    | none => quoting != .doubleQuoted
  | .qualified _ name => !(s.column? name).any (·.rejectsNull)
  | _ => true

/-- The truth that is asked for if something is compared with an expression that is a word for
    it. -/
def testedTruth? (s : Scope) (op : Comparison) (e : Expression) : Option Bool :=
  if (op = .is || op = .isNot) && s.place.isSome then
    match e.withoutCollations with
    | .truth b => some b
    | .column name quoting =>
      if s.hides name then none else namedTruth? (.column name quoting)
    | _ => none
  else none

/-! ## Affinities -/

def affinity? (s : Scope) : Expression → Option Affinity
  | .column name _ | .qualified _ name => (s.column? name).map (·.affinity)
  | .unary (.cast type) _ => some (Affinity.ofType type)
  | .unary (.collate _) e => e.affinity? s
  | .row (e :: _) => e.affinity? s
  | _ => none

def affinityWith (s : Scope) (a b : Expression) : Affinity :=
  match a.affinity? s, b.affinity? s with
  | some x, some y => if x.isNumeric || y.isNumeric then .numeric else .blob
  | some x, none => x
  | none, some y => y
  | none, none => .blob

/-! ## Collations -/

/-- A collation, unless its name is unknown. -/
abbrev Collating := Except String Collation

mutual

def statesCollation : Expression → Bool
  | .unary (.collate _) _ => true
  | .unary _ e | .between e _ _ => e.statesCollation
  | .binary _ a b | .compare _ a b => a.statesCollation || b.statesCollation
  | .member e items | .choiceOf e items => e.statesCollation || someStatesCollation items
  | .choice items | .call _ items _ => someStatesCollation items
  | .row (e :: _) => e.statesCollation
  | _ => false

def someStatesCollation : List Expression → Bool
  | [] => false
  | e :: rest => e.statesCollation || someStatesCollation rest

end

mutual

def collation? (s : Scope) : Expression → Option Collating
  | .column name _ | .qualified _ name => (s.column? name).bind fun c => c.collation.map .ok
  | .unary (.collate name) _ => some (match Collation.ofName? name with
    | some c => .ok c
    | none => .error name)
  | .unary (.cast _) e | .unary .plus e => e.collation? s
  | .unary _ e | .between e _ _ => if e.statesCollation then e.collation? s else none
  | .binary _ a b | .compare _ a b =>
    if a.statesCollation then a.collation? s
    else if b.statesCollation then b.collation? s
    else none
  | .member e items | .choiceOf e items =>
    if e.statesCollation then e.collation? s else firstCollation? s items
  | .choice items | .call _ items _ => firstCollation? s items
  | .row (e :: _) => e.collation? s
  | _ => none

/-- The collation of the first of several expressions that states one. -/
def firstCollation? (s : Scope) : List Expression → Option Collating
  | [] => none
  | e :: rest => if e.statesCollation then e.collation? s else firstCollation? s rest

end

def collationWith? (s : Scope) (a b : Expression) : Option Collating :=
  if !a.statesCollation && b.statesCollation then b.collation? s
  else if a.statesCollation then a.collation? s
  else a.collation? s <|> b.collation? s

/-- The collation of the first of several arguments that brings one. -/
def argumentsCollation? (s : Scope) (args : List Expression) : Option Collating :=
  args.findSome? (·.collation? s)

def known : Option Collating → Collation
  | some (.ok c) => c
  | _ => .binary

end Expression

end Accrete
