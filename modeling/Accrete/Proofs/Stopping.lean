import Accrete.FileTree.Opening
import Accrete.Migration
import Accrete.Proofs.Logged

/-!
# What stops a task

A task stops by errors of some kind alone if each of its parts does.  What stops the planning of a
migration, with the opening of its database, is of a kind of its own.

* `Except.StopsBy`, `Logged.StopsBy`, `Opening.StopsBy` -- whatever stops a task is of a kind
* `Error.isOfMigration`         -- the errors that stop the planning of a migration
* `Migration.stopsBy_target`, `Migration.stopsBy_against`, `FileTree.stopsBy_openNamed`
  -- its parts
-/

namespace Accrete

variable {α β : Type}

/-! ## Tasks and their parts -/

namespace Except

variable {ε ε' : Type} {kind : ε → Bool} {x : Except ε α}

/-- Whatever stops a task is of a kind. -/
def StopsBy (kind : ε → Bool) (x : Except ε α) : Prop := ∀ e, x = .error e → kind e = true

namespace StopsBy

theorem ne_error (hx : StopsBy kind x) {e : ε} (he : kind e = false) : x ≠ .error e := by
  intro h
  exact absurd ((hx e h).symm.trans he) (by decide)

protected theorem pure (a : α) : StopsBy kind (pure a) := fun _ h => nomatch h

protected theorem error {e : ε} (h : kind e = true) : StopsBy kind (.error e : Except ε α) := by
  intro e' h'
  obtain rfl := Except.error.inj h'
  exact h

protected theorem bind {f : α → Except ε β} (hx : StopsBy kind x)
    (hf : ∀ a, x = .ok a → StopsBy kind (f a)) : StopsBy kind (x >>= f) := by
  intro e h
  rcases bind_eq_error.1 h with h | ⟨a, ha, h⟩
  · exact hx e h
  · exact hf a ha e h

protected theorem map (f : α → β) (hx : StopsBy kind x) : StopsBy kind (f <$> x) := by
  intro e h
  cases x with
  | error cause =>
    obtain rfl := Except.error.inj h
    exact hx cause rfl
  | ok a => exact nomatch h

protected theorem mapError {f : ε' → ε} (h : ∀ cause, kind (f cause) = true) (x : Except ε' α) :
    StopsBy kind (x.mapError f) := by
  intro e he
  obtain ⟨cause, -, rfl⟩ := mapError_eq_error.1 he
  exact h cause

protected theorem forM {f : α → Except ε Unit} {xs : List α} (h : ∀ x ∈ xs, StopsBy kind (f x)) :
    StopsBy kind (xs.forM f) := by
  intro e he
  obtain ⟨x, hx, he⟩ := exists_of_forM_eq_error he
  exact h x hx e he

protected theorem mapM {f : α → Except ε β} {xs : List α} (h : ∀ x ∈ xs, StopsBy kind (f x)) :
    StopsBy kind (xs.mapM f) := by
  intro e he
  obtain ⟨before, x, after, rfl, -, he⟩ := mapM_eq_error.1 he
  exact h x (by simp) e he

end StopsBy

end Except

namespace Logged

variable {kind : Error → Bool} {x : Logged α}

/-- Whatever stops a task is of a kind. -/
def StopsBy (kind : Error → Bool) (x : Logged α) : Prop := Except.StopsBy kind x.outcome

namespace StopsBy

protected theorem pure (a : α) : StopsBy kind (pure a) := Except.StopsBy.pure a

protected theorem report (events : List Event) : StopsBy kind (report events) :=
  Except.StopsBy.pure ()

protected theorem ofPair (result : List Event × α) : StopsBy kind (ofPair result) :=
  Except.StopsBy.pure result.2

protected theorem ofExcept {x : Except Error α} (h : Except.StopsBy kind x) :
    StopsBy kind (ofExcept x) := h

protected theorem bind {f : α → Logged β} (hx : StopsBy kind x) (hf : ∀ a, StopsBy kind (f a)) :
    StopsBy kind (x >>= f) := by
  rw [StopsBy, outcome_bind_eq]
  exact .bind hx fun a _ => hf a

protected theorem mapM {f : α → Logged β} {xs : List α} (h : ∀ x ∈ xs, StopsBy kind (f x)) :
    StopsBy kind (xs.mapM f) := by
  rw [StopsBy, outcome_mapM]
  exact .mapM h

end StopsBy

end Logged

namespace Opening

variable {kind : Error → Bool} {x : Opening α}

/-- Whatever stops an opening is of a kind, among any files. -/
def StopsBy (kind : Error → Bool) (x : Opening α) : Prop :=
  ∀ t, Except.StopsBy kind (x.run.run t).1

namespace StopsBy

protected theorem pure (a : α) : StopsBy kind (pure a) := fun _ => Except.StopsBy.pure a

protected theorem throw {e : Error} (h : kind e = true) : StopsBy kind (throw e : Opening α) :=
  fun _ => .error h

protected theorem get : StopsBy kind (get : Opening FileTree) := fun t => Except.StopsBy.pure t

protected theorem set (t : FileTree) : StopsBy kind (set t : Opening PUnit) :=
  fun _ => Except.StopsBy.pure PUnit.unit

protected theorem modify (f : FileTree → FileTree) : StopsBy kind (modify f : Opening PUnit) :=
  fun _ => Except.StopsBy.pure PUnit.unit

protected theorem bind {f : α → Opening β} (hx : StopsBy kind x) (hf : ∀ a, StopsBy kind (f a)) :
    StopsBy kind (x >>= f) := by
  intro t
  rw [ExceptT.run_bind, StateT.run_bind]
  replace hx := hx t
  generalize x.run.run t = result at hx ⊢
  obtain ⟨outcome, t'⟩ := result
  cases outcome with
  | error e => exact .error (hx e rfl)
  | ok a => exact hf a t'

protected theorem ite {c : Prop} [Decidable c] {y : Opening α} (hx : StopsBy kind x)
    (hy : StopsBy kind y) : StopsBy kind (if c then x else y) := by
  split
  · exact hx
  · exact hy

/-- A check under a condition, followed by more. -/
protected theorem check {c : Prop} [Decidable c] {x : Opening PUnit} {f : PUnit → Opening β}
    (hx : StopsBy kind x) (hf : ∀ a, StopsBy kind (f a)) :
    StopsBy kind (if c then x >>= f else f ⟨⟩) := .ite (.bind hx hf) (hf ⟨⟩)

end StopsBy

end Opening

/-! ## Migrations -/

/-- Whether an error is one that planning a migration meets, the opening of its database
    included. -/
def Error.isOfMigration : Error → Bool
  | .declaration _ | .reservedColumn .. | .dialectUnsupported _ | .misused _ | .statement _
  | .refused .. | .urlUnusable _ | .pathUnusable .. => true
  | _ => false

theorem Except.stopsBy_misused (x : Except Misuse α) :
    Except.StopsBy Error.isOfMigration (x.mapError Error.misused) := .mapError (fun _ => rfl) x

theorem Logged.stopsBy_misused (x : Except Misuse α) :
    Logged.StopsBy Error.isOfMigration (ofExcept (x.mapError Error.misused)) :=
  .ofExcept (Except.stopsBy_misused x)

namespace Schema

theorem stopsBy_gather (fragments : List Fragment) (s : Schema) :
    Logged.StopsBy Error.isOfMigration (gather s fragments) := by
  induction fragments generalizing s with
  | nil => exact .pure s
  | cons f rest ih =>
    rw [gather]
    split
    · exact ih _
    · exact .bind (.report _) fun _ => ih s
    · exact .error rfl

theorem stopsBy_assemble (fragments : List Fragment) :
    Logged.StopsBy Error.isOfMigration (assemble fragments) :=
  .bind (stopsBy_gather fragments []) fun _ =>
    .bind (Logged.stopsBy_misused _) fun s => .bind (.report _) fun _ => .pure s

end Schema

theorem stopsBy_parse (name : String) :
    Except.StopsBy Error.isOfMigration (Dialect.parse name) := by
  rw [Dialect.parse]
  split
  · exact .pure _
  · exact .error rfl

theorem stopsBy_bindDialect (own : String) (stated : Option String) :
    Logged.StopsBy Error.isOfMigration (bindDialect (some own) stated) := by
  cases stated with
  | none => exact .ofPair _
  | some name => exact .ofExcept (stopsBy_parse name)

theorem stopsBy_creationOrderBy {α : Type} (order : α → Number) (name : α → String)
    (read : α → Except Misuse Table) (xs : List α) :
    Logged.StopsBy Error.isOfMigration (creationOrderBy order name read xs) :=
  .bind (.mapM fun _ _ => .bind (Logged.stopsBy_misused _) fun _ => .ofPair _) fun _ => .pure _

theorem stopsBy_compare (live : List LiveTable) (d : Dialect) (entry : SchemaEntry) :
    Logged.StopsBy Error.isOfMigration (entry.compare live d) := by
  cases entry with
  | malformed name => exact .bind (.report _) fun _ => .pure _
  | table t =>
    rw [SchemaEntry.compare]
    split
    · exact .bind (Logged.stopsBy_misused _) fun _ => .pure _
    · refine .bind (.report _) fun _ => ?_
      dsimp only
      split
      · exact .bind (Logged.stopsBy_misused _) fun _ => .pure _
      · exact .pure _

theorem stopsBy_difference (entries : List SchemaEntry) (live : List LiveTable) (d : Dialect) :
    Logged.StopsBy Error.isOfMigration (difference entries live d) :=
  .bind (.mapM fun entry _ => stopsBy_compare live d entry) fun _ =>
    .bind (stopsBy_creationOrderBy _ _ _ _) fun _ => .pure _

namespace Database

theorem stopsBy_tablesIn (db : Database) (schema : Option String) :
    Except.StopsBy Error.isOfMigration (db.tablesIn schema) := by
  cases schema with
  | none => exact .pure _
  | some name =>
    rw [tablesIn]
    split
    · exact .error rfl
    · split
      · exact .pure _
      · split
        · exact .pure _
        · exact .error rfl

theorem stopsBy_report (t : StoredTable) : Logged.StopsBy Error.isOfMigration t.report := by
  refine .bind (Logged.stopsBy_misused _) fun _ => .bind (.mapM fun c _ => ?_) fun _ => .pure _
  refine .bind (Logged.stopsBy_misused _) fun type => ?_
  split
  · exact .pure _
  · exact .bind (.report _) fun _ => .pure _

theorem stopsBy_introspect (db : Database) (schema : Option String) :
    Logged.StopsBy Error.isOfMigration (db.introspect schema) :=
  .bind (.ofExcept (stopsBy_tablesIn db schema)) fun _ => .mapM fun t _ => stopsBy_report t

end Database

namespace Plan

theorem stopsBy_checkGroups (table : String) (known : Columns) (groups : List Columns) :
    Except.StopsBy Error.isOfMigration (checkGroups table known groups) := by
  rw [checkGroups]
  split
  · exact .bind (Except.stopsBy_misused _) fun _ _ => .error rfl
  · exact .pure ()

theorem stopsBy_extension (x : Extension) (d : Dialect) :
    Logged.StopsBy Error.isOfMigration (x.plan d) :=
  .bind (Logged.stopsBy_misused _) fun _ => .bind (.ofExcept (stopsBy_checkGroups _ _ _)) fun _ =>
    .bind (.report _) fun _ => .pure _

theorem stopsBy_table (t : Table) (d : Dialect) :
    Logged.StopsBy Error.isOfMigration (t.plan d) :=
  .bind (Logged.stopsBy_misused _) fun _ => .bind (.report _) fun _ =>
    .bind (Logged.stopsBy_misused _) fun _ => .bind (.report _) fun _ =>
      .bind (.ofExcept (stopsBy_checkGroups _ _ _)) fun _ =>
        .bind (.ofExcept (.mapError (fun _ => rfl) _)) fun _ => .bind (.report _) fun _ => .pure _

theorem stopsBy_checkReserved (t : Table) :
    Except.StopsBy Error.isOfMigration t.checkReserved := by
  rw [Table.checkReserved]
  split
  · exact .bind (Except.stopsBy_misused _) fun _ _ => .error rfl
  · exact .pure ()

theorem stopsBy_build (toCreate : List Table) (toAdd : List Extension) (d : Dialect) :
    Logged.StopsBy Error.isOfMigration (build toCreate toAdd d) :=
  .bind (stopsBy_creationOrderBy _ _ _ _) fun _ =>
    .bind (.ofExcept (.forM fun t _ => stopsBy_checkReserved t)) fun _ =>
      .bind (.mapM fun x _ => stopsBy_extension x d) fun _ =>
        .bind (.mapM fun t _ => stopsBy_table t d) fun _ => .pure _

end Plan

namespace Migration

theorem stopsBy_target (fragments : List Fragment) (stated : Option String) :
    Logged.StopsBy Error.isOfMigration (target fragments stated) :=
  .bind (Schema.stopsBy_assemble fragments) fun _ =>
    .bind (stopsBy_bindDialect _ stated) fun _ => .pure _

theorem stopsBy_against (schema : Schema) (d : Dialect) (db : Database)
    (schemaName : Option String) :
    Logged.StopsBy Error.isOfMigration (against schema d db schemaName) :=
  .bind (db.stopsBy_introspect schemaName) fun _ => .bind (stopsBy_difference _ _ d) fun _ =>
    .bind (Plan.stopsBy_build _ _ d) fun _ => .pure _

end Migration

/-! ## Opening databases -/

namespace Opening

theorem stopsBy_refuse (cause : Refusal) :
    StopsBy Error.isOfMigration (refuse cause : Opening α) := .throw rfl

end Opening

namespace FileTree

open Opening (stopsBy_refuse)

variable {place : List String} {file : Node}

theorem stopsBy_settleJournal (writes : Bool) :
    Opening.StopsBy Error.isOfMigration (settleJournal place file writes) := by
  refine .bind .get fun t => ?_
  dsimp only
  split
  · exact .pure _
  · exact .ite (.ite (.modify _) (.pure _)) (.ite (stopsBy_refuse _)
      (.ite (.check (stopsBy_refuse _) fun _ => .modify _) (.pure _)))

theorem stopsBy_settleLog (writes : Bool) :
    Opening.StopsBy Error.isOfMigration (settleLog place file writes) := by
  refine .bind .get fun t => ?_
  dsimp only
  split
  · exact .pure _
  · exact .check (stopsBy_refuse _) fun _ => .ite (.modify _) (.pure _)

theorem stopsBy_content : Opening.StopsBy Error.isOfMigration (content file) := by
  cases file with
  | directory => exact .ite (.pure _) (stopsBy_refuse _)
  | text s => exact .ite (.pure _) (stopsBy_refuse _)
  | database db => exact .pure _

theorem stopsBy_openFile (p : Path) (access : Access) :
    Opening.StopsBy Error.isOfMigration (openFile p access) := by
  refine .bind .get fun t => .check (stopsBy_refuse _) fun _ =>
    .check (stopsBy_refuse _) fun _ => ?_
  dsimp only
  split
  · exact stopsBy_refuse _
  · split
    · exact stopsBy_refuse _
    · exact .pure _
    · exact .check (stopsBy_refuse _) fun _ => .bind (.set _) fun _ => .pure _

theorem stopsBy_openLocated (location : DatabaseLocation) :
    Opening.StopsBy Error.isOfMigration (openLocated location) := by
  cases location with
  | memory writes => exact .pure _
  | file p access =>
    refine .bind (stopsBy_openFile p access) fun opened => ?_
    have hcontent (_ : PUnit) : Opening.StopsBy Error.isOfMigration (do
        return (⟨← content opened.2, some opened.1, (← get).writeFault? opened.1 access⟩ :
          OpenDatabase)) := .bind stopsBy_content fun _ => .bind .get fun _ => .pure _
    exact .ite (.bind (stopsBy_settleJournal _) fun _ => .bind (stopsBy_settleLog _) hcontent)
      (hcontent ⟨⟩)

theorem stopsBy_openNamed (n : DatabaseName) :
    Opening.StopsBy Error.isOfMigration (openNamed n) := by
  rw [openNamed]
  split
  · refine .bind (.throw rfl) fun _ => .check (.throw rfl) fun _ => ?_
    split
    · exact stopsBy_refuse _
    · exact stopsBy_openLocated _
  · refine .check (.throw rfl) fun _ => ?_
    split
    · exact stopsBy_refuse _
    · exact stopsBy_openLocated _

end FileTree

end Accrete
