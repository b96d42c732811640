import Accrete.Proofs.Database.Agreeing
import Accrete.Proofs.Migrating.Announcement
import Accrete.Proofs.Planning.Remainder

/-!
# Scripts

The statements that a plan executes, operation by operation, and what it means to stop after some
of them.

* `Extension.script`, `Table.script` -- the statements of planned operations in SQLite
* `Operation.script_create`, `Operation.exists_of_addColumn` -- which create tables, and add columns
* `runs_of_runOperations`  -- operations that are run without a failure execute all of theirs
* `Statement.neverMade`    -- what another plan does not make up for
* `exists_cut`             -- statements are cut within one operation
-/

namespace Accrete

variable {db : Database}

/-! ## Operations -/

namespace Operation

/-- The statements of an operation in SQLite, where there are any. -/
def script (op : Operation) : List Statement := (op.statements .sqlite).toOption.getD []

theorem statements_eq_script {op : Operation} {ss : List Statement}
    (h : op.statements .sqlite = .ok ss) : op.statements .sqlite = .ok op.script := by
  rw [script, h]
  rfl

/-- A planned creation is a table with its columns, and then its indexes. -/
theorem script_create {c : TableCreation} (h : (create c).IsPlanned)
    (hss : c.statements = .ok (create c).script) :
    ∃ key columns name names keys others indexes, c.columns = key :: columns ∧
      List.Forall₂ Column.IsNamed (key :: columns) (name :: names) ∧
      (create c).script = .createTable c.table
        (key.spec name :: (names.zip columns).map fun (name, col) => col.spec name)
        (.primaryKey keys :: others) :: indexes ∧ ∀ s ∈ indexes, s.IsIndex := by
  obtain ⟨key, columns, hcolumns, hkey⟩ := h.key c rfl
  obtain ⟨name, names, keys, others, indexes, hnames, hscript, hindexes⟩ :=
    TableCreation.statements_eq_ok hcolumns hkey hss
  exact ⟨key, columns, name, names, keys, others, indexes, hcolumns, hnames, hscript,
    fun s hs => (hindexes s hs).isIndex⟩

theorem isCreation_of_mem_script {c : TableCreation} (h : (create c).IsPlanned)
    (hss : c.statements = .ok (create c).script) : ∀ s ∈ (create c).script, s.IsCreation := by
  obtain ⟨_, _, _, _, _, _, indexes, -, -, hscript, hindexes⟩ := script_create h hss
  rw [hscript]
  exact List.forall_mem_cons.2 ⟨True.intro, fun s hs => (hindexes s hs).isCreation⟩

theorem IsPlanned.forall_script {op : Operation} (h : op.IsPlanned)
    (hss : op.statements .sqlite = .ok op.script) : ∀ s ∈ op.script, s.IsPlanned := by
  have hindex : ∀ s : Statement, s.IsIndex → s.IsPlanned := by
    intro s hs
    cases s with
    | createIndex => exact .createIndex
    | createTable | addColumn | addForeignKey => exact absurd hs id
  cases op with
  | create c =>
    obtain ⟨key, columns, name, names, keys, others, indexes, hcolumns, -, hscript, hindexes⟩ :=
      script_create h hss
    have htypes : ∀ col ∈ key :: columns, col.type ∈ sqliteTypes := hcolumns ▸ h.types
    obtain ⟨htype, htypes⟩ := List.forall_mem_cons.1 htypes
    rw [hscript]
    refine List.forall_mem_cons.2 ⟨.createTable htype fun spec hspec => ?_,
      fun s hs => hindex s (hindexes s hs)⟩
    -- a column has its type in the statement, under whichever name
    obtain ⟨⟨own, col⟩, hmem, rfl⟩ := List.mem_map.1 hspec
    exact htypes col (List.of_mem_zip hmem).2
  | add a =>
    obtain ⟨adds, indexes, hscript, hadds, hindexes⟩ := ColumnAddition.statements_eq_ok hss
    rw [hscript]
    refine List.forall_mem_append.2 ⟨fun s hs => ?_, fun s hs => hindex s (hindexes s hs)⟩
    obtain ⟨c, ⟨spec, rfl, htype, -⟩, -⟩ := exists_mem_zip_of_forall₂ hadds.flip hs
    -- the statement has the type of a column of the addition, or that of the key
    rcases htype with htype | ⟨c', hc', htype⟩
    · exact .addColumn (htype ▸ by decide)
    · exact .addColumn (htype ▸ h.types c' hc')

/-- Columns are added by additions, to their own table. -/
theorem exists_of_addColumn {op : Operation} (h : op.IsPlanned)
    (hss : op.statements .sqlite = .ok op.script) {table : String} {c : ColumnSpec} {unique : Bool}
    {references : Option InlineReference} (hs : .addColumn table c unique references ∈ op.script) :
    ∃ a, op = .add a ∧ table = a.table := by
  cases op with
  | create c => exact absurd (isCreation_of_mem_script h hss _ hs) id
  | add a =>
    obtain ⟨adds, indexes, hscript, hadds, hindexes⟩ := ColumnAddition.statements_eq_ok hss
    rw [hscript, List.mem_append] at hs
    rcases hs with hs | hs
    · obtain ⟨_, ⟨spec, heq, -⟩, -⟩ := exists_mem_zip_of_forall₂ hadds.flip hs
      exact ⟨a, rfl, (Statement.addColumn.inj heq).1⟩
    · exact absurd (hindexes _ hs) id

end Operation

/-- The statements that an extension is planned as. -/
def Extension.script (x : Extension) : List Statement := (Operation.add (x.addition .sqlite)).script

/-- The statements that the creation of a table is planned as. -/
def Table.script (t : Table) : List Statement := (Operation.create (t.creation .sqlite)).script

/-! ## Running -/

theorem runs_of_runStatements {planned : Dialect} {table : String} {ss : List Statement}
    (h : (Run.sequence (runStatement Database.backend planned table) ss db).failure = none) :
    db.Runs ss (Run.sequence (runStatement Database.backend planned table) ss db).state := by
  induction ss generalizing db with
  | nil => exact .nil
  | cons s ss ih =>
    obtain ⟨hfirst, hrest, hlast⟩ := Run.sequence_cons h
    rw [hlast]
    exact .cons (runStatement_eq_ok hfirst) (ih hrest)

/-- Operations that are run without a failure execute their statements, one operation after the
    other. -/
theorem runs_of_runOperations {ops : List Operation}
    (h : (runOperations Database.backend .sqlite ops db).failure = none) :
    (∀ op ∈ ops, op.statements .sqlite = .ok op.script) ∧
      db.Runs (ops.flatMap Operation.script)
        (runOperations Database.backend .sqlite ops db).state := by
  induction ops generalizing db with
  | nil => exact ⟨by simp, .nil⟩
  | cons op ops ih =>
    obtain ⟨hfirst, hrest, hlast⟩ := Run.sequence_cons h
    obtain ⟨hscripts, hruns⟩ := ih hrest
    obtain ⟨ss, hss, hfailure, hstate⟩ := runOperation_eq_ok hfirst
    have hscript := Operation.statements_eq_script hss
    obtain rfl := Except.ok.inj (hss.symm.trans hscript)
    refine ⟨List.forall_mem_cons.2 ⟨hscript, hscripts⟩, ?_⟩
    rw [List.flatMap_cons, Database.runs_append]
    refine ⟨_, runs_of_runStatements hfailure, ?_⟩
    rw [← hstate]
    exact (show _ = _ from hlast) ▸ hruns

/-! ## Stopping -/

/-- The statements that are not made up for after a run of several operations has stopped.  These
    are left of the operation that was begun, and create indexes over columns that it made. -/
def Statement.neverMade : List (List Statement) → ℕ → List Statement
  | [], _ => []
  | ss :: rest, n =>
    if n < ss.length then (ss.drop n).filter (·.isIndexOver (ss.take n))
    else neverMade rest (n - ss.length)

namespace Statement

variable {ss : List Statement} {scripts rest : List (List Statement)} {k : ℕ}

theorem neverMade_append (scripts rest : List (List Statement)) (k : ℕ) :
    neverMade (scripts ++ rest) (scripts.flatten.length + k) = neverMade rest k := by
  induction scripts with
  | nil => simp
  | cons ss scripts ih =>
    rw [List.cons_append, neverMade, List.flatten_cons, List.length_append, Nat.add_assoc,
      if_neg (Nat.not_lt.2 (Nat.le_add_right ..)), Nat.add_sub_cancel_left, ih]

theorem neverMade_cons (h : k < ss.length) (rest : List (List Statement)) :
    neverMade (ss :: rest) k = (ss.drop k).filter (·.isIndexOver (ss.take k)) := by
  rw [neverMade, if_pos h]

theorem neverMade_of_le (h : scripts.flatten.length ≤ k) : neverMade scripts k = [] := by
  obtain ⟨k, rfl⟩ := Nat.exists_eq_add_of_le h
  have hall := neverMade_append scripts [] k
  rwa [List.append_nil] at hall

theorem neverMade_zero (scripts : List (List Statement)) : neverMade scripts 0 = [] := by
  induction scripts with
  | nil => rfl
  | cons ss scripts ih =>
    rw [neverMade]
    split
    · refine List.filter_eq_nil_iff.2 fun s _ => ?_
      cases s <;> simp [isIndexOver]
    · rwa [Nat.zero_sub]

end Statement

theorem flatMap_cut {α β : Type} (f : α → List β) (before after : List α) (x : α) (k : ℕ) :
    (before ++ x :: after).flatMap f =
      (before.flatMap f ++ (f x).take k) ++ ((f x).drop k ++ after.flatMap f) := by
  rw [List.append_assoc, ← List.append_assoc (List.take ..), List.take_append_drop,
    List.flatMap_append, List.flatMap_cons]

/-- Statements are cut within one operation, or after all of them. -/
theorem exists_cut {α β : Type} (f : α → List β) {xs : List α} {n : ℕ}
    (h : n < (xs.flatMap f).length) : ∃ before x after k, xs = before ++ x :: after ∧
      k < (f x).length ∧ n = (before.flatMap f).length + k := by
  induction xs generalizing n with
  | nil => exact absurd h (Nat.not_lt_zero _)
  | cons x xs ih =>
    rw [List.flatMap_cons, List.length_append] at h
    by_cases hn : n < (f x).length
    · exact ⟨[], x, xs, n, rfl, hn, (Nat.zero_add n).symm⟩
    · obtain ⟨before, y, after, k, rfl, hk, hsum⟩ := ih (n := n - (f x).length) (by omega)
      refine ⟨x :: before, y, after, k, rfl, hk, ?_⟩
      rw [List.flatMap_cons, List.length_append]
      omega

end Accrete
