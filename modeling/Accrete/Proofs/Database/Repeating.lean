import Accrete.Proofs.Database.Executing

/-!
# Statements that cannot be repeated

A table is not created under a name that a table has, and a column is not added under a name that
a column of the table has.

* `Definition.ensures_column_fresh`  -- a column is read under a name that no other has
* `Database.HasTable`, `Database.Has` -- a table goes by a name, and a column of it
* `Database.createTable_fresh`, `Database.addColumn_fresh` -- what is made was not there
-/

namespace Accrete

open Reader

/-! ## Reading -/

theorem Reader.ensures_expect_of {t : Token} {tokens : List Token} {noted : Option Refusal} {n : ℕ}
    {test : Token → Bool} {Q : Token → Reading → Prop}
    (h : test t = true → ∀ n, Q t ⟨tokens, none, n⟩) :
    Ensures (expect test) ⟨t :: tokens, noted, n⟩ Q := by
  refine .bind ?_
  by_cases ht : test t = true
  · exact ensures_take ht fun _ n => .pure (h ht n)
  · exact ensures_leave (by simpa using ht) (.bind (ensures_peek .throw))

namespace Definition

variable {c : ColumnSpec} {tokens : List Token} {noted : Option Refusal} {n : ℕ}
  {before : List Char}

theorem startsConstraint_of_isName (h : (Token.named before c.name).isName = true) :
    startsConstraint c = false := by
  refine Bool.eq_false_iff.2 fun hstarts => ?_
  obtain ⟨word, hword, hc⟩ := List.any_eq_true.1 hstarts
  have hreserved : ∀ word ∈ constraintWords, word ∈ Token.reservedWords := by decide
  rw [isWord_named_congr [] before, Token.isWord, Bool.and_eq_true, beq_iff_eq, beq_iff_eq] at hc
  simp [Token.isName, Token.isPlainWord, hc.1, hc.2, hreserved word hword] at h

theorem ensures_columnHead_isName :
    Ensures (asOne do return (← nameToken, ← typeTokens))
      ⟨Token.named before c.name :: tokens, noted, n⟩
      fun head _ => startsConstraint c = false ∧ head.1.value = Dialect.sqlite.readBack c.name :=
  ensures_asOne (.bind (ensures_expect_of fun hname _ => .seq fun _ _ => .pure fun _ =>
    ⟨startsConstraint_of_isName hname, Token.value_named⟩))

theorem fresh_of_addColumn {d d' : Definition} {name : String} {type : Option String}
    (h : d.addColumn name type = .ok d') : ∀ c ∈ d.columns, sameName c.name name = false := by
  rw [addColumn] at h
  split at h
  · exact absurd h (by simp)
  split at h
  · exact absurd h (by simp)
  next hfresh => exact fun c hc => by simpa using List.any_eq_false.1 (by simpa using hfresh) c hc

/-- A column is read under a name that no column has which is there already, and not under a word
    that starts a constraint. -/
theorem ensures_column_fresh (reread : Bool) (d : Definition) :
    Ensures (column reread d) ⟨Token.named before c.name :: tokens, noted, n⟩
      fun _ s' => s'.noted = none → startsConstraint c = false ∧
        ∀ c' ∈ d.columns, sameName c'.name (Dialect.sqlite.readBack c.name) = false := by
  rw [column]
  refine .bind (ensures_columnHead_isName.mono ?_)
  rintro ⟨label, type⟩ s ⟨hstarts, hname⟩
  dsimp only at hname ⊢
  rw [hname]
  refine .bind (ensures_orNote (fun d' hd' => ?_) fun refusal _ => ?_)
  · exact .seq fun _ s d'' s' _ _ => ⟨hstarts, fresh_of_addColumn hd'⟩
  · exact (ensures_columnConstraints_noted reread d (by simp)).mono fun _ _ h hnone =>
      absurd hnone h

end Definition

/-- A statement adds a column under a name that no column of its table has. -/
theorem ColumnStatement.ensures_fresh (table : String) {c : ColumnSpec}
    (columns : Token → Except Refusal Definition) (references : Option InlineReference)
    (more : List Token) :
    Ensures (reader columns)
      ⟨Statement.addColumnTokens table c ++ Statement.addColumnEnd references :: more, none, 0⟩
      fun s _ => ∃ before, columns s.table = .ok before ∧ Definition.startsConstraint c = false ∧
        ∀ c' ∈ before.columns, sameName c'.name (Dialect.sqlite.readBack c.name) = false := by
  -- what comes after the name of the column does not matter here
  obtain ⟨more', htokens⟩ : ∃ more', Statement.addColumnTokens table c ++
      Statement.addColumnEnd references :: more =
        Token.word [] ['A', 'L', 'T', 'E', 'R'] :: Token.word [' '] ['T', 'A', 'B', 'L', 'E'] ::
          Token.named [' '] table :: Token.word (Statement.blanksAfter table) ['A', 'D', 'D'] ::
          Token.word [' '] ['C', 'O', 'L', 'U', 'M', 'N'] :: Token.named [' '] c.name :: more' :=
    ⟨_, by simp [Statement.addColumnTokens, Statement.columnTokens]; rfl⟩
  rw [htokens, reader]
  refine .bind (ensures_expectWord fun _ n => .bind (ensures_expectWord fun _ n => ?_))
  refine .bind (ensures_expect fun _ n => .bind (ensures_orNote (fun before hbefore => ?_) ?_))
  · refine .bind (ensures_expectWord fun _ n => .bind (ensures_takeWord (fun _ _ n => ?_) ?_))
    · rw [if_neg (by simp)]
      refine .bind (ensures_spanned ((Definition.ensures_column_fresh false before).mono
        fun d s hd => .bind (ensures_peek (.bind (ensures_finish.mono fun b s' hnone => ?_)))))
      exact .pure ⟨before, hbefore, hd hnone⟩
    · exact fun h => absurd h (by decide)
  · -- there is no such table, and the refusal comes up with the next word
    exact fun refusal _ => .bind (ensures_expectWord fun hnone => absurd hnone (by simp))

namespace TableStatement

/-- What speaks against names does not matter to a statement that is read. -/
theorem reader_of_run {fault? : Token → Option Refusal} {text : String} {s : TableStatement}
    (h : (reader false fault?).run text = .ok s) :
    (reader false fun _ => none).run text = .ok s := by
  obtain ⟨⟨s', left⟩, hrun, hs⟩ := Except.map_eq_ok.1 h
  refine Except.map_eq_ok.2 ⟨(s', left), ?_, hs⟩
  rw [reader, StateT.run_bind, Except.bind_eq_ok] at hrun ⊢
  obtain ⟨⟨⟨start, table⟩, s₁⟩, hhead, hrun⟩ := hrun
  refine ⟨_, hhead, ?_⟩
  cases hfault : fault? table with
  | none => simpa only [hfault] using hrun
  | some refusal =>
    simp only [hfault] at hrun
    -- the refusal comes up with the parenthesis
    have hfails : ∀ {α : Type} {k : Unit → Reader α}, Ensures (note refusal >>= fun _ =>
        expectSymbol "(" >>= k) s₁ fun _ _ => False :=
      .bind (ensures_note (.bind (.map (ensures_expect_noted (by simp)))))
    exact (hfails _ _ hrun).elim

end TableStatement

/-! ## Executing -/

namespace Database

variable {db db' : Database} {text table : String} {c : ColumnSpec}

/-- A table goes by a name. -/
def HasTable (db : Database) (table : String) : Prop :=
  ∃ t ∈ db.tables, sameName t.name table = true

/-- A column goes by a name, of a table that does. -/
def Has (db : Database) (table column : String) : Prop :=
  ∃ t ∈ db.tables, sameName t.name table = true ∧ ∃ c ∈ t.columns, sameName c.name column = true

/-- A statement of a migration creates a table that was not there. -/
theorem createTable_fresh {cs : List ColumnSpec} {key : List String} {others : List Constraint}
    (hc : c.type ∈ sqliteTypes) (hcs : ∀ c ∈ cs, c.type ∈ sqliteTypes)
    (hsent : (Statement.createTable table (c :: cs) (.primaryKey key :: others)).sent .sqlite =
      .ok text)
    (h : db.createTable text = .ok db') : ¬ db.HasTable (Dialect.sqlite.readBack table) := by
  obtain ⟨t, -, hname, -, -, hnone⟩ := createTable_eq_withTable hc hcs hsent h
  rw [hname] at hnone
  rintro ⟨u, hu, hsame⟩
  exact List.find?_eq_none.1 hnone u hu hsame

/-- A statement of a migration adds a column that was not there. -/
theorem addColumn_fresh {references : Option InlineReference} (hdb : db.NamesDiffer)
    (hc : c.type ∈ sqliteTypes)
    (hsent : (Statement.addColumn table c false references).sent .sqlite = .ok text)
    (h : db.addColumn text = .ok db') :
    Definition.startsConstraint c = false ∧
      ¬ db.Has (Dialect.sqlite.readBack table) (Dialect.sqlite.readBack c.name) := by
  obtain ⟨s, t, whole, hs, -, -, -, rfl⟩ := addColumn_eq_ok h
  obtain ⟨more, htext⟩ := Statement.scan_sent_addColumn hc hsent
  obtain ⟨hvalue, -⟩ := Reader.of_run
    (htext ▸ ColumnStatement.ensures_reader table hc db.columnsBefore references more) hs
  obtain ⟨before, hbefore, hstarts, hfresh⟩ := Reader.of_run
    (htext ▸ ColumnStatement.ensures_fresh table db.columnsBefore references more) hs
  obtain ⟨u, hu, hubefore⟩ := columnsBefore_eq_ok hbefore
  obtain ⟨hu, husame⟩ := table?_eq_some hu
  refine ⟨hstarts, ?_⟩
  -- the table that goes by the name is the one that is read
  rintro ⟨v, hv, hvsame, c', hc', hsame⟩
  rw [hvalue, sameName_iff] at husame
  obtain rfl := hdb.eq_of_sameName hv hu
    (sameName_iff.2 ((sameName_iff.1 hvsame).trans husame.symm))
  exact absurd hsame (by simp [hfresh c' (hubefore ▸ hc')])

end Database

end Accrete
