import Accrete.Database.Definition.Statement
import Accrete.Proofs.Database.ReadingDefinitions

/-!
# Statements that are read

What the readers of statements find in the text of a migration's statements.

* `TableStatement.ensures_name`     -- any statement that creates a table
* `TableStatement.ensures_reader`   -- one of a migration
* `ColumnStatement.ensures_extends` -- any statement that adds a column
* `ColumnStatement.ensures_reader`  -- one of a migration
-/

namespace Accrete

open Reader

namespace TableStatement

/-- A table is created under a name that nothing speaks against. -/
theorem ensures_name (reread : Bool) (fault? : Token → Option Refusal) (s : Reading) :
    Ensures (reader reread fault?) s fun statement _ =>
      ∃ t : Token, statement.definition.name = t.value ∧ fault? t = none := by
  rw [reader]
  refine .seq fun ⟨start, table⟩ s => ?_
  cases hfault : fault? table with
  | some refusal =>
    simp only [hfault]
    exact .bind (ensures_note (.bind (.map (ensures_expect_noted (by simp)))))
  | none =>
    simp only [hfault]
    refine .seq fun _ s => .bind ((Definition.ensures_body_name reread _ s).mono ?_)
    rintro ⟨d, middle⟩ s hname
    exact .seq fun _ s => .seq fun options s => .bind (.get (.seq fun fault s => .seq fun b s =>
      .pure ⟨table, hname, hfault⟩))

/-- A statement that creates a table defines the columns that are read back, and nothing speaks
    against the name that is. -/
theorem ensures_reader (table : String) {c : ColumnSpec} {cs : List ColumnSpec}
    (hc : c.type ∈ sqliteTypes) (hcs : ∀ c ∈ cs, c.type ∈ sqliteTypes)
    (fault? : Token → Option Refusal) (more : List Token) :
    Ensures (reader false fault?) ⟨Statement.createTableTokens table c cs ++ more, none, 0⟩
      fun s _ => s.definition.name = Dialect.sqlite.readBack table ∧
        s.definition.declared = Definition.readAs c :: Definition.declaredBy cs ∧
        ∃ t : Token, t.value = Dialect.sqlite.readBack table ∧ fault? t = none := by
  have htokens : Statement.createTableTokens table c cs ++ more =
      Token.word ['\n'] ['C', 'R', 'E', 'A', 'T', 'E'] ::
        Token.word [' '] ['T', 'A', 'B', 'L', 'E'] :: Token.named [' '] table ::
        Token.symbol (Statement.blanksAfter table) '(' :: (Statement.columnTokens ['\n', '\t'] c ++
          (Statement.laterColumnTokens cs ++ Definition.columnsEnd more)) := by
    simp [Statement.createTableTokens, Definition.columnsEnd]
  rw [htokens, reader]
  refine .bind (ensures_asOne ?_)
  refine .bind (ensures_expectWord fun _ n => .bind (ensures_expectWord fun _ n => ?_))
  refine .bind (.get (.bind (ensures_expect fun _ n => .pure fun n => ?_)))
  cases hfault : fault? (Token.named [' '] table) with
  | some refusal =>
    -- the refusal comes up with the parenthesis
    simp only [hfault]
    exact .bind (ensures_note (.bind (ensures_expectSymbol fun hnone => absurd hnone (by simp))))
  | none =>
    simp only [hfault]
    refine .bind (ensures_expectSymbol fun _ n => .bind ?_)
    rw [Token.value_named]
    refine (Definition.ensures_body hc hcs false _).mono ?_
    rintro ⟨d, middle⟩ s ⟨hname, hdeclared⟩
    exact .seq fun _ s => .seq fun options s => .bind (.get (.seq fun fault s => .seq fun b s =>
      .pure ⟨hname, hdeclared, _, Token.value_named, hfault⟩))

end TableStatement

namespace ColumnStatement

/-- Whatever a statement says that adds a column, it puts one after those of its table. -/
theorem ensures_extends (columns : Token → Except Refusal Definition) (s : Reading) :
    Ensures (reader columns) s fun statement _ => ∃ before column,
      columns statement.table = .ok before ∧
        Definition.Extends before column statement.definition := by
  rw [reader]
  refine .seq fun _ s => .seq fun _ s => .seq fun table s => ?_
  refine .bind (ensures_orNote (fun before hbefore => ?_) fun refusal _ => ?_)
  · refine .seq fun _ s => .seq fun taken s => ?_
    -- the column that is read stays as it is up to the end of the statement
    have hadded : ∀ s, Ensures (spanned (Definition.column false before)) s fun p s' =>
        Ensures finish s' fun _ _ => ∃ column, Definition.Extends before column p.1 := by
      intro s
      refine ensures_spanned
        ((Definition.ensures_column_extends false before s).mono fun d s hd => ?_)
      exact ensures_finish.mono fun _ _ hnone => hd hnone
    have hread : ∀ {f : Definition × List Token → Token → Bool → ColumnStatement} s,
        (∀ p t b, (f p t b).table = table ∧ (f p t b).definition = p.1) →
        Ensures (do
          let p ← spanned (Definition.column false before)
          let t ← peek
          return f p t (← finish)) s fun statement _ => ∃ before column,
            columns statement.table = .ok before ∧
              Definition.Extends before column statement.definition := by
      intro f s hf
      refine .bind ((hadded s).mono fun p s' hp => .bind (ensures_peek (.bind (hp.mono ?_))))
      rintro b - ⟨column, hcolumn⟩
      refine .pure ⟨before, column, (hf ..).1 ▸ hbefore, (hf ..).2 ▸ hcolumn⟩
    split
    · exact .seq fun _ s => hread s fun _ _ _ => ⟨rfl, rfl⟩
    · exact hread s fun _ _ _ => ⟨rfl, rfl⟩
  · -- the refusal comes up with the next word
    exact .bind (.map (ensures_expect_noted (by simp)))

/-- A statement that adds a column has the columns of its table and the one that it defines. -/
theorem ensures_reader (table : String) {c : ColumnSpec} (hc : c.type ∈ sqliteTypes)
    (columns : Token → Except Refusal Definition) (references : Option InlineReference)
    (more : List Token) :
    Ensures (reader columns)
      ⟨Statement.addColumnTokens table c ++ Statement.addColumnEnd references :: more, none, 0⟩
      fun s _ => s.table.value = Dialect.sqlite.readBack table ∧
        ∃ before, columns s.table = .ok before ∧
          Definition.Extends before (Definition.readAs c) s.definition := by
  have htokens : Statement.addColumnTokens table c ++ Statement.addColumnEnd references :: more =
      Token.word [] ['A', 'L', 'T', 'E', 'R'] :: Token.word [' '] ['T', 'A', 'B', 'L', 'E'] ::
        Token.named [' '] table :: Token.word (Statement.blanksAfter table) ['A', 'D', 'D'] ::
        Token.word [' '] ['C', 'O', 'L', 'U', 'M', 'N'] ::
        (Statement.columnTokens [' '] c ++ Statement.addColumnEnd references :: more) := by
    simp [Statement.addColumnTokens]
  rw [htokens, reader]
  refine .bind (ensures_expectWord fun _ n => .bind (ensures_expectWord fun _ n => ?_))
  refine .bind (ensures_expect fun _ n => .bind (ensures_orNote (fun before hbefore => ?_) ?_))
  · refine .bind (ensures_expectWord fun _ n => .bind (ensures_takeWord (fun _ _ n => ?_) ?_))
    · obtain ⟨htype, hsymbol⟩ : (Statement.addColumnEnd references).isTypePart = false ∧
          (Statement.addColumnEnd references).isSymbol "(" = false := by
        cases references <;> exact ⟨rfl, rfl⟩
      rw [if_neg (by simp)]
      refine .bind (ensures_spanned ((Definition.ensures_column hc false before htype hsymbol).mono
        fun d s hd => .bind (ensures_peek (.bind (ensures_finish.mono fun b s' hnone => ?_)))))
      exact .pure ⟨Token.value_named, before, hbefore, hd hnone⟩
    · exact fun h => absurd h (by decide)
  · -- a refusal that is noted comes up with the next word
    exact fun refusal _ => .bind (ensures_expectWord fun hnone => absurd hnone (by simp))

end ColumnStatement

end Accrete
