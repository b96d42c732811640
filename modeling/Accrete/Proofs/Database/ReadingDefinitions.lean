import Accrete.Database.Definition.Statement
import Accrete.Proofs.Database.Defining
import Accrete.Proofs.Database.Reading
import Accrete.Proofs.Database.StatementTokens

/-!
# Definitions that are read

What the readers of definitions gather from the tokens of a migration's statements.

* `Definition.ensures_columnConstraint`, `Definition.ensures_tableConstraint` -- any constraint
* `Definition.ensures_column`   -- a column of a migration
* `Definition.ensures_body`     -- all columns of a table, up to its first constraint
-/

namespace Accrete.Definition

open Reader

/-! ## Any constraint -/

/-- A constraint of the last column leaves the name and the type of that column.  Nothing changes
    where none follows. -/
theorem ensures_columnConstraint (reread : Bool) (d : Definition) (s : Reading) :
    Ensures (columnConstraint reread d) s fun o s' =>
      match o with
      | none => s' = s
      | some d' => Constrains d d' := by
  have hsame : ∀ {d'}, SameColumns d d' → Constrains d d' := SameColumns.constrains
  have hnote : ∀ {x s}, (∀ d', x = .ok d' → Constrains d d') →
      Ensures (orNote d x) s fun d' _ => Constrains d d' := fun hx =>
    ensures_orNote hx fun _ _ => hsame (.refl d)
  have hcomputed : ∀ s, Ensures d.computed s fun d' _ => Constrains d d' := fun s =>
    .seq fun ⟨e, _⟩ s => .seq fun storage s => hnote fun d' => constrains_setComputed
  rw [columnConstraint]
  -- the name of a constraint
  refine ensures_ifWord (fun s => .seq fun label s => .pure (hsame ⟨rfl, rfl⟩)) ?_
  -- a default
  refine ensures_ifWord (fun s => .seq fun e s =>
    .bind ((hnote fun d' => constrains_setDefault).mono fun d' s h => .pure h)) ?_
  -- whether null is allowed
  refine ensures_ifWord (fun s => .seq fun _ s => .pure (hsame (.refl d))) ?_
  refine ensures_ifWord (fun s => ensures_ifAt (.seq fun _ s => .pure (hsame (.refl d)))
    (.seq fun _ s => .seq fun conflict s => .pure (constrains_setNotNull conflict))) ?_
  -- keys
  refine ensures_ifWord (fun s => .seq fun _ s => .seq fun order s => .seq fun conflict s =>
    .seq fun counting s => .bind ((hnote fun d' hd' => hsame (sameColumns_setKey hd')).mono
      fun d' s h => .pure h)) ?_
  refine ensures_ifWord (fun s => .seq fun conflict s =>
    .bind ((hnote fun d' hd' => hsame (sameColumns_addUnique hd')).mono fun d' s h => .pure h)) ?_
  -- a check
  refine ensures_ifWord (fun s => .seq fun ⟨rule, source⟩ s => .pure (hsame ⟨rfl, rfl⟩)) ?_
  -- a reference
  refine ensures_ifWord (fun s => .seq fun target s => .seq fun _ s =>
    .bind ((hnote fun d' hd' => hsame (sameColumns_checkTarget hd')).mono
      fun d' s h => .pure h)) ?_
  refine ensures_ifAt (.seq fun _ s => .pure (hsame (.refl d))) ?_
  -- a collation
  refine ensures_ifWord (fun s => .seq fun collation s =>
    .bind ((hnote fun d' => constrains_setCollation).mono fun d' s h => .pure h)) ?_
  -- a computed column
  refine ensures_ifWord (fun s => .seq fun _ s => .seq fun _ s =>
    .bind ((hcomputed s).mono fun d' s h => .pure h)) ?_
  refine ensures_ifWord (fun s => .bind ((hcomputed s).mono fun d' s h => .pure h)) ?_
  exact .pure rfl

/-- A constraint of the table leaves its columns. -/
theorem ensures_tableConstraint (reread : Bool) (d : Definition) (s : Reading) :
    Ensures (tableConstraint reread d) s fun o _ => ∀ d', o = some d' → SameColumns d d' := by
  have hsome : ∀ {d' s}, SameColumns d d' →
      Ensures (pure (some d')) s fun o _ => ∀ d', o = some d' → SameColumns d d' := fun h =>
    .pure fun d' hd' => Option.some.inj hd' ▸ h
  have hnote : ∀ {x s}, (∀ d', x = .ok d' → SameColumns d d') →
      Ensures (orNote d x >>= fun d => pure (some d)) s fun o _ =>
        ∀ d', o = some d' → SameColumns d d' := fun hx =>
    .bind (ensures_orNote (fun d' hd' => hsome (hx d' hd')) fun _ _ => hsome (.refl d))
  rw [tableConstraint]
  -- the name of a constraint
  refine ensures_ifWord (fun s => .seq fun label s => hsome ⟨rfl, rfl⟩) ?_
  -- keys
  refine ensures_ifWord (fun s => .seq fun _ s => .seq fun ⟨parts, counting⟩ s =>
    .seq fun conflict s => hnote fun d' => sameColumns_setKey) ?_
  refine ensures_ifWord (fun s => .seq fun ⟨parts, _⟩ s => .seq fun conflict s =>
    hnote fun d' => sameColumns_addUnique) ?_
  -- a check
  refine ensures_ifWord (fun s => .seq fun ⟨rule, source⟩ s => .seq fun _ s =>
    hsome ⟨rfl, rfl⟩) ?_
  -- a reference
  have hforeign : ∀ {columns target s}, Ensures (orNote d (d.checkForeignKey columns target) >>=
      fun d => pure (some d)) s fun o _ => ∀ d', o = some d' → SameColumns d d' :=
    hnote fun d' => sameColumns_checkForeignKey
  refine ensures_ifWord (fun s => .seq fun _ s => .seq fun columns s => .seq fun _ s =>
    .seq fun target s => .seq fun _ s => ?_) ?_
  · refine ensures_ifWord (fun s => .seq fun _ s => hforeign) (ensures_ifAt ?_ ?_)
    · exact .seq fun _ s => hforeign
    · exact hforeign
  · exact .pure fun d' hd' => absurd hd' (by simp)

theorem ensures_nextConstraint (reread : Bool) (d : Definition) (s : Reading) :
    Ensures (nextConstraint reread d) s fun o _ => ∀ d', o = some d' → SameColumns d d' := by
  rw [nextConstraint]
  refine ensures_intoLast ?_
  refine ensures_ifSymbol (fun s => ?_) ?_
  · have hlabel : SameColumns d { d with label := none } := ⟨rfl, rfl⟩
    refine .bind ((ensures_tableConstraint reread { d with label := none } s).mono fun o s ho => ?_)
    cases o with
    | none => exact ensures_unexpected
    | some d' => exact .pure fun _ d'' hd'' => hlabel.trans (Option.some.inj hd'' ▸ ho d' rfl)
  · exact .seq fun _ s => (ensures_tableConstraint reread d s).mono fun o s ho _ d' hd' => ho d' hd'

theorem ensures_nextConstraints (reread : Bool) (d : Definition) (s : Reading) :
    Ensures (repeated (nextConstraint reread) d) s fun d' _ => SameColumns d d' := by
  refine ensures_repeated (I := fun d' _ => SameColumns d d') (fun d' s hd' => ?_) (.refl d)
  refine (ensures_nextConstraint reread d' s).mono fun o _ ho => ?_
  cases o with
  | none => exact hd'
  | some d'' => exact hd'.trans (ho d'' rfl)

/-! ## Any columns -/

theorem ensures_columnConstraints_name (reread : Bool) (d : Definition) (s : Reading) :
    Ensures (do deepen; repeated (fun d => intoLast (columnConstraint reread d)) d) s
      fun d' _ => d'.name = d.name := by
  refine .bind (ensures_deepen fun n => ?_)
  refine ensures_repeated (I := fun (d' : Definition) _ => d'.name = d.name) (fun d' s hd' => ?_) rfl
  refine ensures_intoLast ((ensures_columnConstraint reread d' s).mono fun o _ ho n => ?_)
  cases o with
  | none => exact hd'
  | some d'' => exact ho.name.trans hd'

theorem ensures_column_name (reread : Bool) (d : Definition) (s : Reading) :
    Ensures (column reread d) s fun d' _ => d'.name = d.name := by
  rw [column]
  refine .seq fun ⟨label, type⟩ s => .bind (ensures_orNote (fun d₁ hd₁ => ?_) fun _ _ => ?_)
  · refine (ensures_columnConstraints_name reread d₁ s).mono fun d' _ hd' => ?_
    exact hd'.trans (extends_addColumn hd₁).name
  · exact ensures_columnConstraints_name reread d _

theorem ensures_columnConstraints_extends (reread : Bool) {d d' : Definition}
    {column : String × Option String} (h : Extends d column d') (s : Reading) :
    Ensures (do deepen; repeated (fun d => intoLast (columnConstraint reread d)) d') s
      fun d'' _ => Extends d column d'' := by
  refine .bind (ensures_deepen fun n => ?_)
  refine ensures_repeated (I := fun d'' _ => Extends d column d'') (fun d'' s hd'' => ?_) h
  refine ensures_intoLast ((ensures_columnConstraint reread d'' s).mono fun o _ ho n => ?_)
  cases o with
  | none => exact hd''
  | some d₁ => exact hd''.constrains ho

theorem ensures_nextColumn_name (reread : Bool) (c : Columns) (s : Reading) :
    Ensures (nextColumn reread c) s fun o _ => ∀ c', o = some c' →
      c'.definition.name = c.definition.name := by
  rw [nextColumn]
  refine .bind (.get (.seq fun t s => ?_))
  split
  · exact .pure fun c' hc' => absurd hc' (by simp)
  split
  · refine .seq fun _ s => .bind (ensures_asOne ?_)
    refine (ensures_tableConstraint reread c.definition s).mono fun o s ho n => ?_
    cases o with
    | none => exact ensures_unexpected
    | some d' => exact .pure fun c' hc' => Option.some.inj hc' ▸ (ho d' rfl).name
  · refine ensures_intoLast (.seq fun _ s => .bind ?_)
    refine (ensures_column_name reread c.definition s).mono fun d' s hd' => ?_
    exact .pure fun n c' hc' => Option.some.inj hc' ▸ hd'

/-- What stands between the parentheses does not change the name of a table. -/
theorem ensures_body_name (reread : Bool) (d : Definition) (s : Reading) :
    Ensures (body reread d) s fun p _ => p.1.name = d.name := by
  rw [body]
  refine .bind (ensures_asOne ((ensures_column_name reread d s).mono fun first s hfirst n => ?_))
  refine .bind ((ensures_repeated (I := fun (c : Columns) _ => c.definition.name = d.name)
    (fun c s hc => ?_) hfirst).mono ?_)
  · refine (ensures_nextColumn_name reread c s).mono fun o _ ho => ?_
    cases o with
    | none => exact hc
    | some c' => exact (ho c' rfl).trans hc
  · rintro ⟨d', rest⟩ s hd'
    cases rest with
    | none => exact .bind (.get (.pure hd'))
    | some rest =>
      exact .bind ((ensures_nextConstraints reread d' s).mono fun d'' _ hd'' =>
        .pure (hd''.name.trans hd'))

/-! ## No constraint -/

section Tokens

variable {tokens : List Token} {noted : Option Refusal} {n : Nat} {t : Token}

theorem isWord_of_symbol (ht : t.kind = .symbol) (word : String) : t.isWord word = false := by
  simp [Token.isWord, ht]

theorem ensures_columnConstraint_noted (reread : Bool) (d : Definition) {s : Reading}
    (hs : s.noted ≠ none) : Ensures (columnConstraint reread d) s fun o s' => o = none ∧ s' = s := by
  rw [columnConstraint]
  refine ensures_ifWord_noted hs (ensures_ifWord_noted hs (ensures_ifWord_noted hs
    (ensures_ifWord_noted hs (ensures_ifWord_noted hs (ensures_ifWord_noted hs
      (ensures_ifWord_noted hs (ensures_ifWord_noted hs ?_)))))))
  refine ensures_ifAt ?_ ?_
  · exact .bind (.bind (.map (ensures_expect_noted hs)))
  · exact ensures_ifWord_noted hs (ensures_ifWord_noted hs (ensures_ifWord_noted hs
      (.pure ⟨rfl, rfl⟩)))

/-- Once a column is refused, nothing more is read of it. -/
theorem ensures_columnConstraints_noted (reread : Bool) (d : Definition) {s : Reading}
    (hs : s.noted ≠ none) :
    Ensures (do deepen; repeated (fun d => intoLast (columnConstraint reread d)) d) s
      fun _ s' => s'.noted ≠ none := by
  refine .bind (ensures_deepen fun n => ?_)
  refine ensures_repeated (I := fun _ s => s.noted ≠ none) (fun d' s hs => ?_) hs
  refine ensures_intoLast ((ensures_columnConstraint_noted reread d' hs).mono ?_)
  rintro _ _ ⟨rfl, rfl⟩ n
  exact hs

/-- A column is put after those that are there, if it is not refused. -/
theorem ensures_column_extends (reread : Bool) (d : Definition) (s : Reading) :
    Ensures (column reread d) s fun d' s' =>
      s'.noted = none → ∃ column, Extends d column d' := by
  rw [column]
  refine .seq fun ⟨label, type⟩ s => .bind (ensures_orNote (fun d₁ hd₁ => ?_) fun refusal _ => ?_)
  · exact (ensures_columnConstraints_extends reread (extends_addColumn hd₁) s).mono
      fun _ _ h _ => ⟨_, h⟩
  · exact (ensures_columnConstraints_noted reread d (by simp)).mono fun _ _ h hnone =>
      absurd hnone h

theorem ensures_columnConstraint_symbol (reread : Bool) (d : Definition) (ht : t.kind = .symbol) :
    Ensures (columnConstraint reread d) ⟨t :: tokens, noted, n⟩ fun o s' =>
      o = none ∧ s' = ⟨t :: tokens, noted, n⟩ := by
  have hword := isWord_of_symbol ht
  rw [columnConstraint]
  refine ensures_ifWord_leave (hword _) (ensures_ifWord_leave (hword _)
    (ensures_ifWord_leave (hword _) (ensures_ifWord_leave (hword _) (ensures_ifWord_leave (hword _)
      (ensures_ifWord_leave (hword _) (ensures_ifWord_leave (hword _)
        (ensures_ifWord_leave (hword _) ?_)))))))
  refine ensures_ifAt_leave (by simp [hword]) ?_
  exact ensures_ifWord_leave (hword _) (ensures_ifWord_leave (hword _)
    (ensures_ifWord_leave (hword _) (.pure ⟨rfl, rfl⟩)))

theorem ensures_conflict_symbol (ht : t.kind = .symbol) :
    Ensures conflict ⟨t :: tokens, noted, n⟩ fun o s' => o = none ∧ s' = ⟨t :: tokens, noted, n⟩ := by
  rw [conflict]
  refine .bind (ensures_takeWord ?_ fun _ => .pure ⟨rfl, rfl⟩)
  exact fun h => absurd h (by simp [isWord_of_symbol ht])

/-- The words that reject null are one constraint. -/
theorem ensures_columnConstraint_notNull (reread : Bool) (d : Definition) {before before' : List Char}
    (ht : t.kind = .symbol) :
    Ensures (columnConstraint reread d)
      ⟨Token.word before ['N', 'O', 'T'] :: Token.word before' ['N', 'U', 'L', 'L'] :: t :: tokens,
        noted, n⟩
      fun o s' => o.isSome ∧ ∃ n, s' = ⟨t :: tokens, none, n⟩ := by
  rw [columnConstraint]
  refine ensures_ifWord_leave rfl (ensures_ifWord_leave rfl (ensures_ifWord_leave rfl
    (ensures_ifWord_take rfl fun _ n => ensures_ifAt_leave rfl ?_)))
  refine .bind (ensures_expectWord fun _ n => .bind ((ensures_conflict_symbol ht).mono ?_))
  rintro _ _ ⟨rfl, rfl⟩
  exact .pure ⟨rfl, n, rfl⟩

/-! ## Columns of a migration -/

/-- The type of a column is read up to a word or a symbol that no type has. -/
theorem ensures_typeTokens {type : Token} (htype : type.isTypePart = true)
    (ht : t.isTypePart = false) (hsymbol : t.isSymbol "(" = false) :
    Ensures typeTokens ⟨type :: t :: tokens, noted, n⟩ fun ts s' =>
      ts = [type] ∧ s'.tokens = t :: tokens ∧ s'.noted = none := by
  rw [typeTokens]
  refine ensures_asOne (.bind (ensures_spanned (.bind (ensures_asOne
    (ensures_take htype fun _ n n' => .bind (.seqRight ?_))))))
  refine ensures_repeated_none (ensures_intoLast (ensures_leave ht fun n => ⟨rfl, ?_⟩))
  refine .pure (ensures_ifSymbol_leave hsymbol (.pure (.pure fun n => ⟨?_, rfl, rfl⟩)))
  simp

theorem typeText?_sourceOf {type : String} (htype : type ∈ sqliteTypes) {before : List Char} :
    typeText? (Token.sourceOf [Token.word before type.toList]) = some type := by
  have hsource : Token.sourceOf [Token.word before type.toList] = type.toList :=
    List.append_nil _
  rw [hsource]
  simpa using forall_mem_sqliteTypes (p := fun type => typeText? type.toList == some type)
    (by decide +kernel) htype

theorem isTypePart_word {type : String} (htype : type ∈ sqliteTypes) {before : List Char} :
    (Token.word before type.toList).isTypePart = true :=
  forall_mem_sqliteTypes (p := fun type => (Token.word [] type.toList).isTypePart)
    (by decide +kernel) htype

def readAs (c : ColumnSpec) : String × Option String :=
  (Dialect.sqlite.readBack c.name, some c.type)

theorem ensures_columnHead {c : ColumnSpec} (hc : c.type ∈ sqliteTypes) {before before' : List Char}
    (ht : t.isTypePart = false) (hsymbol : t.isSymbol "(" = false) :
    Ensures (asOne do return (← nameToken, ← typeTokens))
      ⟨Token.named before c.name :: Token.word before' c.type.toList :: t :: tokens, noted, n⟩
      fun head s' => head.1.value = Dialect.sqlite.readBack c.name ∧
        typeText? (Token.sourceOf head.2) = some c.type ∧ head.2.isEmpty = false ∧
        s'.tokens = t :: tokens ∧ s'.noted = none := by
  refine ensures_asOne (.bind (ensures_expect fun _ n => .bind ?_))
  refine (ensures_typeTokens (isTypePart_word hc) ht hsymbol).mono ?_
  rintro ts s' ⟨rfl, htokens, hnoted⟩
  exact .pure fun n => ⟨Token.value_named, typeText?_sourceOf hc, rfl, htokens, hnoted⟩

theorem ensures_columnAfterHead {c : ColumnSpec} (hc : c.type ∈ sqliteTypes) (reread : Bool)
    (d : Definition) {before before' : List Char} (ht : t.isTypePart = false)
    (hsymbol : t.isSymbol "(" = false) :
    Ensures (column reread d)
      ⟨Token.named before c.name :: Token.word before' c.type.toList :: t :: tokens, noted, n⟩
      fun d' s' => s'.noted = none → Extends d (readAs c) d' := by
  rw [column]
  refine .bind ((ensures_columnHead hc ht hsymbol).mono ?_)
  rintro ⟨label, type⟩ s ⟨hname, htype, hempty, -, -⟩
  dsimp only at hname htype hempty ⊢
  rw [hname, htype, hempty, if_neg (by simp)]
  refine .bind (ensures_orNote (fun d₁ hd₁ => ?_) fun refusal _ => ?_)
  · exact (ensures_columnConstraints_extends reread (extends_addColumn hd₁) _).mono fun _ _ h _ => h
  · exact (ensures_columnConstraints_noted reread d (by simp)).mono fun _ _ h hnone =>
      absurd hnone h

theorem ensures_column {c : ColumnSpec} (hc : c.type ∈ sqliteTypes) (reread : Bool) (d : Definition)
    {before : List Char} (ht : t.isTypePart = false) (hsymbol : t.isSymbol "(" = false) :
    Ensures (column reread d) ⟨Statement.columnTokens before c ++ t :: tokens, noted, n⟩
      fun d' s' => s'.noted = none → Extends d (readAs c) d' := by
  rw [Statement.columnTokens]
  cases c.notNull with
  | false => exact ensures_columnAfterHead hc reread d ht hsymbol
  | true => exact ensures_columnAfterHead hc reread d rfl rfl

/-- The constraints of a column are read up to the symbol that follows them. -/
theorem ensures_columnConstraints_tokens (rejectsNull reread : Bool) (d : Definition)
    (ht : t.kind = .symbol) {s : Reading}
    (hs : s.tokens = (if rejectsNull then
      [Token.word [' '] ['N', 'O', 'T'], Token.word [' '] ['N', 'U', 'L', 'L']] else []) ++
        t :: tokens) :
    Ensures (do deepen; repeated (fun d => intoLast (columnConstraint reread d)) d) s
      fun _ s' => s'.tokens = t :: tokens := by
  obtain ⟨tokens', noted, n⟩ := s
  obtain rfl := hs
  -- a symbol starts no constraint, so that the last one has been read
  have hlast : ∀ {noted n} d, Ensures (intoLast (columnConstraint reread d)) ⟨t :: tokens, noted, n⟩
      fun o s' => o = none ∧ s'.tokens = t :: tokens := by
    refine fun d => ensures_intoLast ((ensures_columnConstraint_symbol reread d ht).mono ?_)
    rintro _ _ ⟨rfl, rfl⟩ n
    exact ⟨rfl, rfl⟩
  refine .bind (ensures_deepen fun n => ?_)
  cases rejectsNull with
  | false => exact ensures_repeated_none (hlast d)
  | true =>
    refine .bind (.map (.get (ensures_repeatWithin_succ (ensures_intoLast
      ((ensures_columnConstraint_notNull reread d ht).mono ?_)))))
    rintro (_ | d') _ ⟨hsome, n, rfl⟩ n'
    · exact absurd hsome (by simp)
    · refine ensures_repeatWithin_succ ((hlast d').mono ?_)
      rintro _ s' ⟨rfl, hs'⟩
      exact hs'

theorem ensures_column_tokens {c : ColumnSpec} (hc : c.type ∈ sqliteTypes) (reread : Bool)
    (d : Definition) {before : List Char} (ht : t.kind = .symbol)
    (hsymbol : t.isSymbol "(" = false) :
    Ensures (column reread d) ⟨Statement.columnTokens before c ++ t :: tokens, noted, n⟩
      fun _ s' => s'.tokens = t :: tokens := by
  -- the type ends before the word that rejects nulls, or before what follows the column
  obtain ⟨t', tokens', htail, ht', hsymbol'⟩ : ∃ t' tokens', (if c.notNull then
      [Token.word [' '] ['N', 'O', 'T'], Token.word [' '] ['N', 'U', 'L', 'L']] else []) ++
        t :: tokens = t' :: tokens' ∧ t'.isTypePart = false ∧ t'.isSymbol "(" = false := by
    cases c.notNull with
    | false => exact ⟨t, tokens, rfl, by simp [Token.isTypePart, Token.isPlainWord, ht], hsymbol⟩
    | true => exact ⟨_, _, rfl, rfl, rfl⟩
  rw [Statement.columnTokens, List.append_assoc, htail, column]
  refine .bind ((ensures_columnHead hc ht' hsymbol').mono ?_)
  rintro ⟨label, type⟩ s ⟨-, -, -, htokens, -⟩
  have hrest : ∀ d s', s'.tokens = s.tokens →
      Ensures (do deepen; repeated (fun d => intoLast (columnConstraint reread d)) d) s'
        fun _ s' => s'.tokens = t :: tokens := fun d s' hs' =>
    ensures_columnConstraints_tokens c.notNull reread d ht (hs'.trans (htokens.trans htail.symm))
  exact .bind (ensures_orNote (fun d' _ => hrest d' s rfl) fun refusal _ => hrest d _ rfl)

/-! ## The columns of a table -/

/-- Whether the name of a column is taken for a word that starts a constraint. -/
def startsConstraint (c : ColumnSpec) : Bool := constraintWords.any (Token.named [] c.name).isWord

theorem isWord_named_congr (before before' : List Char) (name word : String) :
    (Token.named before name).isWord word = (Token.named before' name).isWord word := by
  rw [Token.named, Token.named]
  split <;> rfl

theorem startsConstraint_of_keepsName {c : ColumnSpec} (h : Dialect.sqlite.KeepsName c.name) :
    startsConstraint c = false := by
  refine List.any_eq_false.2 fun word hword => ?_
  have hreserved : word ∈ Dialect.sqlite.reserved := by
    simpa using List.all_eq_true.1
      (by decide : (constraintWords.all fun word => Dialect.sqlite.reserved.contains word) = true)
      word hword
  simp [Token.isWord_named h hreserved]

/-- The columns of a table go on after a comma. -/
theorem ensures_nextColumn {c : ColumnSpec} (hc : c.type ∈ sqliteTypes) (reread : Bool)
    (d : Definition) {before before' : List Char} (hstarts : startsConstraint c = false)
    (ht : t.kind = .symbol) (hsymbol : t.isSymbol "(" = false) :
    Ensures (nextColumn reread ⟨d, none⟩)
      ⟨Token.symbol before ',' :: (Statement.columnTokens before' c ++ t :: tokens), noted, n⟩
      fun o s' => noted = none ∧ ∃ d', o = some ⟨d', none⟩ ∧ s'.tokens = t :: tokens ∧
        (s'.noted = none → Extends d (readAs c) d') := by
  have htype : t.isTypePart = false := by simp [Token.isTypePart, Token.isPlainWord, ht]
  have hword : constraintWords.any (Token.named before' c.name).isWord = false := by
    rwa [startsConstraint, funext (isWord_named_congr [] before' c.name)] at hstarts
  rw [nextColumn]
  refine .bind (.get (.bind (ensures_peek ?_)))
  rw [if_neg (by simp [Token.isSymbol, Token.symbol]), if_neg ?_]
  · refine ensures_intoLast (.bind (ensures_skip fun hnone n => .bind ?_))
    refine ((ensures_column hc reread d htype hsymbol).and
      (ensures_column_tokens hc reread d ht hsymbol)).mono ?_
    rintro d' s' ⟨hd', htokens⟩
    exact .pure fun n => ⟨hnone, d', rfl, htokens, hd'⟩
  · simp [Statement.columnTokens, hword]

/-- The columns end at the first constraint of the table. -/
theorem ensures_nextColumn_constraint (reread : Bool) (d : Definition) {before : List Char}
    (ht : constraintWords.any t.isWord = true) :
    Ensures (nextColumn reread ⟨d, none⟩) ⟨Token.symbol before ',' :: t :: tokens, noted, n⟩
      fun o _ => noted = none ∧ ∃ d' rest, o = some ⟨d', some rest⟩ ∧ SameColumns d d' := by
  rw [nextColumn]
  refine .bind (.get (.bind (ensures_peek ?_)))
  rw [if_neg (by simp [Token.isSymbol, Token.symbol]), if_pos ?_]
  · refine .bind (ensures_skip fun hnone n => .bind (ensures_asOne ?_))
    refine (ensures_tableConstraint reread d _).mono fun o s ho n => ?_
    cases o with
    | none => exact ensures_unexpected
    | some d' => exact .pure ⟨hnone, d', _, rfl, ho d' rfl⟩
  · simpa using ht

theorem ensures_nextColumn_done (reread : Bool) (d : Definition) (rest : List Token) (s : Reading) :
    Ensures (nextColumn reread ⟨d, some rest⟩) s fun o _ => o = none := by
  rw [nextColumn]
  exact .bind (.get (.seq fun _ _ => .pure rfl))

/-- The tokens that end the columns of a table. -/
def columnsEnd (tokens : List Token) : List Token :=
  Token.symbol [] ',' ::
    Token.word [' ', '\n', '\t'] ['P', 'R', 'I', 'M', 'A', 'R', 'Y'] :: tokens

/-- The columns that are read of a table: those before the first that is taken for a constraint. -/
def declaredBy (cs : List ColumnSpec) : List (String × Option String) :=
  (cs.takeWhile fun c => !startsConstraint c).map readAs

theorem declaredBy_cons {c : ColumnSpec} (hc : startsConstraint c = false) (cs : List ColumnSpec) :
    declaredBy (c :: cs) = readAs c :: declaredBy cs := by
  rw [declaredBy, List.takeWhile_cons_of_pos (by simp [hc]), List.map_cons, declaredBy]

theorem declaredBy_cons_of_startsConstraint {c : ColumnSpec} (hc : startsConstraint c = true)
    (cs : List ColumnSpec) : declaredBy (c :: cs) = [] := by
  rw [declaredBy, List.takeWhile_cons_of_neg (by simp [hc]), List.map_nil]

theorem readAs_of_keepsName {c : ColumnSpec} (h : Dialect.sqlite.KeepsName c.name) :
    readAs c = (c.name, some c.type) := by
  rw [readAs, Dialect.readBack_of_keepsName h]

/-- All columns are read as they are written if their names are kept. -/
theorem declaredBy_of_keepsName {cs : List ColumnSpec}
    (h : ∀ c ∈ cs, Dialect.sqlite.KeepsName c.name) :
    declaredBy cs = cs.map fun c => (c.name, some c.type) := by
  have hall : (cs.takeWhile fun c => !startsConstraint c) = cs :=
    List.takeWhile_eq_self_iff.2 fun c hc => by simp [startsConstraint_of_keepsName (h c hc)]
  rw [declaredBy, hall]
  exact List.map_congr_left fun c hc => readAs_of_keepsName (h c hc)

theorem keepsName_of_mem_declaredBy {cs : List ColumnSpec} {column : String × Option String}
    (h : column ∈ declaredBy cs) : Dialect.sqlite.KeepsName column.1 := by
  obtain ⟨c, -, rfl⟩ := List.mem_map.1 h
  exact Dialect.keepsName_readBack ..

theorem exists_laterColumnTokens (cs : List ColumnSpec) (tokens : List Token) :
    ∃ tokens', Statement.laterColumnTokens cs ++ columnsEnd tokens =
      Token.symbol [] ',' :: tokens' := by
  cases cs with
  | nil => exact ⟨_, rfl⟩
  | cons c cs => exact ⟨_, rfl⟩

theorem length_le_laterColumnTokens (cs : List ColumnSpec) :
    cs.length ≤ (Statement.laterColumnTokens cs).length := by
  induction cs with
  | nil => exact Nat.le_refl 0
  | cons c cs ih =>
    rw [Statement.laterColumnTokens, List.flatMap_cons, List.length_append,
      ← Statement.laterColumnTokens]
    simp only [List.length_cons]
    omega

/-- The columns are gathered in order, up to the first constraint. -/
theorem ensures_columns_constraint (reread : Bool) {name : String}
    {before : List (String × Option String)} {d : Definition} {bound : Nat} (hbound : 0 < bound)
    {before' : List Char} (ht : constraintWords.any t.isWord = true)
    (hd : noted = none → d.name = name ∧ d.declared = before) :
    Ensures (repeatWithin (nextColumn reread) bound ⟨d, none⟩)
      ⟨Token.symbol before' ',' :: t :: tokens, noted, n⟩ fun c _ =>
        c.definition.name = name ∧ c.definition.declared = before := by
  obtain ⟨bound, rfl⟩ := Nat.exists_eq_add_of_lt hbound
  refine ensures_repeatWithin_succ ((ensures_nextColumn_constraint reread d ht).mono ?_)
  rintro _ s ⟨hnone, d', rest, rfl, hd'⟩
  obtain ⟨hname, hdeclared⟩ := hd hnone
  have hgood : d'.name = name ∧ d'.declared = before :=
    ⟨hd'.name.trans hname, hd'.declared.trans hdeclared⟩
  -- nothing is read after the first constraint
  refine (ensures_repeatWithin (I := fun c _ => c = ⟨d', some rest⟩) ?_ _ rfl).mono
    fun c _ hc => hc ▸ hgood
  rintro _ s rfl
  refine (ensures_nextColumn_done reread d' rest s).mono fun o _ ho => ?_
  rw [ho]

/-- All later columns are gathered in order. -/
theorem ensures_columns (reread : Bool) {cs : List ColumnSpec} (hcs : ∀ c ∈ cs, c.type ∈ sqliteTypes)
    {name : String} {before : List (String × Option String)} {d : Definition} {bound : Nat}
    (hbound : cs.length < bound) {s : Reading}
    (hs : s.tokens = Statement.laterColumnTokens cs ++ columnsEnd tokens)
    (hd : s.noted = none → d.name = name ∧ d.declared = before) :
    Ensures (repeatWithin (nextColumn reread) bound ⟨d, none⟩) s fun c _ =>
      c.definition.name = name ∧ c.definition.declared = before ++ declaredBy cs := by
  have hpos : 0 < bound := Nat.zero_lt_of_lt hbound
  -- by induction on the columns to come: what was read so far has the columns before them, and the
  -- repetitions that are left outnumber them
  induction cs generalizing before d bound s with
  | nil =>
    obtain ⟨tokens', noted, n⟩ := s
    obtain rfl := hs
    rw [show declaredBy [] = [] from rfl, List.append_nil]
    exact ensures_columns_constraint reread hpos rfl hd
  | cons c cs ih =>
    obtain ⟨tokens', noted, n⟩ := s
    obtain rfl := hs
    obtain ⟨hc, hcs⟩ := List.forall_mem_cons.1 hcs
    obtain ⟨more, hmore⟩ := exists_laterColumnTokens cs tokens
    have htokens : Statement.laterColumnTokens (c :: cs) ++ columnsEnd tokens =
        Token.symbol [] ',' :: (Statement.columnTokens [' ', '\n', '\t'] c ++
          Token.symbol [] ',' :: more) := by
      rw [← hmore, Statement.laterColumnTokens, List.flatMap_cons, List.append_assoc,
        List.cons_append, ← Statement.laterColumnTokens]
    rw [htokens]
    cases hstarts : startsConstraint c with
    | true =>
      -- a name that is taken for the start of a constraint ends the columns
      rw [declaredBy_cons_of_startsConstraint hstarts, List.append_nil]
      rw [startsConstraint, funext (isWord_named_congr [] [' ', '\n', '\t'] c.name)] at hstarts
      exact ensures_columns_constraint reread hpos hstarts hd
    | false =>
      obtain ⟨bound, rfl⟩ := Nat.exists_eq_add_of_lt hbound
      refine ensures_repeatWithin_succ ((ensures_nextColumn hc reread d hstarts rfl rfl).mono ?_)
      rintro _ s ⟨hnone, d', rfl, hs, hd'⟩
      obtain ⟨hname, hdeclared⟩ := hd hnone
      have hbound' : cs.length < (c :: cs).length + bound := by simp; omega
      have hgood : s.noted = none →
          d'.name = name ∧ d'.declared = before ++ [readAs c] := fun hnone' =>
        ⟨(hd' hnone').name.trans hname, by rw [(hd' hnone').declared, hdeclared]⟩
      refine (ih hcs hbound' (hs.trans hmore.symm) hgood (Nat.zero_lt_of_lt hbound')).mono
        fun c' _ hc' => ⟨hc'.1, ?_⟩
      rw [hc'.2, declaredBy_cons hstarts, List.append_assoc, List.singleton_append]

/-- The columns of a table that a migration creates. -/
theorem ensures_body {c : ColumnSpec} (hc : c.type ∈ sqliteTypes) {cs : List ColumnSpec}
    (hcs : ∀ c ∈ cs, c.type ∈ sqliteTypes) (reread : Bool) (name : String) {before : List Char} :
    Ensures (body reread (.start name))
      ⟨Statement.columnTokens before c ++ (Statement.laterColumnTokens cs ++ columnsEnd tokens),
        noted, n⟩
      fun p _ => p.1.name = name ∧ p.1.declared = readAs c :: declaredBy cs := by
  obtain ⟨more, hmore⟩ := exists_laterColumnTokens cs tokens
  rw [body, hmore]
  refine .bind (ensures_asOne (((ensures_column hc reread _ rfl rfl).and
    (ensures_column_tokens hc reread _ rfl rfl)).mono ?_))
  rintro d s ⟨hd, hs⟩ n
  have htokens : s.tokens = Statement.laterColumnTokens cs ++ columnsEnd tokens :=
    hs.trans hmore.symm
  have hbound : cs.length < s.tokens.length + 1 := by
    have hlength := length_le_laterColumnTokens cs
    rw [htokens, List.length_append]
    omega
  have hfirst : s.noted = none → d.name = name ∧ d.declared = [readAs c] :=
    fun hnone => ⟨(hd hnone).name, (hd hnone).declared⟩
  refine .bind (.bind (.map (.get ?_)))
  refine (ensures_columns reread hcs hbound (s := { s with depth := n }) htokens hfirst).mono ?_
  rintro ⟨d', rest⟩ s' ⟨hname, hdeclared⟩
  cases rest with
  | none => exact .bind (.get (.pure ⟨hname, hdeclared⟩))
  | some rest =>
    exact .bind ((ensures_nextConstraints reread d' s').mono fun d'' _ hd'' =>
      .pure ⟨hd''.name.trans hname, hd''.declared.trans hdeclared⟩)

end Tokens

end Accrete.Definition
