import Accrete.Database.Reader
import Accrete.Proofs.Database.Naming
import Accrete.Proofs.Logged
import Accrete.Statement.Sql

/-!
# Tokens of statements

The tokens that SQLite reads at the start of the statements of a migration.

* `Statement.columnTokens`            -- the tokens of a column
* `Statement.scan_sent_createTable`   -- those of a statement that creates a table
* `Statement.scan_sent_addColumn`     -- those of a statement that adds a column
-/

namespace Accrete

/-- The types that operations give to columns in SQLite. -/
def sqliteTypes : List String := ["text", "integer", "bigint", "date"]

theorem forall_mem_sqliteTypes {p : String → Bool} (h : sqliteTypes.all p = true) {type : String}
    (htype : type ∈ sqliteTypes) : p type = true := List.all_eq_true.1 h type htype

namespace Statement

open Token

/-- The blanks between a name and what follows it. -/
def blanksAfter (name : String) : List Char := Dialect.sqlite.overlooked name ++ [' ']

/-- The tokens of a column. -/
def columnTokens (before : List Char) (c : ColumnSpec) : List Token :=
  [named before c.name, word (blanksAfter c.name) c.type.toList] ++
    if c.notNull then [word [' '] ['N', 'O', 'T'], word [' '] ['N', 'U', 'L', 'L']] else []

theorem render_named (before rest : List Char) (name : String) :
    (named before name).text ++ (blanksAfter name ++ rest) =
      (Dialect.sqlite.identifier name).toList ++ ' ' :: rest := by
  rw [blanksAfter, List.append_assoc, ← List.append_assoc, text_named_append,
    List.singleton_append]

theorem render_columnTokens (before : List Char) (c : ColumnSpec) :
    render (columnTokens before c) = before ++ (columnText .sqlite c).toList := by
  rw [columnTokens, columnText]
  by_cases h : c.notNull = true <;>
    simp [h, before_named, render_named, word]

theorem isBlankRun_space : IsBlankRun [' '] := by
  refine ⟨?_, ?_⟩ <;> simp <;> decide

theorem isBlankRun_blanksAfter (name : String) : IsBlankRun (blanksAfter name) := by
  rw [blanksAfter, Dialect.overlooked]
  split
  · exact isBlankRun_space
  · refine ⟨?_, ?_⟩ <;> simp <;> decide

/-- A name is read as one token where the blanks after it follow. -/
theorem stands_named_cons {before : List Char} (hbefore : IsBlankRun before) {name : String}
    {t : Token} (ht : t.before = blanksAfter name) (ts : List Token) (rest : List Char) :
    (named before name).Stands (render (t :: ts) ++ rest) := by
  refine stands_named hbefore ?_
  rw [render_cons, ht, blanksAfter, Dialect.overlooked]
  split <;> exact breaks_cons (by decide)

theorem isBlankRun_item : IsBlankRun [' ', '\n', '\t'] := by
  refine ⟨?_, ?_⟩ <;> simp <;> decide

theorem breaks_space {rest : List Char} : Breaks (' ' :: rest) := breaks_cons (by decide)

theorem standIn_columnTokens {before : List Char} (hbefore : IsBlankRun before) {c : ColumnSpec}
    (h : c.type ∈ sqliteTypes) {rest : List Char} (hrest : Breaks rest) :
    StandIn (columnTokens before c) rest := by
  have htype : isOneWord c.type.toList = true :=
    forall_mem_sqliteTypes (p := fun type => isOneWord type.toList) (by decide) h
  rw [columnTokens]
  cases c.notNull with
  | false =>
    exact ⟨stands_named_cons hbefore rfl _ _,
      stands_word (isBlankRun_blanksAfter _) htype (by simpa using hrest), True.intro⟩
  | true =>
    exact ⟨stands_named_cons hbefore rfl _ _,
      stands_word (isBlankRun_blanksAfter _) htype breaks_space,
      stands_word isBlankRun_space (by decide) breaks_space,
      stands_word isBlankRun_space (by decide) (by simpa using hrest), True.intro⟩

/-! ## Statements that create tables -/

/-- The tokens of further columns, each after a comma. -/
def laterColumnTokens (cs : List ColumnSpec) : List Token :=
  cs.flatMap fun c => symbol [] ',' :: columnTokens [' ', '\n', '\t'] c

/-- The tokens at the start of a statement that creates a table, up to the first word of its
    primary key. -/
def createTableTokens (table : String) (c : ColumnSpec) (cs : List ColumnSpec) : List Token :=
  [word ['\n'] ['C', 'R', 'E', 'A', 'T', 'E'], word [' '] ['T', 'A', 'B', 'L', 'E'],
    named [' '] table, symbol (blanksAfter table) '('] ++
    (columnTokens ['\n', '\t'] c ++ (laterColumnTokens cs ++
      [symbol [] ',', word [' ', '\n', '\t'] ['P', 'R', 'I', 'M', 'A', 'R', 'Y']]))

theorem standIn_laterColumnTokens {cs : List ColumnSpec} (h : ∀ c ∈ cs, c.type ∈ sqliteTypes)
    {rest : List Char} (hrest : Breaks rest) : StandIn (laterColumnTokens cs) rest := by
  induction cs with
  | nil => exact True.intro
  | cons c cs ih =>
    obtain ⟨hc, hcs⟩ := List.forall_mem_cons.1 h
    have hbreaks : Breaks (render (laterColumnTokens cs) ++ rest) := by
      cases cs with
      | nil => exact hrest
      | cons c cs => exact breaks_cons (by decide)
    refine ⟨stands_symbol isBlankRun_nil (by simp), standIn_append.2 ⟨?_, ih hcs⟩⟩
    exact standIn_columnTokens isBlankRun_item hc hbreaks

theorem render_laterColumnTokens (cs : List ColumnSpec) :
    render (laterColumnTokens cs) =
      cs.flatMap fun c => itemSeparator.toList ++ (columnText .sqlite c).toList := by
  induction cs with
  | nil => rfl
  | cons c cs ih =>
    rw [laterColumnTokens, List.flatMap_cons, render_append, render_cons, render_columnTokens,
      ← laterColumnTokens, ih, List.flatMap_cons]
    simp [symbol, itemSeparator]

theorem toList_intercalate_columns (c : ColumnSpec) (cs : List ColumnSpec) (last : String) :
    (itemSeparator.intercalate ((c :: cs).map (columnText .sqlite) ++ [last])).toList =
      (columnText .sqlite c).toList ++ render (laterColumnTokens cs) ++
        itemSeparator.toList ++ last.toList := by
  rw [render_laterColumnTokens]
  induction cs generalizing c with
  | nil => simp
  | cons d cs ih =>
    rw [List.map_cons, List.cons_append, String.intercalate_cons_of_ne_nil (by simp),
      String.toList_append, String.toList_append, ih, List.flatMap_cons]
    simp

theorem standIn_createTableTokens (table : String) {c : ColumnSpec} {cs : List ColumnSpec}
    (hc : c.type ∈ sqliteTypes) (hcs : ∀ c ∈ cs, c.type ∈ sqliteTypes) {rest : List Char} :
    StandIn (createTableTokens table c cs) (' ' :: rest) := by
  refine standIn_append.2 ⟨?_, standIn_append.2 ⟨?_, standIn_append.2 ⟨?_, ?_⟩⟩⟩
  · exact ⟨stands_word ⟨by simp; decide, by simp; decide⟩ (by decide) breaks_space,
      stands_word isBlankRun_space (by decide) (by
        rw [render_cons, before_named]
        exact breaks_space),
      stands_named_cons isBlankRun_space rfl _ _,
      stands_symbol (isBlankRun_blanksAfter table) (by simp), True.intro⟩
  · refine standIn_columnTokens ⟨by simp; decide, by simp; decide⟩ hc ?_
    rw [render_append]
    cases cs with
    | nil => exact breaks_cons (by decide)
    | cons c cs => exact breaks_cons (by decide)
  · exact standIn_laterColumnTokens hcs (breaks_cons (by decide))
  · exact ⟨stands_symbol isBlankRun_nil (by simp),
      stands_word isBlankRun_item (by decide) breaks_space, True.intro⟩

/-- The text of a statement that creates a table begins with its tokens. -/
theorem toList_sent_createTable {table : String} {c : ColumnSpec} {cs : List ColumnSpec}
    {key : List String} {others : List Constraint} {text : String}
    (h : (createTable table (c :: cs) (.primaryKey key :: others)).sent .sqlite = .ok text) :
    ∃ rest, text.toList = render (createTableTokens table c cs) ++ ' ' :: rest := by
  obtain ⟨written, hwritten, htext⟩ := Except.bind_eq_ok.1 h
  obtain ⟨w, ws, hw, -, rfl⟩ := List.forall₂_cons_left_iff.1 (Except.mapM_eq_ok.1 hwritten)
  obtain rfl := Except.ok.inj hw
  -- all constraints together are one text, which begins with the first word of the key
  obtain ⟨last, hlast⟩ : ∃ last, itemSeparator.intercalate (("PRIMARY KEY (" ++
      Dialect.sqlite.identifiers key ++ ")") :: ws) = "PRIMARY" ++ (" " ++ last) := by
    refine ⟨"KEY (" ++ itemSeparator.intercalate ((Dialect.sqlite.identifiers key ++ ")") :: ws), ?_⟩
    rw [String.append_assoc, String.intercalate_cons_append, ← String.append_assoc,
      ← String.append_assoc, show "PRIMARY KEY (" = "PRIMARY" ++ " " ++ "KEY (" from rfl]
  have hempty : ("PRIMARY" ++ (" " ++ last)).isEmpty = false := by
    simp [String.isEmpty_eq_false_iff]
  simp only [hlast, hempty, Bool.false_eq_true, if_false] at htext
  obtain rfl := Except.ok.inj htext
  refine ⟨last.toList ++ "\n)\n\n".toList, ?_⟩
  rw [if_neg (by simp)]
  simp only [String.toList_append, toList_intercalate_columns, createTableTokens]
  simp [render_columnTokens, render_named, before_named, word, symbol, itemSeparator]

theorem scan_sent_createTable {table : String} {c : ColumnSpec} {cs : List ColumnSpec}
    {key : List String} {others : List Constraint} {text : String}
    (hc : c.type ∈ sqliteTypes) (hcs : ∀ c ∈ cs, c.type ∈ sqliteTypes)
    (h : (createTable table (c :: cs) (.primaryKey key :: others)).sent .sqlite = .ok text) :
    ∃ more, scan text = createTableTokens table c cs ++ more := by
  obtain ⟨rest, htext⟩ := toList_sent_createTable h
  obtain ⟨bound, -, hscan⟩ := scan_render (standIn_createTableTokens table hc hcs) htext
  exact ⟨_, hscan⟩

/-! ## Statements that add columns -/

/-- The tokens at the start of a statement that adds a column. -/
def addColumnTokens (table : String) (c : ColumnSpec) : List Token :=
  [word [] ['A', 'L', 'T', 'E', 'R'], word [' '] ['T', 'A', 'B', 'L', 'E'], named [' '] table,
    word (blanksAfter table) ['A', 'D', 'D'], word [' '] ['C', 'O', 'L', 'U', 'M', 'N']] ++
      columnTokens [' '] c

theorem render_addColumnTokens (table : String) (c : ColumnSpec) :
    render (addColumnTokens table c) = ("ALTER TABLE " ++ Dialect.sqlite.identifier table ++
      addWords .sqlite ++ columnText .sqlite c).toList := by
  simp [addColumnTokens, addWords, render_columnTokens, render_named, before_named, word]

theorem standIn_addColumnTokens (table : String) {c : ColumnSpec} (hc : c.type ∈ sqliteTypes)
    {rest : List Char} (hrest : Breaks rest) : StandIn (addColumnTokens table c) rest := by
  refine standIn_append.2 ⟨?_, standIn_columnTokens isBlankRun_space hc hrest⟩
  exact ⟨stands_word isBlankRun_nil (by decide) breaks_space,
    stands_word isBlankRun_space (by decide) (by
      rw [render_cons, before_named]
      exact breaks_space),
    stands_named_cons isBlankRun_space rfl _ _,
    stands_word (isBlankRun_blanksAfter table) (by decide) breaks_space,
    stands_word isBlankRun_space (by decide) (by
      rw [render_nil, List.nil_append, render_columnTokens]
      exact breaks_space), True.intro⟩

/-- What follows the definition of an added column: a reference, or the end of the text. -/
def addColumnEnd : Option InlineReference → Token
  | none => finish
  | some _ => word [' '] ['R', 'E', 'F', 'E', 'R', 'E', 'N', 'C', 'E', 'S']

theorem inlineText_some {d : Dialect} {r : InlineReference} {text : String}
    (h : inlineText d (some r) = .ok text) : ∃ rest, text = " REFERENCES" ++ (" " ++ rest) := by
  obtain ⟨target, -, h⟩ := Except.bind_eq_ok.1 h
  obtain ⟨column, -, h⟩ := Except.bind_eq_ok.1 h
  obtain rfl := Except.ok.inj h
  exact ⟨_, by simp only [String.append_assoc]; rfl⟩

theorem toList_sent_addColumn {table : String} {c : ColumnSpec}
    {references : Option InlineReference} {text : String}
    (h : (addColumn table c false references).sent .sqlite = .ok text) :
    ∃ reference, inlineText .sqlite references = .ok reference ∧
      text.toList = render (addColumnTokens table c) ++ reference.toList := by
  obtain ⟨reference, hreference, htext⟩ := Except.bind_eq_ok.1 h
  obtain rfl := Except.ok.inj htext
  refine ⟨reference, hreference, ?_⟩
  rw [render_addColumnTokens]
  simp

theorem scan_sent_addColumn {table : String} {c : ColumnSpec}
    {references : Option InlineReference} {text : String} (hc : c.type ∈ sqliteTypes)
    (h : (addColumn table c false references).sent .sqlite = .ok text) :
    ∃ more, scan text = addColumnTokens table c ++ addColumnEnd references :: more := by
  obtain ⟨reference, hreference, htext⟩ := toList_sent_addColumn h
  cases references with
  | none =>
    obtain rfl := Except.ok.inj hreference
    have hbreaks : Breaks [] := fun c hc => absurd hc (by simp)
    obtain ⟨bound, hbound, hscan⟩ := scan_render (standIn_addColumnTokens table hc hbreaks) htext
    obtain ⟨bound, rfl⟩ := Nat.exists_eq_add_of_lt hbound
    exact ⟨[], hscan⟩
  | some r =>
    obtain ⟨rest, rfl⟩ := inlineText_some hreference
    -- only the first word of a reference is needed, since it ends the column
    have htext : text.toList =
        render (addColumnTokens table c ++ [addColumnEnd (some r)]) ++ ' ' :: rest.toList := by
      rw [htext, render_append]
      simp [addColumnEnd, word]
    have hstand : StandIn (addColumnTokens table c ++ [addColumnEnd (some r)])
        (' ' :: rest.toList) :=
      standIn_append.2 ⟨standIn_addColumnTokens table hc breaks_space,
        stands_word isBlankRun_space (by decide) breaks_space, True.intro⟩
    obtain ⟨bound, -, hscan⟩ := scan_render hstand htext
    exact ⟨_, by rw [hscan, List.append_assoc, List.singleton_append]⟩

end Statement

end Accrete
