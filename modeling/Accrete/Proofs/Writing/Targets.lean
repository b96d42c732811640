import Accrete.Proofs.Statements
import Accrete.Proofs.Texts

/-!
# What foreign keys point at

Which references of an operation find their target among the tables that it knows.

* `Value.target?`               -- the table and the column that a reference names
* `KnownTables.Has`             -- a known table with a column
* `KnownTables.exists_ofColumns_iff`, `KnownTables.has_ofColumns` -- what references make known
* `KnownTables.resolve_found_iff`  -- a reference is read by its last point
-/

namespace Accrete

/-- The table and the column that a reference names, if it does so by texts. -/
def Value.target? : Value → Option (String × String)
  | .reference ⟨.text model, .text column, _⟩ => some (model, column)
  | _ => none

/-- A field or a column that references nothing, or names what it references by texts. -/
def Value.IsTypedReference (v : Value) : Prop := v = .null ∨ v.target?.isSome

theorem Value.target?_eq_some {v : Value} {p : String × String} :
    v.target? = some p ↔ ∃ action, v = .reference ⟨.text p.1, .text p.2, action⟩ := by
  constructor
  · intro h
    unfold target? at h
    split at h
    next model column action =>
      obtain rfl := Option.some.inj h
      exact ⟨action, rfl⟩
    · exact absurd h (by simp)
  · rintro ⟨action, rfl⟩
    rfl

/-- What the references of columns name, in order. -/
def columnTargets (columns : List Column) : List (String × String) :=
  columns.filterMap fun c => c.references.target?

theorem columnTargets_cons_of_none {col : Column} {columns : List Column}
    (h : col.references.target? = none) : columnTargets (col :: columns) = columnTargets columns :=
  List.filterMap_cons_none h

theorem columnTargets_cons_of_some {col : Column} {columns : List Column} {p : String × String}
    (h : col.references.target? = some p) :
    columnTargets (col :: columns) = p :: columnTargets columns :=
  List.filterMap_cons_some h

theorem forall_columnTargets {columns : List Column} {P : String × String → Prop} :
    (∀ p ∈ columnTargets columns, P p) ↔
      ∀ c ∈ columns, ∀ p, c.references.target? = some p → P p := by
  simp only [columnTargets, List.mem_filterMap]
  exact ⟨fun h c hc p hp => h p ⟨c, hc, hp⟩, fun h p ⟨c, hc, hp⟩ => h c hc p hp⟩

namespace KnownTables

/-! ## Mentions -/

/-- What is mentioned, where tables and columns are named by texts. -/
abbrev Rows := List (String × List String)

namespace Rows

/-- A column of a table is mentioned. -/
def Mention (rows : Rows) (table column : String) : Prop :=
  ∃ r ∈ rows, r.1 = table ∧ column ∈ r.2

def mentions (rows : Rows) : Mentions := rows.map fun r => (.text r.1, r.2.map .text)

theorem mention_cons {r : String × List String} {rows : Rows} {table column : String} :
    Mention (r :: rows) table column ↔ (r.1 = table ∧ column ∈ r.2) ∨ rows.Mention table column := by
  simp [Mention]

theorem exists_mention (rows : Rows) (table column : String) :
    ∃ rows' : Rows, mention rows.mentions (.text table) (.text column) = rows'.mentions ∧
      (∀ name, name ∈ rows'.map Prod.fst → name ∈ rows.map Prod.fst ∨ name = table) ∧
      ((rows.map Prod.fst).Nodup → (rows'.map Prod.fst).Nodup) ∧
      ∀ t c, rows'.Mention t c ↔ rows.Mention t c ∨ (t, c) = (table, column) := by
  induction rows with
  | nil => exact ⟨[(table, [column])], rfl, by simp, by simp, by simp [Mention, eq_comm]⟩
  | cons r rows ih =>
    have hmention : mention (mentions (r :: rows)) (.text table) (.text column) =
        if r.1 = table then mentions ((r.1, r.2 ++ [column]) :: rows)
        else (.text r.1, r.2.map .text) :: mention (mentions rows) (.text table) (.text column) := by
      by_cases h : r.1 = table <;> simp [mentions, mention, Value.sameKey_text, h]
    by_cases h : r.1 = table
    · -- the row of the table is extended where it stands, so that the names stay as they are
      refine ⟨(r.1, r.2 ++ [column]) :: rows, by rw [hmention, if_pos h], fun _ => .inl, id,
        fun t c => ?_⟩
      simp only [mention_cons, List.mem_append, List.mem_singleton, Prod.mk.injEq, h]
      grind
    · obtain ⟨rows', hrows', hnames, hnodup, hmem⟩ := ih
      refine ⟨r :: rows', by rw [hmention, if_neg h, hrows']; rfl, ?_, fun hcons => ?_,
        fun t c => ?_⟩
      · simp only [List.map_cons, List.mem_cons]
        rintro name (rfl | hname)
        · exact .inl (.inl rfl)
        · exact (hnames name hname).imp_left .inr
      · obtain ⟨hnew, hrest⟩ := List.nodup_cons.1 hcons
        refine List.nodup_cons.2 ⟨fun hmem => ?_, hnodup hrest⟩
        exact (hnames _ hmem).elim hnew h
      · rw [mention_cons, hmem, mention_cons, or_assoc]

/-- The columns of an operation mention what they reference in other tables. -/
theorem exists_foldlM {columns : List Column} (table : String)
    (typed : ∀ c ∈ columns, c.references.IsTypedReference) :
    ∃ rows : Rows, columns.foldlM (mentionTarget table) [] = .ok rows.mentions ∧
      (rows.map Prod.fst).Nodup ∧
      ∀ t c, rows.Mention t c ↔ t ≠ table ∧ (t, c) ∈ columnTargets columns := by
  -- in general, after others have been mentioned
  have hall : ∀ before : Rows, (before.map Prod.fst).Nodup → ∃ rows : Rows,
      columns.foldlM (mentionTarget table) before.mentions = .ok rows.mentions ∧
      (rows.map Prod.fst).Nodup ∧ ∀ t c, rows.Mention t c ↔
        before.Mention t c ∨ t ≠ table ∧ (t, c) ∈ columnTargets columns := by
    induction columns with
    | nil => exact fun before h => ⟨before, rfl, h, by simp [columnTargets]⟩
    | cons col columns ih =>
      obtain ⟨hcol, hcolumns⟩ := List.forall_mem_cons.1 typed
      intro before hbefore
      rw [List.foldlM_cons]
      cases htarget : col.references.target? with
      | none =>
        obtain hnull : col.references = .null := hcol.resolve_right (by simp [htarget])
        obtain ⟨rows, hrows, hnodup, hmem⟩ := ih hcolumns before hbefore
        rw [columnTargets_cons_of_none htarget]
        refine ⟨rows, ?_, hnodup, hmem⟩
        rw [mentionTarget, hnull]
        exact hrows
      | some p =>
        obtain ⟨action, href⟩ := Value.target?_eq_some.1 htarget
        have hstep : mentionTarget table before.mentions col =
            .ok (if p.1 = table then before.mentions
              else mention before.mentions (.text p.1) (.text p.2)) := by
          simp only [mentionTarget, href, Value.sameKey_text]
          by_cases h : p.1 = table
          · simp [h]
          · simp [h, Value.checkKey, Value.notKey?, bind, Except.bind, pure, Except.pure]
        rw [hstep, columnTargets_cons_of_some htarget]
        by_cases h : p.1 = table
        · -- what references the table itself mentions nothing
          obtain ⟨rows, hrows, hnodup, hmem⟩ := ih hcolumns before hbefore
          rw [if_pos h]
          refine ⟨rows, hrows, hnodup, fun t c => ?_⟩
          rw [hmem]
          grind
        · obtain ⟨between, hbetween, -, hkeeps, hadds⟩ := exists_mention before p.1 p.2
          obtain ⟨rows, hrows, hnodup, hmem⟩ := ih hcolumns between (hkeeps hbefore)
          rw [if_neg h, hbetween]
          refine ⟨rows, hrows, hnodup, fun t c => ?_⟩
          rw [hmem, hadds]
          grind
  obtain ⟨rows, hrows, hnodup, hmem⟩ := hall [] List.nodup_nil
  exact ⟨rows, hrows, hnodup, fun t c => (hmem t c).trans (by simp [Mention])⟩

end Rows

/-! ## Known tables -/

theorem mapM_columnNamed_text (names : List String) :
    (names.map Value.text).mapM columnNamed = .ok names := by
  rw [Except.mapM_eq_ok, List.forall₂_map_left_iff]
  exact List.forall₂_same.2 fun name _ => columnNamed_text name

/-- A known table has the columns that are mentioned, each once, unless one of them lacks a name. -/
theorem exists_ofMention_eq (r : String × List String) :
    ∃ columns : List String, columns.Nodup ∧ (∀ c, c ∈ columns ↔ c ∈ r.2) ∧
      ofMention (.text r.1, r.2.map .text) =
        checkNames r.1 [] columns >>= fun _ => .ok ⟨.text r.1, columns⟩ := by
  obtain ⟨sorted, hsorted, hnodup, hmem⟩ := Value.sort_map_text r.2
  refine ⟨sorted, hnodup, hmem, ?_⟩
  rw [ofMention, hsorted]
  simp only [Except.mapError, mapM_columnNamed_text, bind, Except.bind, pure, Except.pure]
  rfl

theorem ofMention_eq_ok (r : String × List String) {k : KnownTable}
    (h : ofMention (.text r.1, r.2.map .text) = .ok k) :
    k.key = .text r.1 ∧ ∀ c, c ∈ k.columns ↔ c ∈ r.2 := by
  obtain ⟨columns, -, hmem, heq⟩ := exists_ofMention_eq r
  rw [heq] at h
  obtain ⟨⟨⟩, -, h⟩ := Except.bind_eq_ok.1 h
  obtain rfl := Except.ok.inj h
  exact ⟨rfl, hmem⟩

theorem exists_ofMention_iff (r : String × List String) :
    (∃ k, ofMention (.text r.1, r.2.map .text) = .ok k) ↔ "" ∉ r.2 := by
  obtain ⟨columns, hnodup, hmem, heq⟩ := exists_ofMention_eq r
  rw [← hmem, heq]
  constructor
  · rintro ⟨k, hk⟩
    obtain ⟨⟨⟩, hcheck, -⟩ := Except.bind_eq_ok.1 hk
    exact (checkNames_eq_ok.1 hcheck).1
  · intro h
    exact ⟨_, Except.bind_eq_ok.2 ⟨(), checkNames_eq_ok.2 ⟨h, hnodup, by simp⟩, rfl⟩⟩

/-- A table of a name is known, and to have a column. -/
def Has (known : KnownTables) (table column : String) : Prop :=
  ∃ k, known.find? table = some k ∧ column ∈ k.columns

theorem has_cons {k : KnownTable} {known : KnownTables} {name table column : String}
    (hkey : k.key = .text name) :
    Has (k :: known) table column ↔
      if name = table then column ∈ k.columns else known.Has table column := by
  have hsame : k.key.sameKey (.text table) = (name == table) := by
    rw [hkey, Value.sameKey_text]
  by_cases h : name = table
  · simp [Has, find?, hsame, h]
  · simp [Has, find?, hsame, h]

theorem has_of_forall₂ {rows : Rows} {known : KnownTables} (nodup : (rows.map Prod.fst).Nodup)
    (h : List.Forall₂ (fun r (k : KnownTable) => k.key = .text r.1 ∧ ∀ c, c ∈ k.columns ↔ c ∈ r.2)
      rows known) (table column : String) :
    known.Has table column ↔ rows.Mention table column := by
  induction h with
  | nil => simp [Has, Rows.Mention, find?]
  | @cons r k rows known hr _ ih =>
    obtain ⟨hnew, hrest⟩ := List.nodup_cons.1 nodup
    rw [has_cons hr.1, Rows.mention_cons, ih hrest, hr.2]
    by_cases hname : r.1 = table
    · -- no other row is about the table
      have hnone : ¬ Rows.Mention rows table column := by
        rintro ⟨r', hr', rfl, -⟩
        exact hnew (hname ▸ List.mem_map_of_mem hr')
      simp [hname, hnone]
    · simp [hname]

variable {columns : List Column} (typed : ∀ c ∈ columns, c.references.IsTypedReference)
include typed

/-- The other tables that are referenced can be told unless one is referenced by a column without
    a name. -/
theorem exists_ofColumns_iff (table : String) :
    (∃ others, ofColumns table columns = .ok others) ↔
      ∀ p ∈ columnTargets columns, p.1 ≠ table → p.2 ≠ "" := by
  obtain ⟨rows, hrows, -, hmem⟩ := Rows.exists_foldlM table typed
  simp only [ofColumns, hrows, Except.mapError, Except.bind_eq_ok, Except.ok.injEq,
    exists_eq_left', Except.exists_mapM_iff, Rows.mentions, List.forall_mem_map,
    exists_ofMention_iff]
  constructor
  · rintro h ⟨t, c⟩ hp hne rfl
    obtain ⟨r, hr, -, hc⟩ := (hmem t "").2 ⟨hne, hp⟩
    exact h r hr hc
  · intro h r hr hc
    obtain ⟨hne, hp⟩ := (hmem r.1 "").1 ⟨r, hr, rfl, hc⟩
    exact h _ hp hne rfl

/-- Another table is known to have the columns by which it is referenced. -/
theorem has_ofColumns {table : String} {others : KnownTables}
    (h : ofColumns table columns = .ok others) (name column : String) :
    others.Has name column ↔ name ≠ table ∧ (name, column) ∈ columnTargets columns := by
  obtain ⟨rows, hrows, hnodup, hmem⟩ := Rows.exists_foldlM table typed
  rw [← hmem]
  obtain ⟨mentions, hmentions, h⟩ := Except.bind_eq_ok.1 h
  rw [hrows] at hmentions
  obtain rfl := Except.ok.inj hmentions
  rw [Except.mapM_eq_ok, Rows.mentions, List.forall₂_map_left_iff] at h
  exact has_of_forall₂ hnodup (h.imp fun r k hk => ofMention_eq_ok r hk) name column

end KnownTables

/-! ## Written targets -/

/-- The table and the column that are read from what a reference names, once it is written with a
    point between the two. -/
def writtenTarget (p : String × String) : String × String :=
  KnownTables.splitAtLastPoint (p.1 ++ "." ++ p.2)

/-- They are the ones that were named, unless there is a point in the name of the column. -/
theorem writtenTarget_of_notMem {p : String × String} (h : '.' ∉ p.2.toList) :
    writtenTarget p = p := by
  have hback : (p.1 ++ "." ++ p.2).toList.reverse =
      p.2.toList.reverse ++ '.' :: p.1.toList.reverse := by
    simp
  have hplain : ∀ c ∈ p.2.toList.reverse, (c != '.') = true := by
    intro c hc
    exact bne_iff_ne.2 fun heq => h (heq ▸ List.mem_reverse.1 hc)
  rw [writtenTarget, KnownTables.splitAtLastPoint, hback, List.dropWhile_append_of_pos hplain,
    List.takeWhile_append_of_pos hplain]
  simp

theorem KnownTables.splitAtLastPoint_target {r : Reference} {p : String × String}
    (hr : (Value.reference r).target? = some p) : splitAtLastPoint r.target = writtenTarget p := by
  obtain ⟨action, href⟩ := Value.target?_eq_some.1 hr
  obtain rfl := Value.reference.inj href
  rfl

/-- A reference finds its target just where the table that is read is known to have the column. -/
theorem KnownTables.resolve_found_iff {known : KnownTables} {r : Reference} {p : String × String}
    (hr : (Value.reference r).target? = some p) (table column : String) :
    (∃ t c, known.resolve table column r = .found t c) ↔
      known.Has (writtenTarget p).1 (writtenTarget p).2 := by
  rw [resolve, splitAtLastPoint_target hr, Has]
  cases hfind : known.find? (writtenTarget p).1 with
  | none => simp [hfind]
  | some k =>
    by_cases hmem : (writtenTarget p).2 ∈ k.columns <;> simp [hfind, hmem]

end Accrete
