import Accrete.Proofs.Assembly.Accumulation

/-!
# Assembling an assembled schema

An assembled schema is assembled from the declarations of its own tables, as they are.  Its columns
are keyed by their physical names, its references name physical tables, and nothing is left to
merge.

* `Table.fragment`              -- a table as a declaration
* `Table.IsSame`                -- the same table, but for how its columns are spelled
* `Schema.gather_fragment`      -- each table is gathered from its own declaration
* `Schema.assemble_fragment`    -- the same schema is assembled, with the same order violations
-/

namespace Accrete

/-! ## Columns -/

namespace Field

/-- The name that a field states for its column, if any, is a text. -/
def NamesByText (f : Field) : Prop := f.fieldName.isNull = true ∨ f.fieldName.text?.isSome = true

theorem columnName_of_isTruthy {f : Field} (h : f.fieldName.isTruthy = true) (key : Value) :
    f.columnName key = f.fieldName := if_pos h

theorem columnName_of_not_isTruthy {f : Field} (h : f.fieldName.isTruthy = false) (key : Value) :
    f.columnName key = key := if_neg (Bool.eq_false_iff.1 h)

end Field

theorem Value.isEmpty_of_text? {v : Value} {s : String} (h : v.text? = some s)
    (htruthy : v.isTruthy = true) : s.isEmpty = false := by
  cases v with
  | text t =>
    obtain rfl := Option.some.inj h
    simpa [isTruthy] using htruthy
  | computedKind k =>
    obtain rfl := Option.some.inj h
    cases k <;> decide
  | _ => simp [text?] at h

/-- A column that goes by a text that is not empty is read once more, to the same field. -/
theorem Bag.readEntry_field {table : Option String} {f : Field} {name : Value} {s : String}
    (hname : name.text? = some s) (hempty : s.isEmpty = false)
    (hsame : (f.columnName name).sameKey name = true) :
    readEntry table name (.field f) = .ok (f.columnName name, f) := by
  have hkey : (f.columnName name).checkKey = .ok () := by
    refine Value.checkKey_of_text? ?_
    rw [Value.text?_eq_of_sameKey hsame, hname]
    rfl
  simp [readEntry, readKey, hname, hempty, Field.ofValue, hkey, Except.mapError, bind, Except.bind,
    pure, Except.pure]

/-- The field of a column that goes by a text, and by the name that the field states. -/
def Field.GoesBy (f : Field) (name : Value) : Prop :=
  (∃ s, name.text? = some s ∧ s.isEmpty = false) ∧ (f.columnName name).sameKey name = true

/-- A column that a text declared goes by a text, and by the name that its field states. -/
theorem Field.goesBy_of_columnName {f : Field} {key name : Value} {s : String}
    (hf : f.NamesByText) (hkey : key.text? = some s) (hempty : s.isEmpty = false)
    (hname : (f.columnName key).sameKey name = true) : f.GoesBy name := by
  rw [GoesBy]
  have htext := Value.text?_eq_of_sameKey hname
  cases htruthy : f.fieldName.isTruthy with
  | true =>
    rw [columnName_of_isTruthy htruthy] at hname htext ⊢
    rcases hf with hnull | hsome
    · cases hstated : f.fieldName <;> simp_all [Value.isNull, Value.isTruthy]
    · obtain ⟨t, ht⟩ := Option.isSome_iff_exists.1 hsome
      exact ⟨⟨t, htext ▸ ht, Value.isEmpty_of_text? ht htruthy⟩, hname⟩
  | false =>
    rw [columnName_of_not_isTruthy htruthy] at hname htext ⊢
    refine ⟨⟨s, htext ▸ hkey, hempty⟩, ?_⟩
    exact Value.sameKey_trans (Value.sameKey_comm key name ▸ hname) hname

theorem Field.ResolvesTo.columnName {fragments : List Fragment} {f f' : Field}
    (h : f.ResolvesTo fragments f') : f'.columnName = f.columnName := by
  rcases h with ⟨-, rfl⟩ | ⟨r, r', -, -, rfl⟩ <;> rfl

/-! ## Bags -/

namespace Bag

/-- The bag with its columns spelled as their fields state. -/
def respelled (b : Bag) : Bag := b.map fun e => (e.2.columnName e.1, e.2)

/-- Columns that go by texts, and by the names that their fields state. -/
def HasTextColumns (b : Bag) : Prop := ∀ e ∈ b, e.2.GoesBy e.1

variable {b : Bag}

theorem distinct_respelled (hcolumns : b.HasTextColumns) (h : b.HasDistinctNames) :
    b.respelled.HasDistinctNames := by
  rw [HasDistinctNames, names, List.pairwise_map] at h
  rw [HasDistinctNames, names, respelled, List.map_map, List.pairwise_map]
  refine h.imp_of_mem fun {d e} hd he hde => ?_
  rw [Function.comp_apply, Function.comp_apply, Value.sameKey_congr (hcolumns d hd).2,
    Value.sameKey_comm, Value.sameKey_congr (hcolumns e he).2, Value.sameKey_comm]
  exact hde

/-- A bag is read back with its columns spelled as their fields state. -/
theorem ofValue_toValue (hcolumns : b.HasTextColumns) (h : b.HasDistinctNames)
    (table : Option String) : ofValue table b.toValue = .ok b.respelled := by
  refine readEntries_eq_ok.2 ⟨b.respelled, ?_, ?_⟩
  · rw [Except.mapM_eq_ok, respelled, List.forall₂_map_left_iff, List.forall₂_map_right_iff,
      List.forall₂_same]
    intro e he
    obtain ⟨⟨s, hname, hempty⟩, hsame⟩ := hcolumns e he
    exact readEntry_field hname hempty hsame
  · exact (merge_eq_append (b := []) (distinct_respelled hcolumns h)).symm

end Bag

/-! ## Tables -/

namespace Table

/-- A table as a declaration of its own. -/
def fragment (t : Table) : Fragment :=
  ⟨t.name, t.fields.toValue, some t.order, none, t.uniqueConstraints, t.indexes⟩

/-- The table with its columns spelled as their fields state. -/
def respelled (t : Table) : Table := { t with fields := t.fields.respelled }

variable {t : Table}

theorem checkReferences_respelled (h : t.checkReferences = .ok ()) :
    t.respelled.checkReferences = .ok () := by
  rw [checkReferences, Except.forM_eq_ok] at h ⊢
  exact List.forall_mem_map.2 fun e he => h e he

/-- The same table, whose columns go by the same keys. -/
structure IsSame (t t' : Table) : Prop where
  name : t'.name = t.name
  fields : List.Forall₂ (fun e e' => e'.1.sameKey e.1 = true ∧ e'.2 = e.2) t.fields t'.fields
  order : t'.order = t.order
  uniqueConstraints : t'.uniqueConstraints = t.uniqueConstraints
  indexes : t'.indexes = t.indexes

theorem isSame_respelled (hcolumns : t.fields.HasTextColumns) : t.IsSame t.respelled := by
  refine ⟨rfl, ?_, rfl, rfl, rfl⟩
  rw [respelled, Bag.respelled, List.forall₂_map_right_iff, List.forall₂_same]
  exact fun e he => ⟨(hcolumns e he).2, rfl⟩

end Table

/-! ## Schemas -/

namespace Schema

open Fragment

variable {s : Schema} {ts : List Table} {fragments : List Fragment}

/-- A table is gathered from its own declaration. -/
theorem contribute_fragment {t : Table} (hcolumns : t.fields.HasTextColumns)
    (hdistinct : t.fields.HasDistinctNames) (hnew : t.name ∉ s.map Table.name) :
    s.contribute t.fragment = .ok (s ++ [t.respelled]) := by
  have hfind : s.find? t.fragment.tableName = none := by
    refine List.find?_eq_none.2 fun u hu hname => hnew ?_
    exact List.mem_map.2 ⟨u, hu, of_decide_eq_true hname⟩
  have hfields : Bag.overlay (some t.fragment.tableName) [] t.fragment.fields =
      .ok t.respelled.fields := by
    refine Except.bind_eq_ok.2 ⟨_, Bag.ofValue_toValue hcolumns hdistinct _, ?_⟩
    exact Except.pure_eq_ok.2 (Bag.merge_eq_append (b := []) (Bag.distinct_respelled hcolumns
      hdistinct))
  rw [contribute_eq_put, hfind, contribution, hfields]
  exact congrArg Except.ok (put_of_notMem hnew)

/-- The tables of a schema are gathered one by one from their own declarations, and nothing is
    reported. -/
theorem gather_fragment (hcolumns : ∀ t ∈ ts, t.fields.HasTextColumns)
    (hdistinct : ∀ t ∈ ts, t.fields.HasDistinctNames)
    (hnodup : ((s ++ ts).map Table.name).Nodup) :
    gather s (ts.map Table.fragment) = pure (s ++ ts.map Table.respelled) := by
  -- for any tables that were gathered before, as long as they have other names
  induction ts generalizing s with
  | nil => simp [gather]
  | cons t ts ih =>
    rw [List.forall_mem_cons] at hcolumns hdistinct
    have hnew : t.name ∉ s.map Table.name := by
      rw [List.map_append, List.nodup_append] at hnodup
      exact fun hmem => hnodup.2.2 _ hmem t.name (by simp) rfl
    rw [List.map_cons, gather, contribute_fragment hcolumns.1 hdistinct.1 hnew]
    refine (ih (s := s ++ [t.respelled]) hcolumns.2 hdistinct.2 ?_).trans ?_
    · simpa [Table.respelled] using hnodup
    · rw [List.map_cons, List.append_assoc, List.singleton_append]

/-- References that name physical tables are left as they are. -/
theorem resolved_of_forall (h : ∀ key, physicalName fragments key = key) (t : Table) :
    t.resolved fragments = t := by
  have hreference : ∀ r : Reference, r.resolved fragments = r := by
    intro r
    cases hm : r.model.text? with
    | none => exact Reference.resolved_of_text?_eq_none hm
    | some m => simp [Reference.resolved, hm, h m]
  have hfield : ∀ f : Field, f.resolved fragments = f := by
    intro f
    obtain ⟨type, required, unique, bigint, indexed, fieldName, references, default⟩ := f
    cases references with
    | reference r => simp [Field.resolved, hreference]
    | _ => rfl
  simp [Table.resolved, hfield]

theorem hasTextColumns_assemble (h : (assemble fragments).outcome = .ok s)
    (hnames : ∀ t ∈ s, ∀ e ∈ t.fields, e.2.NamesByText) : ∀ t ∈ s, t.fields.HasTextColumns := by
  have hs := isAssembled_assemble h
  intro t ht e he
  obtain ⟨f, ⟨before, column, after, hdeclared, hsame, -⟩, hresolves⟩ :=
    (hs.tables t ht).fields e he
  obtain ⟨fragment, hfragment, hmem⟩ :=
    List.mem_flatMap.1 (hdeclared ▸ List.mem_append_right before List.mem_cons_self)
  obtain ⟨⟨key, ⟨name, hkey, hempty⟩, hcolumn⟩, -⟩ :=
    columnName_of_declares (hs.declares fragment (List.mem_of_mem_filter hfragment)) _ hmem
  refine Field.goesBy_of_columnName (hnames t ht e he) hkey hempty ?_
  rw [hresolves.columnName, ← hcolumn]
  exact hsame

theorem find?_respelled (name : String) :
    find? (s.map Table.respelled) name = (s.find? name).map Table.respelled := by
  rw [find?, find?, List.find?_map]
  rfl

theorem laterTarget?_respelled (t : Table) (f : Field) :
    laterTarget? (s.map Table.respelled) t.respelled f =
      (laterTarget? s t f).map Table.respelled := by
  rw [laterTarget?, laterTarget?]
  cases f.reference? with
  | none => rfl
  | some r =>
    cases hm : r.model.text? with
    | none => simp [hm]
    | some m =>
      cases hfind : s.find? m with
      | none => simp [hm, find?_respelled, hfind]
      | some target =>
        simp only [hm, find?_respelled, hfind, Option.map_some, Option.bind_eq_bind,
          Option.bind_some, apply_ite (Option.map Table.respelled), Option.map_none]
        rfl

end Schema

/-- Two order violations of the same tables, by columns that go by the same key. -/
def Event.IsSameViolation : Event → Event → Prop
  | .orderViolated table order target targetOrder column,
    .orderViolated table' order' target' targetOrder' column' =>
    table' = table ∧ order' = order ∧ target' = target ∧ targetOrder' = targetOrder ∧
      ∃ v w : Value, w.sameKey v = true ∧ column = v.plain ∧ column' = w.plain
  | _, _ => False

namespace Schema

open Fragment

variable {s : Schema} {fragments : List Fragment}

theorem orderWarnings_respelled (hcolumns : ∀ t ∈ s, t.fields.HasTextColumns) :
    List.Forall₂ Event.IsSameViolation s.orderWarnings
      (orderWarnings (s.map Table.respelled)) := by
  rw [orderWarnings, orderWarnings, List.flatMap_map]
  refine forall₂_flatMap fun t ht => ?_
  rw [List.filterMap_eq_flatMap_toList, List.filterMap_eq_flatMap_toList, Table.respelled,
    Bag.respelled, List.flatMap_map]
  refine forall₂_flatMap fun e he => ?_
  have hlater := laterTarget?_respelled (s := s) t e.2
  rw [Table.respelled, Bag.respelled] at hlater
  rw [hlater]
  cases laterTarget? s t e.2 with
  | none => exact .nil
  | some target =>
    exact .cons ⟨rfl, rfl, rfl, rfl, e.1, _, (hcolumns t ht e he).2, rfl, rfl⟩ .nil

/-- Fields of which neither the column nor the name that they state is a computed kind. -/
def SpellsOut (s : Schema) : Prop :=
  ∀ t ∈ s, ∀ e ∈ t.fields, (∃ column, e.1 = .text column) ∧
    (e.2.fieldName = .null ∨ ∃ name, e.2.fieldName = .text name)

theorem map_respelled (hcolumns : ∀ t ∈ s, t.fields.HasTextColumns) (h : s.SpellsOut) :
    s.map Table.respelled = s := by
  have hentry : ∀ t ∈ s, ∀ e ∈ t.fields, (e.2.columnName e.1, e.2) = e := by
    intro t ht e he
    have hsame := (hcolumns t ht e he).2
    obtain ⟨⟨column, hcolumn⟩, hname⟩ := h t ht e he
    refine Prod.ext ?_ rfl
    -- where a name is stated, the column already goes by that text
    cases htruthy : e.2.fieldName.isTruthy with
    | false => exact Field.columnName_of_not_isTruthy htruthy e.1
    | true =>
      rw [Field.columnName_of_isTruthy htruthy] at hsame ⊢
      rcases hname with hnull | ⟨name, hname⟩
      · simp [hnull, Value.isTruthy] at htruthy
      · rw [hname, hcolumn] at hsame ⊢
        have htext := Value.text?_eq_of_sameKey hsame
        exact congrArg Value.text (Option.some.inj htext)
  refine (List.map_congr_left fun t ht => ?_).trans s.map_id
  rw [Table.respelled, Bag.respelled, (List.map_congr_left (hentry t ht)).trans t.fields.map_id]
  rfl

/-- The tables of an assembled schema, declared once more as they are, are assembled to the same
    schema.  Nothing is reported but the same order violations. -/
theorem assemble_fragment (h : (assemble fragments).outcome = .ok s)
    (hnames : ∀ t ∈ s, ∀ e ∈ t.fields, e.2.NamesByText) :
    ∃ s', (assemble (s.map Table.fragment)).outcome = .ok s' ∧ List.Forall₂ Table.IsSame s s' ∧
      List.Forall₂ Event.IsSameViolation s.orderWarnings (assemble (s.map Table.fragment)).events ∧
      (s.SpellsOut → s' = s ∧ (assemble (s.map Table.fragment)).events = s.orderWarnings) := by
  have hcolumns := hasTextColumns_assemble h hnames
  have hgather : gather [] (s.map Table.fragment) = pure (s.map Table.respelled) :=
    gather_fragment hcolumns (assemble_distinct h) (assemble_nodup h)
  have hphysical : ∀ key, physicalName (s.map Table.fragment) key = key := by
    refine physicalName_of_forall fun f hf => ?_
    obtain ⟨t, -, rfl⟩ := List.mem_map.1 hf
    rfl
  have hcheck : ∀ t ∈ s.map Table.respelled, t.checkReferences = .ok () := by
    obtain ⟨gathered, -, hcheck, rfl⟩ := assemble_eq_ok.1 h
    simp only [List.forall_mem_map]
    exact fun t ht => Table.checkReferences_respelled (Table.checkReferences_resolved (hcheck t ht))
  have hassemble : (assemble (s.map Table.fragment)).outcome = .ok (s.map Table.respelled) := by
    refine assemble_eq_ok.2 ⟨_, by rw [hgather]; rfl, hcheck, ?_⟩
    exact ((List.map_congr_left fun t _ => resolved_of_forall hphysical t).trans
      (List.map_id _)).symm
  have hevents : (assemble (s.map Table.fragment)).events =
      orderWarnings (s.map Table.respelled) := by
    obtain ⟨_, -, -, hevents⟩ := assemble_inv hassemble
    rw [hevents, hgather]
    rfl
  refine ⟨_, hassemble, ?_, hevents ▸ orderWarnings_respelled hcolumns, fun hspells => ?_⟩
  · rw [List.forall₂_map_right_iff, List.forall₂_same]
    exact fun t ht => Table.isSame_respelled (hcolumns t ht)
  · rw [hevents, map_respelled hcolumns hspells]
    exact ⟨rfl, rfl⟩

/-- A table whose physical name is the logical key of the table that it references, by a column that
    goes by a name of its own. -/
def renamedPost : List Fragment :=
  [⟨"post", .mapping [(.text "author", .mapping
      [(.text "type", .text "string"), (.text "field_name", .text "author_id"),
        (.text "references", .text "user")])], none, some "user", [], []⟩,
    ⟨"user", .mapping [(.text "email", .field (.plain .string))], none, some "accounts", [], []⟩]

/-- The tables that they are assembled to. -/
def renamedTables : Schema :=
  [⟨"user", [(.text "author_id", { Field.plain .string with
      fieldName := .text "author_id"
      references := .reference ⟨.text "accounts", .text "id", none⟩ })],
      Number.infinity, [], []⟩,
    ⟨"accounts", [(.text "email", .plain .string)], Number.infinity, [], []⟩]

theorem assemble_renamedTables :
    (assemble renamedPost).outcome = .ok renamedTables ∧
      (assemble (renamedTables.map Table.fragment)).outcome = .ok renamedTables := by
  have h : (assemble renamedPost).outcome = .ok renamedTables := by cbv
  have hspells : renamedTables.SpellsOut := by
    simp [SpellsOut, renamedTables, Field.plain]
  have hnames : ∀ t ∈ renamedTables, ∀ e ∈ t.fields, e.2.NamesByText := by
    simp [renamedTables, Field.NamesByText, Field.plain, Value.isNull, Value.text?]
  obtain ⟨s', hs', -, -, hsame⟩ := assemble_fragment h hnames
  obtain ⟨rfl, -⟩ := hsame hspells
  exact ⟨h, hs'⟩

end Schema

end Accrete
