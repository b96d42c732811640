import Accrete.Proofs.Planning.Idempotence

/-!
# What a difference says

A difference and what is reported about it, read as statements about single tables and columns.

* `isLive`, `isLiveColumn`      -- what a database has, by name
* `Difference.IsExact`          -- what is lacking is listed, each table once and in order
* `Difference.IsReported`       -- what is left out or of another type is reported, once each
* `difference_exact`            -- both hold of every difference, which depends on names only
-/

namespace Accrete

/-- Whether a database has a table of a name. -/
def isLive (live : List LiveTable) (name : String) : Bool := (liveTable? live name).isSome

/-- The live column of a name in the table of a name. -/
def liveColumn? (live : List LiveTable) (table : String) (column : Value) : Option LiveColumn :=
  (liveTable? live table).bind (·.column? column)

def isLiveColumn (live : List LiveTable) (table : String) (column : Value) : Bool :=
  (liveColumn? live table column).isSome

namespace Table

/-- The fields that have no live column, in order. -/
def fieldsLacking (t : Table) (live : List LiveTable) : Bag :=
  t.fields.filter fun e => !isLiveColumn live t.name e.1

/-- The fields that have a live column of a type they do not accept, with that column. -/
def fieldsDiffering (t : Table) (live : List LiveTable) (d : Dialect) :
    List ((Value × Field) × LiveColumn) :=
  t.fields.filterMap fun e =>
    ((liveColumn? live t.name e.1).filter fun c => !e.2.acceptsType d c.type).map (e, ·)

end Table

/-- A difference lists what is lacking and nothing else: a table that is not live with all its
    fields, and a live one that lacks columns with the fields of these, in the order of the schema.
    Malformed tables are not listed. -/
structure Difference.IsExact (found : Difference) (entries : List SchemaEntry)
    (live : List LiveTable) : Prop where
  created : ∀ t, t ∈ found.toCreate ↔ ∃ u, .table u ∈ entries ∧ isLive live u.name = false ∧
    t = ⟨u.name, u.fields, u.order, u.uniqueConstraints, u.allIndexes⟩
  extended : ∀ x, x ∈ found.toAdd ↔ ∃ u, .table u ∈ entries ∧ isLive live u.name = true ∧
    (∃ e ∈ u.fields, isLiveColumn live u.name e.1 = false) ∧
    x = ⟨u.name, u.fieldsLacking live, u.order,
      u.indexesWithin (Bag.names (u.fieldsLacking live))⟩
  once : (found.toCreate.map Table.name ++ found.toAdd.map Extension.table).Nodup
  malformed : ∀ name, .malformed name ∈ entries →
    name ∉ found.toCreate.map Table.name ++ found.toAdd.map Extension.table
  created_ascending : found.toCreate.Pairwise fun a b => b.order.lt a.order = false
  extended_ascending : found.toAdd.Pairwise fun a b =>
    a.order.lt b.order = true ∨ a.order.same b.order = true ∧ a.table < b.table

namespace SchemaEntry

/-- One error for a malformed table. -/
def errorReports : SchemaEntry → List Event
  | .malformed name => [.tableMalformed name]
  | .table _ => []

/-- One warning for each live column of another type. -/
def typeReports (live : List LiveTable) (d : Dialect) : SchemaEntry → List Event
  | .malformed _ => []
  | .table t => (t.fieldsDiffering live d).map fun (e, c) =>
      .typeDiffers t.name e.1.plain e.2.type c.type

end SchemaEntry

def Event.isTypeWarning : Event → Bool
  | .typeDiffers .. => true
  | _ => false

/-- What is reported about entries, in their order: the errors are those about malformed tables,
    and the warnings are about types, one each, and at most about cycles. -/
structure Difference.IsReported (events : List Event) (entries : List SchemaEntry)
    (live : List LiveTable) (d : Dialect) : Prop where
  errors : (events.filter fun ev => ev.level = .error) = entries.flatMap SchemaEntry.errorReports
  types : events.filter Event.isTypeWarning = entries.flatMap (SchemaEntry.typeReports live d)
  others : ∀ ev ∈ events, ev.level = .error ∨ ev.isTypeWarning = true ∨
    ∃ names order, ev = .cycleBroken names order

/-- Two databases that have the same tables and columns of a schema, of whatever types. -/
def LookAlike (entries : List SchemaEntry) (live live' : List LiveTable) : Prop :=
  ∀ t, .table t ∈ entries → isLive live t.name = isLive live' t.name ∧
    ∀ e ∈ t.fields, isLiveColumn live t.name e.1 = isLiveColumn live' t.name e.1

variable {entries : List SchemaEntry} {live live' : List LiveTable} {d d' : Dialect}

/-! ## Single entries -/

namespace Table

variable {t : Table} {l : LiveTable}

theorem fieldsLacking_of_live (hl : liveTable? live t.name = some l) :
    t.fieldsLacking live = t.missingFields l := by
  rw [fieldsLacking, missingFields]
  refine List.filter_congr fun e _ => ?_
  cases hc : l.column? e.1 <;> simp [isLiveColumn, liveColumn?, hl, hc]

theorem fieldsLacking_ne_nil :
    t.fieldsLacking live ≠ [] ↔ ∃ e ∈ t.fields, isLiveColumn live t.name e.1 = false := by
  simp [fieldsLacking]

theorem typeWarnings_eq_map (hl : liveTable? live t.name = some l) :
    t.typeWarnings l d = (t.fieldsDiffering live d).map fun (e, c) =>
      .typeDiffers t.name e.1.plain e.2.type c.type := by
  rw [typeWarnings, fieldsDiffering, List.map_filterMap]
  refine List.filterMap_congr fun e _ => ?_
  rw [liveColumn?, hl, Option.bind_some]
  cases hc : l.column? e.1 with
  | none => rfl
  | some c => cases haccepts : e.2.acceptsType d c.type <;> simp [haccepts]

theorem fieldsDiffering_of_not_live (hl : liveTable? live t.name = none) :
    t.fieldsDiffering live d = [] := by
  simp [fieldsDiffering, liveColumn?, hl]

end Table

namespace SchemaEntry

/-- A comparison is refused only where an index names its columns by something that is no key. -/
theorem outcome_compare {e : SchemaEntry}
    (h : ∀ t, e = .table t → t.checkColumnKeys = .ok ()) :
    (e.compare live d).outcome = .ok (e.lack live) := by
  cases e with
  | malformed name => rfl
  | table t =>
    have hkeys := h t rfl
    obtain ⟨⟨⟩, hindexes, -⟩ := Except.bind_eq_ok.1 hkeys
    rw [compare, lack]
    cases liveTable? live t.name with
    | none =>
      dsimp only
      rw [hindexes]
      rfl
    | some l =>
      dsimp only
      rw [hkeys]
      cases t.extension? l <;> rfl

/-- What is lacking of a table depends on the names of live tables and columns only. -/
theorem lack_congr (alike : LookAlike entries live live') {e : SchemaEntry} (he : e ∈ entries) :
    e.lack live = e.lack live' := by
  cases e with
  | malformed name => rfl
  | table t =>
    obtain ⟨htable, hcolumns⟩ := alike t he
    rw [lack, lack]
    cases hl : liveTable? live t.name with
    | none =>
      cases hl' : liveTable? live' t.name with
      | none => rfl
      | some l' => simp [isLive, hl, hl'] at htable
    | some l =>
      cases hl' : liveTable? live' t.name with
      | none => simp [isLive, hl, hl'] at htable
      | some l' =>
        -- the same fields are missing, as the same columns are live
        have hmissing : t.missingFields l = t.missingFields l' := by
          rw [← Table.fieldsLacking_of_live hl, ← Table.fieldsLacking_of_live hl']
          exact List.filter_congr fun e he => by rw [hcolumns e he]
        simp only [Table.extension?, hmissing]

end SchemaEntry

/-! ## Whole differences -/

/-- What is found is exact. -/
theorem difference_isExact {found : Difference} (names : (entries.map SchemaEntry.name).Nodup)
    (h : (difference entries live d).outcome = .ok found) : found.IsExact entries live := by
  obtain ⟨-, hcreate, hadd⟩ := difference_eq_ok.1 h
  have hlacking := nodup_lacking live names
  have hcreations := (List.nodup_append.1 hlacking).2.1
  have hcreatePerm := creationOrder_perm hcreations hcreate
  have haddPerm : found.toAdd.Perm (SchemaEntry.extensions live entries) :=
    hadd ▸ byOrderAndName_perm ..
  have honce : (found.toCreate.map Table.name ++ found.toAdd.map Extension.table).Perm
      ((SchemaEntry.extensions live entries).map Extension.table ++
        (SchemaEntry.creations live entries).map Table.name) :=
    ((hcreatePerm.map _).append (haddPerm.map _)).trans List.perm_append_comm
  constructor
  case created =>
    intro t
    rw [hcreatePerm.mem_iff, SchemaEntry.mem_creations]
    simp only [isLive, Option.isSome_eq_false_iff, Option.isNone_iff_eq_none]
    rfl
  case extended =>
    intro x
    rw [haddPerm.mem_iff, SchemaEntry.mem_extensions]
    constructor
    · rintro ⟨u, l, hu, hl, hx⟩
      obtain ⟨hne, rfl⟩ := Table.extension?_eq_some.1 hx
      rw [← Table.fieldsLacking_of_live hl] at hne ⊢
      exact ⟨u, hu, Option.isSome_of_eq_some hl, Table.fieldsLacking_ne_nil.1 hne, rfl⟩
    · rintro ⟨u, hu, hlive, hlacking, rfl⟩
      obtain ⟨l, hl⟩ := Option.isSome_iff_exists.1 hlive
      rw [← Table.fieldsLacking_ne_nil, Table.fieldsLacking_of_live hl] at hlacking
      refine ⟨u, l, hu, hl, Table.extension?_eq_some.2 ⟨hlacking, ?_⟩⟩
      rw [Table.fieldsLacking_of_live hl]
      rfl
  case once => exact honce.nodup_iff.2 hlacking
  case malformed =>
    intro name hname hmem
    -- a table that is lacking would be a second entry of the name
    rcases List.mem_append.1 (honce.mem_iff.1 hmem) with hmem | hmem
    · obtain ⟨x, hx, rfl⟩ := List.mem_map.1 hmem
      obtain ⟨u, l, hu, -, hux⟩ := SchemaEntry.mem_extensions.1 hx
      have hsame := List.inj_on_of_nodup_map names hname hu (Table.table_of_extension? hux)
      exact absurd hsame (by simp)
    · obtain ⟨t, ht, rfl⟩ := List.mem_map.1 hmem
      obtain ⟨u, hu, -, rfl⟩ := SchemaEntry.mem_creations.1 ht
      have hsame := List.inj_on_of_nodup_map names hname hu rfl
      exact absurd hsame (by simp)
  case created_ascending => exact creationOrder_ascending hcreate
  case extended_ascending =>
    have hsorted := byOrderAndName_pairwise Extension.order Extension.table
      (SchemaEntry.extensions live entries)
    rw [← extensionsByOrder, ← hadd] at hsorted
    have hnames : found.toAdd.Pairwise fun a b => a.table ≠ b.table :=
      List.pairwise_map.1 (List.nodup_append.1 (honce.nodup_iff.2 hlacking)).2.1
    refine (hsorted.and hnames).imp ?_
    rintro a b ⟨hle, hne⟩
    rcases Prod.Lex.toLex_le_toLex.1 hle with hlt | ⟨hsame, hname⟩
    · exact .inl (Number.lt_iff.2 hlt)
    · exact .inr ⟨Number.same_iff.2 hsame, lt_of_le_of_ne hname hne⟩

namespace SchemaEntry

theorem events_compare (e : SchemaEntry) :
    (e.compare live d).events = e.errorReports ++ e.typeReports live d := by
  cases e with
  | malformed name => rfl
  | table t =>
    rw [events_compare_table, errorReports, typeReports, List.nil_append]
    cases hl : liveTable? live t.name with
    | none => rw [Table.fieldsDiffering_of_not_live hl, List.map_nil]
    | some l => exact Table.typeWarnings_eq_map hl

theorem level_of_mem_errorReports {e : SchemaEntry} {ev : Event} (h : ev ∈ e.errorReports) :
    ev.level = .error ∧ ev.isTypeWarning = false := by
  cases e with
  | malformed name =>
    obtain rfl := List.mem_singleton.1 h
    exact ⟨rfl, rfl⟩
  | table t => exact absurd h List.not_mem_nil

theorem level_of_mem_typeReports {e : SchemaEntry} {ev : Event} (h : ev ∈ e.typeReports live d) :
    ev.level = .warning ∧ ev.isTypeWarning = true := by
  cases e with
  | malformed name => exact absurd h List.not_mem_nil
  | table t =>
    obtain ⟨-, -, rfl⟩ := List.mem_map.1 h
    exact ⟨rfl, rfl⟩

end SchemaEntry

theorem difference_isReported {found : Difference}
    (h : (difference entries live d).outcome = .ok found) :
    Difference.IsReported (difference entries live d).events entries live d := by
  obtain ⟨hcreate, -, hevents⟩ := difference_inv h
  have hcycles : ∀ ev ∈ (creationOrder (SchemaEntry.creations live entries)).events,
      ∃ names order, ev = .cycleBroken names order := by
    intro ev hev
    rw [events_creationOrder (creationOrder_eq_ok.1 hcreate).1] at hev
    obtain ⟨group, -, hev⟩ := List.mem_flatMap.1 hev
    obtain ⟨names, t, -, rfl⟩ := mem_events_orderGroup hev
    exact ⟨names, t.order, rfl⟩
  -- cycles are warnings, and not about types
  have hrest : ∀ p : Event → Bool, (∀ names order, p (.cycleBroken names order) = false) →
      (creationOrder (SchemaEntry.creations live entries)).events.filter p = [] := by
    intro p hp
    refine List.filter_eq_nil_iff.2 fun ev hev => ?_
    obtain ⟨names, order, rfl⟩ := hcycles ev hev
    simp [hp]
  rw [hevents]
  constructor
  case errors =>
    rw [List.filter_append, hrest _ (fun _ _ => rfl), List.append_nil, List.filter_flatMap]
    refine List.flatMap_congr fun e _ => ?_
    rw [SchemaEntry.events_compare, List.filter_append,
      List.filter_eq_self.2 fun ev hev => by simp [SchemaEntry.level_of_mem_errorReports hev],
      List.filter_eq_nil_iff.2 fun ev hev => by simp [SchemaEntry.level_of_mem_typeReports hev],
      List.append_nil]
  case types =>
    rw [List.filter_append, hrest _ (fun _ _ => rfl), List.append_nil, List.filter_flatMap]
    refine List.flatMap_congr fun e _ => ?_
    rw [SchemaEntry.events_compare, List.filter_append,
      List.filter_eq_nil_iff.2 fun ev hev => by simp [SchemaEntry.level_of_mem_errorReports hev],
      List.filter_eq_self.2 fun ev hev => (SchemaEntry.level_of_mem_typeReports hev).2,
      List.nil_append]
  case others =>
    intro ev hev
    rcases List.mem_append.1 hev with hev | hev
    · obtain ⟨e, -, hev⟩ := List.mem_flatMap.1 hev
      rw [SchemaEntry.events_compare] at hev
      rcases List.mem_append.1 hev with hev | hev
      · exact .inl (SchemaEntry.level_of_mem_errorReports hev).1
      · exact .inr (.inl (SchemaEntry.level_of_mem_typeReports hev).2)
    · exact .inr (.inr (hcycles ev hev))

section Readable

variable (readable : ∀ t, .table t ∈ entries →
  t.checkReferences = .ok () ∧ t.checkColumnKeys = .ok ())
include readable

theorem outcome_compare_of_readable (live : List LiveTable) (d : Dialect) :
    ∀ e ∈ entries, (SchemaEntry.compare live d e).outcome = .ok (e.lack live) :=
  fun _ he => SchemaEntry.outcome_compare fun t ht => (readable t (ht ▸ he)).2

/-- A comparison returns. -/
theorem exists_difference (live : List LiveTable) (d : Dialect) :
    ∃ found, (difference entries live d).outcome = .ok found := by
  have hfollowed : ∀ t ∈ SchemaEntry.creations live entries, t.checkReferences = .ok () := by
    intro t ht
    obtain ⟨u, hu, -, rfl⟩ := SchemaEntry.mem_creations.1 ht
    exact (readable u hu).1
  exact ⟨⟨_, _⟩, difference_eq_ok.2 ⟨outcome_compare_of_readable readable live d,
    creationOrder_eq_ok.2 ⟨hfollowed, rfl⟩, rfl⟩⟩

/-- What is found depends on the names of live tables and columns only. -/
theorem difference_of_lookAlike {found : Difference} (alike : LookAlike entries live live')
    (h : (difference entries live d).outcome = .ok found) :
    (difference entries live' d').outcome = .ok found := by
  obtain ⟨-, hcreate, hadd⟩ := difference_eq_ok.1 h
  -- the same is lacking of each entry
  have hcreations : SchemaEntry.creations live' entries = SchemaEntry.creations live entries :=
    List.filterMap_congr fun e he => by rw [SchemaEntry.lack_congr alike he]
  have hextensions : SchemaEntry.extensions live' entries = SchemaEntry.extensions live entries :=
    List.filterMap_congr fun e he => by rw [SchemaEntry.lack_congr alike he]
  refine difference_eq_ok.2 ⟨outcome_compare_of_readable readable live' d', ?_, ?_⟩
  · rw [hcreations]
    exact hcreate
  · rw [hextensions]
    exact hadd

end Readable

/-- A schema with one entry for a name is compared with any database.  What is found is exact and
    reported, and would be found in every database that has the same tables and columns of the
    schema, whatever their types are and whatever dialect it speaks. -/
theorem difference_exact (names : (entries.map SchemaEntry.name).Nodup)
    (readable : ∀ t, .table t ∈ entries →
      t.checkReferences = .ok () ∧ t.checkColumnKeys = .ok ())
    (live : List LiveTable) (d : Dialect) :
    ∃ found, (difference entries live d).outcome = .ok found ∧ found.IsExact entries live ∧
      Difference.IsReported (difference entries live d).events entries live d ∧
      ∀ live' d', LookAlike entries live live' →
        (difference entries live' d').outcome = .ok found := by
  obtain ⟨found, hfound⟩ := exists_difference readable live d
  exact ⟨found, hfound, difference_isExact names hfound, difference_isReported hfound,
    fun live' d' alike => difference_of_lookAlike readable alike hfound⟩

/-- A malformed table, one that lacks a column and has another of the wrong type, and one that is
    not live. -/
theorem partlyLive_exact :
    let entries := [.malformed "cellar", .table partlyLive, .table notLive]
    (entries.map SchemaEntry.name).Nodup ∧
      (∀ t, .table t ∈ entries → t.checkReferences = .ok () ∧ t.checkColumnKeys = .ok ()) ∧
      ∃ found, (difference entries [liveRoom] .mysql).outcome = .ok found ∧
        found.IsExact entries [liveRoom] ∧
        Difference.IsReported (difference entries [liveRoom] .mysql).events entries [liveRoom]
          .mysql := by
  intro entries
  have names : (entries.map SchemaEntry.name).Nodup := by decide
  have readable : ∀ t, .table t ∈ entries →
      t.checkReferences = .ok () ∧ t.checkColumnKeys = .ok () := by
    intro t ht
    simp only [entries, List.mem_cons, reduceCtorEq, SchemaEntry.table.injEq, false_or,
      List.not_mem_nil, or_false] at ht
    rcases ht with rfl | rfl <;> exact ⟨rfl, rfl⟩
  obtain ⟨found, hfound, hexact, hreported, -⟩ :=
    difference_exact names readable [liveRoom] .mysql
  exact ⟨names, readable, found, hfound, hexact, hreported⟩

end Accrete
