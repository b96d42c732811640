import Accrete.Proofs.Planning.Compiling

/-!
# Reserved columns

Where planning is refused because a table declares the generated primary key, and that it is
refused there before anything is planned.

* `Table.NamesKey`            -- a field is named as the generated primary key
* `Plan.FirstNamesKey`        -- the first table with such a field, and the key of its first one
* `Plan.outcome_build_eq_reserved` -- planning is refused there, and there only
* `Plan.build_reserved`       -- what it depends on, and what has been reported by then
-/

namespace Accrete

/-- A refusal of a table that declares the generated primary key. -/
def Error.isReserved : Error → Bool
  | .reservedColumn .. => true
  | _ => false

variable {d : Dialect} {e : Error}

/-! ## What stops a plan otherwise -/

theorem isReserved_of_mapError {ε α : Type} {cause : ε → Error} {x : Except ε α}
    (other : ∀ c, (cause c).isReserved = false) (h : x.mapError cause = .error e) :
    e.isReserved = false := by
  obtain ⟨c, -, rfl⟩ := Except.mapError_eq_error.1 h
  exact other c

theorem isReserved_of_checkGroups {table : String} {known : Columns} {groups : List Columns}
    (h : checkGroups table known groups = .error e) : e.isReserved = false := by
  rw [checkGroups] at h
  cases hfind : (groups.map (unknownColumns known)).find? (!·.isEmpty) with
  | none => simp [hfind, pure, Except.pure] at h
  | some columns =>
    simp only [hfind] at h
    rcases Except.bind_eq_error.1 h with h | ⟨listed, -, h⟩
    · exact isReserved_of_mapError (fun _ => rfl) h
    · obtain rfl := Except.error.inj h
      rfl

theorem isReserved_of_checkGroupKeys {groups : List Columns}
    (h : checkGroupKeys groups = .error e) : e.isReserved = false :=
  isReserved_of_mapError (fun _ => rfl) h

theorem Extension.isReserved_of_plan {x : Extension} (h : (x.plan d).outcome = .error e) :
    e.isReserved = false := by
  simp only [plan, Logged.outcome_bind_eq, Logged.outcome_ofExcept, Logged.outcome_report,
    Logged.outcome_pure, Except.bind_eq_error, reduceCtorEq, and_false, exists_false,
    or_false] at h
  rcases h with hkeys | ⟨-, -, hgroups⟩
  · exact isReserved_of_checkGroupKeys hkeys
  · exact isReserved_of_checkGroups hgroups

theorem Table.isReserved_of_plan {t : Table} (h : (t.plan d).outcome = .error e) :
    e.isReserved = false := by
  simp only [plan, Logged.outcome_bind_eq, Logged.outcome_ofExcept, Logged.outcome_report,
    Logged.outcome_pure, Except.bind_eq_error, reduceCtorEq, false_or, and_false, exists_false,
    or_false] at h
  rcases h with hnames | ⟨-, -, -, -, hkeys | ⟨-, -, -, -, hgroups | ⟨-, -, hsql⟩⟩⟩
  · exact isReserved_of_mapError (fun _ => rfl) hnames
  · exact isReserved_of_checkGroupKeys hkeys
  · exact isReserved_of_checkGroups hgroups
  · exact isReserved_of_mapError (fun _ => rfl) hsql

/-! ## Tables that declare the key -/

namespace Table

variable {t : Table} {key : Value}

/-- A field is named as the generated primary key, by its key or by its physical name. -/
def NamesKey (e : Value × Field) : Prop :=
  e.1 = .text primaryKeyName ∨ e.2.fieldName = .text primaryKeyName

theorem declaresKey_iff {e : Value × Field} : declaresKey e = true ↔ NamesKey e := by
  have hname : ∀ v : Value, v.sameKey (.text primaryKeyName) = true ↔ v = .text primaryKeyName := by
    intro v
    cases v with
    | computedKind k => cases k <;> simp [Value.sameKey, Value.sameScalar, Value.numeral?,
        Value.text?, ComputedKind.spelling, primaryKeyName]
    | _ => simp [Value.sameKey, Value.sameScalar, Value.numeral?, Value.text?, Value.isNull]
  rw [declaresKey, Bool.or_eq_true, hname, hname]
  rfl

theorem isReserved_iff : t.IsReserved ↔ ∃ e ∈ t.fields, NamesKey e := by
  simp only [IsReserved, declaresKey_iff]

theorem reservedField?_eq_some :
    t.reservedField? = some key ↔ ∃ earlier e later, t.fields = earlier ++ e :: later ∧
      (∀ f ∈ earlier, ¬ NamesKey f) ∧ NamesKey e ∧ e.1 = key := by
  simp only [reservedField?, Option.map_eq_some_iff, List.find?_eq_some_iff_append,
    Bool.not_eq_true', ← declaresKey_iff, Bool.not_eq_true]
  constructor
  · rintro ⟨e, ⟨hkey, earlier, later, hsplit, hearlier⟩, rfl⟩
    exact ⟨earlier, e, later, hsplit, hearlier, hkey, rfl⟩
  · rintro ⟨earlier, e, later, hsplit, hearlier, hkey, rfl⟩
    exact ⟨e, ⟨hkey, earlier, later, hsplit, hearlier⟩, rfl⟩

theorem reservedField?_eq_none : t.reservedField? = none ↔ ¬ t.IsReserved := by
  simp [reservedField?, IsReserved]

section Keyed

variable (keyed : areTexts t.fields.names)
include keyed

theorem checkReserved_eq_ok : t.checkReserved = .ok () ↔ ¬ t.IsReserved := by
  rw [checkReserved_eq keyed, ← reservedField?_eq_none]
  cases t.reservedField? <;> simp

theorem checkReserved_eq_error :
    t.checkReserved = .error e ↔ ∃ key, t.reservedField? = some key ∧
      .reservedColumn t.name key = e := by
  rw [checkReserved_eq keyed]
  cases t.reservedField? <;> simp

end Keyed

end Table

/-! ## Plans -/

namespace Plan

open Table (NamesKey)

variable {toCreate ordered : List Table} {toAdd : List Extension} {table : String} {key : Value}

/-- The first of some tables that declares the generated primary key has the given name, and its
    first field that does has the given key. -/
def FirstNamesKey (ordered : List Table) (table : String) (key : Value) : Prop :=
  ∃ before t after earlier e later,
    ordered = before ++ t :: after ∧ (∀ u ∈ before, ∀ f ∈ u.fields, ¬ NamesKey f) ∧
    t.fields = earlier ++ e :: later ∧ (∀ f ∈ earlier, ¬ NamesKey f) ∧ NamesKey e ∧
    t.name = table ∧ e.1 = key

theorem forM_checkReserved_eq_error (keyed : ∀ t ∈ ordered, areTexts t.fields.names) {e : Error} :
    ordered.forM Table.checkReserved = .error e ↔
      ∃ table key, FirstNamesKey ordered table key ∧ .reservedColumn table key = e := by
  rw [Except.forM_eq_error]
  constructor
  · rintro ⟨before, t, after, rfl, hbefore, ht⟩
    obtain ⟨key, hkey, rfl⟩ := (Table.checkReserved_eq_error (keyed t (by simp))).1 ht
    obtain ⟨earlier, f, later, hsplit, hearlier, hf, rfl⟩ := Table.reservedField?_eq_some.1 hkey
    refine ⟨t.name, f.1, ⟨before, t, after, earlier, f, later, rfl, fun u hu g hg hname => ?_,
      hsplit, hearlier, hf, rfl, rfl⟩, rfl⟩
    have hfree := (Table.checkReserved_eq_ok (keyed u (by simp [hu]))).1 (hbefore u hu)
    exact hfree (Table.isReserved_iff.2 ⟨g, hg, hname⟩)
  · rintro ⟨table, key, ⟨before, t, after, earlier, f, later, rfl, hbefore, hsplit, hearlier, hf,
      rfl, rfl⟩, rfl⟩
    refine ⟨before, t, after, rfl, fun u hu => ?_, ?_⟩
    · refine (Table.checkReserved_eq_ok (keyed u (by simp [hu]))).2 fun hreserved => ?_
      obtain ⟨g, hg, hname⟩ := Table.isReserved_iff.1 hreserved
      exact hbefore u hu g hg hname
    · exact (Table.checkReserved_eq_error (keyed t (by simp))).2
        ⟨f.1, Table.reservedField?_eq_some.2 ⟨earlier, f, later, hsplit, hearlier, hf, rfl⟩, rfl⟩

/-- Planning is refused for a reserved column before anything else is, and for that only. -/
theorem outcome_build_eq_reserved (hordered : (creationOrder toCreate).outcome = .ok ordered)
    (keyed : ∀ t ∈ ordered, areTexts t.fields.names) :
    (build toCreate toAdd d).outcome = .error (.reservedColumn table key) ↔
      FirstNamesKey ordered table key := by
  -- nothing that is planned later is refused in this way
  have hadded : ∀ x : Extension, (x.plan d).outcome ≠ .error (.reservedColumn table key) :=
    fun x h => absurd (Extension.isReserved_of_plan h) (by simp [Error.isReserved])
  have hcreated : ∀ t : Table, (t.plan d).outcome ≠ .error (.reservedColumn table key) :=
    fun t h => absurd (Table.isReserved_of_plan h) (by simp [Error.isReserved])
  rw [outcome_build hordered, Except.bind_eq_error, forM_checkReserved_eq_error keyed]
  constructor
  · rintro (⟨table', key', hfirst, h⟩ | ⟨⟨⟩, -, h⟩)
    · obtain ⟨rfl, rfl⟩ := Error.reservedColumn.inj h
      exact hfirst
    · rcases Except.bind_eq_error.1 h with h | ⟨additions, -, h⟩
      · obtain ⟨-, x, -, -, -, hx⟩ := Except.mapM_eq_error.1 h
        exact absurd hx (hadded x)
      · rcases Except.bind_eq_error.1 h with h | ⟨creations, -, h⟩
        · obtain ⟨-, t, -, -, -, ht⟩ := Except.mapM_eq_error.1 h
          exact absurd ht (hcreated t)
        · cases h
  · intro hfirst
    exact .inl ⟨table, key, hfirst, rfl⟩

theorem exists_firstNamesKey_iff (keyed : ∀ t ∈ ordered, areTexts t.fields.names) :
    (∃ table key, FirstNamesKey ordered table key) ↔ ∃ t ∈ ordered, ∃ e ∈ t.fields, NamesKey e := by
  constructor
  · rintro ⟨table, key, before, t, after, earlier, e, later, rfl, -, hsplit, -, he, -, -⟩
    exact ⟨t, by simp, e, by simp [hsplit], he⟩
  · rintro ⟨t, ht, hreserved⟩
    cases h : ordered.forM Table.checkReserved with
    | ok _ =>
      refine absurd (Table.isReserved_iff.2 hreserved) ?_
      exact (Table.checkReserved_eq_ok (keyed t ht)).1 (Except.forM_eq_ok.1 h t ht)
    | error e =>
      obtain ⟨table, key, hfirst, -⟩ := (forM_checkReserved_eq_error keyed).1 h
      exact ⟨table, key, hfirst⟩

/-- Where a reserved column is found nothing but the order of the tables has been reported. -/
theorem events_build_of_reserved (hordered : (creationOrder toCreate).outcome = .ok ordered)
    (keyed : ∀ t ∈ ordered, areTexts t.fields.names) (hfirst : FirstNamesKey ordered table key) :
    (build toCreate toAdd d).events = (creationOrder toCreate).events := by
  have hreserved := (forM_checkReserved_eq_error keyed).2 ⟨table, key, hfirst, rfl⟩
  rw [build, Logged.events_bind hordered, ofOrdered, hreserved]
  exact List.append_nil _

theorem level_of_mem_creationOrder (followed : ∀ t ∈ toCreate, t.checkReferences = .ok ())
    {ev : Event} (hev : ev ∈ (creationOrder toCreate).events) : ev.level = .warning := by
  rw [events_creationOrder followed] at hev
  obtain ⟨group, -, hev⟩ := List.mem_flatMap.1 hev
  obtain ⟨names, t, -, rfl⟩ := mem_events_orderGroup hev
  rfl

/-- Planning is refused for a reserved column exactly if some table to create declares the
    generated primary key, whatever else is wrong with the tables and the extensions.  The first
    such table in creation order is refused, at its first such field, and nothing but warnings
    about the order of the tables has been reported by then. -/
theorem build_reserved (names : (toCreate.map Table.name).Nodup)
    (followed : ∀ t ∈ toCreate, t.checkReferences = .ok ())
    (keyed : ∀ t ∈ toCreate, areTexts t.fields.names) (toAdd : List Extension) (d : Dialect) :
    ∃ ordered, (creationOrder toCreate).outcome = .ok ordered ∧ ordered.Perm toCreate ∧
      ((∃ table key, (build toCreate toAdd d).outcome = .error (.reservedColumn table key)) ↔
        ∃ t ∈ toCreate, ∃ e ∈ t.fields, NamesKey e) ∧
      ∀ table key, ((build toCreate toAdd d).outcome = .error (.reservedColumn table key) ↔
          FirstNamesKey ordered table key) ∧
        ((build toCreate toAdd d).outcome = .error (.reservedColumn table key) →
          (build toCreate toAdd d).events = (creationOrder toCreate).events ∧
          ∀ ev ∈ (build toCreate toAdd d).events, ev.level = .warning) := by
  have hordered := creationOrder_eq_ok.2 ⟨followed, rfl⟩
  have hperm := creationOrder_perm names hordered
  have hkeyed := fun t ht => keyed t (hperm.mem_iff.1 ht)
  refine ⟨_, hordered, hperm, ?_, fun table key => ?_⟩
  · simp only [outcome_build_eq_reserved hordered hkeyed, exists_firstNamesKey_iff hkeyed,
      hperm.mem_iff]
  · rw [outcome_build_eq_reserved hordered hkeyed]
    refine ⟨Iff.rfl, fun hfirst => ?_⟩
    have hevents : (build toCreate toAdd d).events = (creationOrder toCreate).events :=
      events_build_of_reserved hordered hkeyed hfirst
    rw [hevents]
    exact ⟨rfl, fun ev => level_of_mem_creationOrder followed⟩

/-- Rooms with a constraint over a column that they lack. -/
def chambers : Table :=
  ⟨"room", [(.text "name", Field.plain .string)], Number.infinity, [[.text "floor"]], []⟩

/-- Desks in rooms, known by a column without a name, with two fields named as the key. -/
def desks : Table :=
  ⟨"desk", [(.text "room", { Field.plain .string with
      references := .reference ⟨.text "room", .text "", none⟩ }),
    (.text "code", { Field.plain .string with fieldName := .text "id" }),
    (.text "id", Field.plain .string)], Number.infinity, [], [⟨[.text "floor"], false, none⟩]⟩

/-- Annexes of desks, with a field named as the key. -/
def annexes : Table :=
  ⟨"annex", [(.text "id", Field.plain .string), (.text "desk", { Field.plain .string with
    references := .reference ⟨.text "desk", .text "id", none⟩ })], Number.infinity, [], []⟩

def cellars : Extension :=
  ⟨"cellar", [(.text "name", Field.plain .string)], Number.infinity,
    [⟨[.text "floor"], false, none⟩]⟩

theorem desks_reserved :
    ([annexes, desks, chambers].map Table.name).Nodup ∧
      (∀ t ∈ [annexes, desks, chambers], t.checkReferences = .ok ()) ∧
      (∀ t ∈ [annexes, desks, chambers], areTexts t.fields.names) ∧
      (build [annexes, desks, chambers] [cellars] .mysql).outcome =
        .error (.reservedColumn "desk" (.text "code")) := by
  have names : ([annexes, desks, chambers].map Table.name).Nodup := by decide
  have followed : ∀ t ∈ [annexes, desks, chambers], t.checkReferences = .ok () := by
    simp only [List.forall_mem_cons, List.not_mem_nil, false_implies, implies_true, and_true]
    exact ⟨rfl, rfl, rfl⟩
  have keyed : ∀ t ∈ [annexes, desks, chambers], areTexts t.fields.names := by
    simp only [List.forall_mem_cons, List.not_mem_nil, false_implies, implies_true, and_true]
    exact ⟨⟨["id", "desk"], rfl⟩, ⟨["room", "code", "id"], rfl⟩, ⟨["name"], rfl⟩⟩
  obtain ⟨ordered, hordered, -, -, hreserved⟩ :=
    build_reserved names followed keyed [cellars] .mysql
  have hplaced : (creationOrder [annexes, desks, chambers]).outcome =
      .ok [chambers, desks, annexes] := by cbv
  obtain rfl := Except.ok.inj (hplaced.symm.trans hordered)
  refine ⟨names, followed, keyed, (hreserved _ _).1.2 ⟨[chambers], desks, [annexes],
    desks.fields.take 1, desks.fields[1], desks.fields.drop 2, rfl, ?_, rfl, ?_, .inr rfl, rfl,
    rfl⟩⟩
  · simp [chambers, NamesKey, primaryKeyName, Field.plain]
  · simp [desks, NamesKey, primaryKeyName, Field.plain]

end Plan

end Accrete
