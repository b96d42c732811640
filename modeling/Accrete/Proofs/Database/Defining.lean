import Accrete.Database.Definition
import Accrete.Proofs.Logged

/-!
# What constraints leave as it is

Constraints add rules to a definition.  The names and the types of its columns stay.

* `StoredColumn.declared`     -- the name and the type of a column
* `Definition.SameColumns`    -- the columns of another definition
* `Definition.Constrains`     -- the same but for what the last column allows
* `Definition.Extends`        -- one column more than another definition
* `Definition.complete_eq_ok` -- the whole has the columns that were stated
-/

namespace Accrete

def StoredColumn.declared (c : StoredColumn) : String × Option String := (c.name, c.type)

namespace Definition

/-- A definition has the columns of another. -/
structure SameColumns (d d' : Definition) : Prop where
  name : d'.name = d.name
  columns : d'.columns = d.columns

/-- A definition differs from another in what the last column allows. -/
structure Constrains (d d' : Definition) : Prop where
  name : d'.name = d.name
  columns : ∀ cs c, d.columns = cs ++ [c] →
    ∃ c', d'.columns = cs ++ [c'] ∧ c'.declared = c.declared

/-- A definition has the columns of another and one more, of a given name and type. -/
structure Extends (d : Definition) (column : String × Option String) (d' : Definition) : Prop where
  name : d'.name = d.name
  columns : ∃ c : StoredColumn, d'.columns = d.columns ++ [c] ∧ c.declared = column

variable {d d' d'' : Definition} {column : String × Option String}

theorem SameColumns.refl (d : Definition) : SameColumns d d := ⟨rfl, rfl⟩

theorem SameColumns.trans (h : SameColumns d d') (h' : SameColumns d' d'') : SameColumns d d'' :=
  ⟨h'.name.trans h.name, h'.columns.trans h.columns⟩

theorem SameColumns.constrains (h : SameColumns d d') : Constrains d d' :=
  ⟨h.name, fun _ c hc => ⟨c, h.columns.trans hc, rfl⟩⟩

theorem Extends.constrains (h : Extends d column d') (h' : Constrains d' d'') :
    Extends d column d'' := by
  obtain ⟨c, hcolumns, rfl⟩ := h.columns
  exact ⟨h'.name.trans h.name, h'.columns _ c hcolumns⟩

theorem extends_addColumn {name : String} {type : Option String}
    (h : d.addColumn name type = .ok d') : Extends d (name, type) d' := by
  rw [addColumn] at h
  split at h
  · exact absurd h (by simp)
  split at h
  · exact absurd h (by simp)
  obtain rfl := Except.ok.inj h
  exact ⟨rfl, _, rfl, rfl⟩

/-! ## Constraints of a column -/

theorem constrains_withLast {f : StoredColumn → StoredColumn}
    (hf : ∀ c, (f c).declared = c.declared) : Constrains d (d.withLast f) := by
  refine ⟨rfl, fun cs c hcolumns => ⟨f c, ?_, hf c⟩⟩
  simp [withLast, last, hcolumns]

theorem constrains_setDefault {e : Expression} (h : d.setDefault e = .ok d') :
    Constrains d d' := by
  rw [setDefault] at h
  split at h
  · exact absurd h (by simp)
  split at h
  · exact absurd h (by simp)
  obtain rfl := Except.ok.inj h
  exact constrains_withLast fun _ => rfl

theorem constrains_setNotNull (conflict : Option Conflict) :
    Constrains d (d.setNotNull conflict) := constrains_withLast fun _ => rfl

theorem constrains_setCollation {name : String} (h : d.setCollation name = .ok d') :
    Constrains d d' := by
  rw [setCollation] at h
  split at h
  · exact absurd h (by simp)
  next collation _ =>
    obtain rfl := Except.ok.inj h
    obtain ⟨hname, hcolumns⟩ : Constrains d (d.withLast fun c => { c with collation }) :=
      constrains_withLast fun _ => rfl
    exact ⟨hname, hcolumns⟩

theorem constrains_setComputed {e : Expression} {storage : Option Token}
    (h : d.setComputed e storage = .ok d') : Constrains d d' := by
  rw [setComputed] at h
  split at h
  · exact absurd h (by simp)
  split at h
  · exact absurd h (by simp)
  obtain rfl := Except.ok.inj h
  exact constrains_withLast fun _ => rfl

/-! ## Constraints of a table -/

theorem sameColumns_addGuard {parts : List IndexPart} {conflict : Option Conflict}
    (h : d.addGuard parts conflict = .ok d') : SameColumns d d' := by
  rw [addGuard] at h
  split at h
  · obtain rfl := Except.ok.inj h
    exact ⟨rfl, rfl⟩
  split at h
  · exact absurd h (by simp)
  · obtain rfl := Except.ok.inj h
    exact ⟨rfl, rfl⟩

theorem sameColumns_addUnique {parts : Option (List KeyPart)} {conflict : Option Conflict}
    (h : d.addUnique parts conflict = .ok d') : SameColumns d d' := by
  obtain ⟨parts, -, h⟩ := Except.bind_eq_ok.1 h
  exact sameColumns_addGuard h

theorem sameColumns_setKey {parts : Option (List KeyPart)} {descending counting : Bool}
    {conflict : Option Conflict} (h : d.setKey parts descending conflict counting = .ok d') :
    SameColumns d d' := by
  rw [setKey] at h
  obtain ⟨-, h⟩ := Except.guard_eq_ok.1 h
  obtain ⟨-, h⟩ := Except.guard_eq_ok.1 h
  obtain ⟨-, h⟩ := Except.guard_eq_ok.1 h
  dsimp only at h
  split at h
  · obtain ⟨⟨⟩, -, h⟩ := Except.bind_eq_ok.1 h
    obtain rfl := Except.ok.inj h
    exact ⟨rfl, rfl⟩
  · obtain ⟨hname, hcolumns⟩ := sameColumns_addUnique h
    exact ⟨hname, hcolumns⟩

theorem sameColumns_checkTarget {target : ForeignTarget} (h : d.checkTarget target = .ok d') :
    SameColumns d d' := by
  rw [checkTarget] at h
  split at h
  · exact absurd h (by simp)
  · obtain rfl := Except.ok.inj h
    exact .refl d

theorem sameColumns_checkForeignKey {columns : List String} {target : ForeignTarget}
    (h : d.checkForeignKey columns target = .ok d') : SameColumns d d' := by
  rw [checkForeignKey] at h
  split at h
  · exact absurd h (by simp)
  split at h
  · exact absurd h (by simp)
  · obtain rfl := Except.ok.inj h
    exact .refl d

/-! ## The whole -/

def declared (d : Definition) : List (String × Option String) :=
  d.columns.map StoredColumn.declared

theorem Extends.declared (h : Extends d column d') : d'.declared = d.declared ++ [column] := by
  obtain ⟨c, hcolumns, rfl⟩ := h.columns
  rw [Definition.declared, hcolumns, List.map_append]
  rfl

theorem SameColumns.declared (h : SameColumns d d') : d'.declared = d.declared := by
  rw [Definition.declared, h.columns, Definition.declared]

theorem declared_withStrictKey : d.withStrictKey.declared = d.declared := by
  rw [declared, declared, withStrictKey, List.map_map]
  refine List.map_congr_left fun c _ => ?_
  dsimp only [Function.comp]
  split <;> rfl

theorem withoutRowKey_eq_ok (h : d.withoutRowKey = .ok d') :
    d'.name = d.name ∧ d'.declared = d.declared := by
  rw [withoutRowKey] at h
  obtain ⟨-, h⟩ := Except.guard_eq_ok.1 h
  obtain ⟨-, h⟩ := Except.guard_eq_ok.1 h
  dsimp only at h
  have hkey : SameColumns d.withStrictKey d' := by
    split at h
    · obtain rfl := Except.ok.inj h
      exact .refl _
    · obtain ⟨hname, hcolumns⟩ := sameColumns_addGuard h
      exact ⟨hname, hcolumns⟩
  exact ⟨hkey.name, hkey.declared.trans declared_withStrictKey⟩

/-- The whole has the columns that were stated. -/
theorem complete_eq_ok {options : TableOptions} {reread : Bool}
    (h : d.complete options reread = .ok d') : d'.name = d.name ∧ d'.declared = d.declared := by
  rw [complete] at h
  have h := Except.of_check_eq_ok h
  dsimp only at h
  -- key columns that reject nulls change neither the name nor what was declared
  have hstrict : ∀ c : Bool, (if c then d.withStrictKey else d).name = d.name ∧
      (if c then d.withStrictKey else d).declared = d.declared := by
    rintro (_ | _)
    · exact ⟨rfl, rfl⟩
    · exact ⟨rfl, declared_withStrictKey⟩
  split at h
  · obtain ⟨d₁, hd₁, h⟩ := Except.bind_eq_ok.1 h
    obtain ⟨⟨⟩, -, h⟩ := Except.bind_eq_ok.1 h
    obtain rfl := Except.ok.inj h
    obtain ⟨hname, hdeclared⟩ := withoutRowKey_eq_ok hd₁
    exact ⟨hname.trans (hstrict _).1, hdeclared.trans (hstrict _).2⟩
  · obtain ⟨d₁, hd₁, h⟩ := Except.bind_eq_ok.1 h
    obtain ⟨⟨⟩, -, h⟩ := Except.bind_eq_ok.1 h
    obtain rfl := Except.ok.inj h
    obtain rfl := Except.ok.inj hd₁
    exact hstrict _

end Definition

end Accrete
