import Accrete.CreationOrder
import Accrete.Proofs.Assembly

/-!
# What references are resolved to

The references of a schema after resolution, as a function of the names that fragments give.

* `Schema.physicalName`       -- the name of the table with a logical key
* `Reference.resolved`, `Field.resolved`, `Table.resolved` -- what resolution makes of each
* `Schema.resolve_eq_ok`      -- resolution succeeds on references that can be followed
* `Schema.assemble_eq_ok`     -- and so does assembly, after gathering
* `Schema.Mentions`           -- a reference of a schema names its table by a text
* `Schema.map_resolved_inj`   -- what it yields depends on the names of mentioned tables only
-/

namespace Accrete

/-- The name of the table with a logical key, which is the key itself if no fragment has it. -/
def Schema.physicalName (fragments : List Fragment) (key : String) : String :=
  (physicalName? fragments key).getD key

variable {fragments fragments' : List Fragment}

namespace Reference

/-- A reference whose model is the physical name of what it names. -/
def resolved (fragments : List Fragment) (r : Reference) : Reference :=
  match r.model.text? with
  | none => r
  | some m =>
    let name := Schema.physicalName fragments m
    if m = name then r else { r with model := .text name }

theorem resolve_eq_ok {r r' : Reference} :
    Schema.resolveReference fragments r = .ok r' ↔
      r.model.checkKey = .ok () ∧ r' = r.resolved fragments := by
  rw [Schema.resolveReference, Except.bind_eq_ok]
  refine ⟨fun ⟨(), hkey, h⟩ => ⟨hkey, ?_⟩, fun ⟨hkey, h⟩ => ⟨(), hkey, ?_⟩⟩
  all_goals
    unfold resolved Schema.physicalName at *
    cases hm : r.model.text? with
    | none => simp_all
    | some m => cases hname : Schema.physicalName? fragments m <;> simp_all

theorem resolved_of_text?_eq_none {r : Reference} (h : r.model.text? = none) :
    r.resolved fragments = r := by
  rw [resolved, h]

theorem text?_model_resolved {r : Reference} {m : String} (h : r.model.text? = some m) :
    (r.resolved fragments).model.text? = some (Schema.physicalName fragments m) := by
  rw [resolved, h]
  by_cases hname : m = Schema.physicalName fragments m
  · simpa [← hname] using h
  · simp [hname, Value.text?]

theorem checkKey_resolved {r : Reference} (h : r.model.checkKey = .ok ()) :
    (r.resolved fragments).model.checkKey = .ok () := by
  rw [resolved]
  cases r.model.text? with
  | none => exact h
  | some m =>
    by_cases hname : m = Schema.physicalName fragments m
    · simpa [← hname] using h
    · simp [hname, Value.checkKey, Value.notKey?]

theorem resolved_inj {r : Reference} :
    r.resolved fragments = r.resolved fragments' ↔
      ∀ m, r.model.text? = some m →
        Schema.physicalName fragments m = Schema.physicalName fragments' m := by
  constructor
  · intro h m hm
    have htexts := congrArg (fun s => s.model.text?) h
    simp only [text?_model_resolved hm] at htexts
    exact Option.some.inj htexts
  · intro h
    cases hm : r.model.text? with
    | none => rw [resolved_of_text?_eq_none hm, resolved_of_text?_eq_none hm]
    | some m => simp only [resolved, hm, h m hm]

end Reference

namespace Field

def resolved (fragments : List Fragment) (f : Field) : Field :=
  match f.references with
  | .reference r => { f with references := .reference (r.resolved fragments) }
  | _ => f

theorem resolve_eq_ok {f f' : Field} :
    Schema.resolveField fragments f = .ok f' ↔
      f.checkReference = .ok () ∧ f' = f.resolved fragments := by
  obtain ⟨type, required, unique, bigint, indexed, fieldName, references, default⟩ := f
  rw [Schema.resolveField, Except.bind_eq_ok]
  cases references with
  | reference r =>
    simp only [Schema.resolveTarget, Except.map_eq_ok, Reference.resolve_eq_ok, checkReference,
      resolved]
    constructor
    · rintro ⟨_, ⟨_, ⟨hkey, rfl⟩, rfl⟩, h⟩
      exact ⟨hkey, (Except.pure_eq_ok.1 h).symm⟩
    · rintro ⟨hkey, rfl⟩
      exact ⟨_, ⟨_, ⟨hkey, rfl⟩, rfl⟩, rfl⟩
  | null => simp [Schema.resolveTarget, checkReference, resolved, eq_comm (a := f')]
  | _ => simp [Schema.resolveTarget, checkReference]

theorem resolved_of_reference?_eq_none {f : Field} (h : f.reference? = none) :
    f.resolved fragments = f := by
  unfold reference? at h
  unfold resolved
  split <;> simp_all

theorem resolved_of_reference? {f : Field} {r : Reference} (h : f.reference? = some r) :
    f.resolved fragments = { f with references := .reference (r.resolved fragments) } := by
  unfold reference? at h
  unfold resolved
  split <;> simp_all

theorem checkReference_resolved {f : Field} (h : f.checkReference = .ok ()) :
    (f.resolved fragments).checkReference = .ok () := by
  obtain ⟨type, required, unique, bigint, indexed, fieldName, references, default⟩ := f
  cases references with
  | reference r => exact Reference.checkKey_resolved h
  | _ => exact h

theorem resolved_inj {f : Field} :
    f.resolved fragments = f.resolved fragments' ↔
      ∀ r, f.reference? = some r → r.resolved fragments = r.resolved fragments' := by
  cases hr : f.reference? with
  | none => simp [resolved_of_reference?_eq_none hr]
  | some r => simp [resolved_of_reference? hr]

end Field

namespace Table

def resolved (fragments : List Fragment) (t : Table) : Table :=
  { t with fields := t.fields.map fun e => (e.1, e.2.resolved fragments) }

theorem resolve_eq_ok {t t' : Table} :
    Schema.resolveTable fragments t = .ok t' ↔
      t.checkReferences = .ok () ∧ t' = t.resolved fragments := by
  -- a table is resolved entry by entry, and an entry by its field
  have hentry : ∀ e e' : Value × Field,
      (do return (e.1, ← Schema.resolveField fragments e.2) : Except Misuse _) = .ok e' ↔
        e.2.checkReference = .ok () ∧ e' = (e.1, e.2.resolved fragments) := by
    intro e e'
    simp only [Except.bind_eq_ok, Field.resolve_eq_ok, Except.pure_eq_ok]
    constructor
    · rintro ⟨_, ⟨hcheck, rfl⟩, he⟩
      exact ⟨hcheck, he.symm⟩
    · rintro ⟨hcheck, rfl⟩
      exact ⟨_, ⟨hcheck, rfl⟩, rfl⟩
  rw [Schema.resolveTable, Except.bind_eq_ok, checkReferences, Except.forM_eq_ok]
  simp only [Except.mapM_eq_ok_map hentry, Except.pure_eq_ok]
  constructor
  · rintro ⟨_, ⟨hcheck, rfl⟩, ht⟩
    exact ⟨hcheck, ht.symm⟩
  · rintro ⟨hcheck, rfl⟩
    exact ⟨_, ⟨hcheck, rfl⟩, rfl⟩

theorem checkReferences_resolved {t : Table} (h : t.checkReferences = .ok ()) :
    (t.resolved fragments).checkReferences = .ok () := by
  rw [checkReferences, Except.forM_eq_ok] at h ⊢
  intro resolved hresolved
  obtain ⟨e, he, rfl⟩ := List.mem_map.1 hresolved
  exact Field.checkReference_resolved (h e he)

theorem resolved_inj {t : Table} :
    t.resolved fragments = t.resolved fragments' ↔
      ∀ e ∈ t.fields, e.2.resolved fragments = e.2.resolved fragments' := by
  simp [resolved]

end Table

namespace Schema

variable {s s' : Schema}

theorem resolve_eq_ok :
    resolve fragments s = .ok s' ↔
      (∀ t ∈ s, t.checkReferences = .ok ()) ∧ s' = s.map (Table.resolved fragments) :=
  Except.mapM_eq_ok_map fun _ _ => Table.resolve_eq_ok

/-- Assembly gathers, and then resolves references that can all be followed. -/
theorem assemble_eq_ok :
    (assemble fragments).outcome = .ok s ↔
      ∃ gathered, (gather [] fragments).outcome = .ok gathered ∧
        (∀ t ∈ gathered, t.checkReferences = .ok ()) ∧
        s = gathered.map (Table.resolved fragments) := by
  simp only [assemble, Logged.outcome_bind_eq_ok, Logged.outcome_ofExcept, Except.mapError_eq_ok,
    resolve_eq_ok]
  constructor
  · rintro ⟨gathered, hgathered, _, ⟨hcheck, rfl⟩, ⟨⟩, -, h⟩
    exact ⟨gathered, hgathered, hcheck, (Except.ok.inj h).symm⟩
  · rintro ⟨gathered, hgathered, hcheck, rfl⟩
    exact ⟨gathered, hgathered, _, ⟨hcheck, rfl⟩, (), rfl, rfl⟩

/-- A reference of the schema names its table by a text. -/
def Mentions (s : Schema) (m : String) : Prop :=
  ∃ t ∈ s, ∃ e ∈ t.fields, ∃ r, e.2.reference? = some r ∧ r.model.text? = some m

/-- Two lists of fragments resolve a schema alike just where they give the same names to the
    tables that it mentions. -/
theorem map_resolved_inj :
    s.map (Table.resolved fragments) = s.map (Table.resolved fragments') ↔
      ∀ m, s.Mentions m → physicalName fragments m = physicalName fragments' m := by
  rw [List.map_inj_left]
  simp only [Table.resolved_inj, Field.resolved_inj, Reference.resolved_inj, Mentions]
  exact ⟨fun h m ⟨t, ht, e, he, r, hr, hm⟩ => h t ht e he r hr m hm,
    fun h t ht e he r hr m hm => h m ⟨t, ht, e, he, r, hr, hm⟩⟩

end Schema

end Accrete
