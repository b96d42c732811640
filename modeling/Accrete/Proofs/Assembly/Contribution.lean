import Accrete.Difference
import Accrete.Proofs.Assembly.Malformed

/-!
# What fragments contribute

A fragment contributes to its own table and to no other.

* `Schema.contribution`             -- what a fragment makes of its table
* `Schema.find?_gather`             -- a table is gathered from its own fragments
* `Fragment.NamesColumnsByKeys`     -- a fragment whose indexes and constraints name columns
* `Schema.checkColumnKeys_assemble` -- those of the assembled tables do then
-/

namespace Accrete

variable {s s' : Schema} {f : Fragment} {name : String} {fs : List Fragment}

namespace Schema

/-- What a fragment makes of its table. -/
def contribution (t? : Option Table) (f : Fragment) : Except DeclarationError Table :=
  match t? with
  | none => start f <$> Bag.overlay (some f.tableName) [] f.fields
  | some t => extend t f <$> Bag.overlay (some f.tableName) t.fields f.fields

theorem contribute_eq_put : s.contribute f = s.put <$> contribution (s.find? f.tableName) f := by
  rw [contribute]
  cases s.find? f.tableName with
  | none => cases h : Bag.overlay (some f.tableName) [] f.fields <;> simp [contribution, h]
  | some t =>
    cases h : Bag.overlay (some f.tableName) t.fields f.fields <;> simp [contribution, h]

theorem name_contribution {t : Table} (h : contribution (s.find? f.tableName) f = .ok t) :
    t.name = f.tableName := by
  cases hfind : s.find? f.tableName with
  | none =>
    rw [hfind] at h
    obtain ⟨fields, -, rfl⟩ := Except.map_eq_ok.1 h
    rfl
  | some u =>
    rw [hfind] at h
    obtain ⟨fields, -, rfl⟩ := Except.map_eq_ok.1 h
    exact (find?_inv hfind).2

theorem find?_toList (s : Schema) (name : String) :
    find? (s.find? name).toList name = s.find? name := by
  cases h : s.find? name with
  | none => rfl
  | some t => simp [find?, (find?_inv h).2]

/-- A contribution to a table is the same where there are no others. -/
theorem contribute_find? (h : s.contribute f = .ok s') :
    contribute (s.find? f.tableName).toList f = .ok (s'.find? f.tableName).toList := by
  rw [contribute_eq_put] at h
  obtain ⟨t, ht, rfl⟩ := Except.map_eq_ok.1 h
  have hname := name_contribution ht
  rw [contribute_eq_put, find?_toList, find?_put, if_pos hname]
  refine Except.map_eq_ok.2 ⟨t, ht, ?_⟩
  cases hfind : s.find? f.tableName with
  | none => rfl
  | some u => simp [put, (find?_inv hfind).2, hname]

/-- Other tables stay as they are. -/
theorem find?_contribute (h : s.contribute f = .ok s') (hname : f.tableName ≠ name) :
    s'.find? name = s.find? name := by
  rw [contribute_eq_put] at h
  obtain ⟨t, ht, rfl⟩ := Except.map_eq_ok.1 h
  rw [find?_put, if_neg (name_contribution ht ▸ hname)]

/-- A table is gathered from the fragments that contribute to it. -/
theorem find?_gather (h : (gather s fs).outcome = .ok s') (name : String) :
    (gather (s.find? name).toList (fs.filter fun f => f.tableName = name)).outcome =
      .ok (s'.find? name).toList := by
  induction fs generalizing s with
  | nil =>
    obtain rfl := Except.ok.inj h
    rfl
  | cons f rest ih =>
    cases hfault : f.fault? with
    | some fault =>
      -- a malformed fragment is left out on both sides
      rw [gather_cons_of_fault? hfault] at h
      obtain ⟨⟨⟩, -, h⟩ := Logged.outcome_bind_eq_ok.1 h
      by_cases hname : f.tableName = name
      · rw [List.filter_cons_of_pos (by simpa using hname), gather_cons_of_fault? hfault,
          Logged.outcome_bind (Logged.outcome_report _)]
        exact ih h
      · rw [List.filter_cons_of_neg (by simpa using hname)]
        exact ih h
    | none =>
      rw [gather_cons_of_fault?_eq_none hfault] at h
      obtain ⟨s₁, hs₁, h⟩ := Logged.outcome_bind_eq_ok.1 h
      have hcontribute := Except.mapError_eq_ok.1 hs₁
      by_cases hname : f.tableName = name
      · subst hname
        rw [List.filter_cons_of_pos (by simp), gather_cons_of_fault?_eq_none hfault,
          Logged.outcome_bind (Except.mapError_eq_ok.2 (contribute_find? hcontribute))]
        exact ih h
      · rw [List.filter_cons_of_neg (by simpa using hname), ← find?_contribute hcontribute hname]
        exact ih h

end Schema

/-- A fragment whose indexes and unique constraints name columns by keys. -/
def Fragment.NamesColumnsByKeys (f : Fragment) : Prop :=
  (∀ i ∈ f.indexes, Value.checkKeys i.columns = .ok ()) ∧
    ∀ columns ∈ f.uniqueConstraints, Value.checkKeys columns = .ok ()

theorem Table.checkColumnKeys_eq_ok {t : Table} :
    t.checkColumnKeys = .ok () ↔
      (∀ i ∈ t.indexes, Value.checkKeys i.columns = .ok ()) ∧
        ∀ columns ∈ t.uniqueConstraints, Value.checkKeys columns = .ok () := by
  rw [checkColumnKeys, Except.bind_eq_ok, checkIndexes, Except.forM_eq_ok]
  constructor
  · rintro ⟨⟨⟩, hindexes, hconstraints⟩
    exact ⟨Except.forM_eq_ok.1 hindexes, hconstraints⟩
  · rintro ⟨hindexes, hconstraints⟩
    exact ⟨(), Except.forM_eq_ok.2 hindexes, hconstraints⟩

namespace Schema

/-- A contribution adds the indexes and constraints of the fragment to those of the table. -/
theorem contribution_eq_ok {t? : Option Table} {t : Table} (h : contribution t? f = .ok t) :
    t.indexes = (t?.elim [] Table.indexes) ++ f.indexes ∧
      t.uniqueConstraints = (t?.elim [] Table.uniqueConstraints) ++ f.uniqueConstraints := by
  cases t? with
  | none =>
    obtain ⟨fields, -, rfl⟩ := Except.map_eq_ok.1 h
    exact ⟨rfl, rfl⟩
  | some u =>
    obtain ⟨fields, -, rfl⟩ := Except.map_eq_ok.1 h
    exact ⟨rfl, rfl⟩

theorem checkColumnKeys_gather (typed : ∀ f ∈ fs, f.NamesColumnsByKeys)
    (hs : ∀ t ∈ s, t.checkColumnKeys = .ok ()) (h : (gather s fs).outcome = .ok s') :
    ∀ t ∈ s', t.checkColumnKeys = .ok () := by
  refine gather_induction (motive := fun s => ∀ t ∈ s, t.checkColumnKeys = .ok ())
    (fun f hf s s' hcontribute hs u hu => ?_) hs h
  rw [contribute_eq_put] at hcontribute
  obtain ⟨t, ht, rfl⟩ := Except.map_eq_ok.1 hcontribute
  -- only the table of the fragment is new: it keeps its own lists and gains those of the fragment
  rcases mem_of_mem_put hu with hu | rfl
  · exact hs u hu
  · obtain ⟨hindexes, hconstraints⟩ := contribution_eq_ok ht
    rw [Table.checkColumnKeys_eq_ok, hindexes, hconstraints]
    cases hfind : s.find? f.tableName with
    | none => exact typed f hf
    | some v =>
      have hv := Table.checkColumnKeys_eq_ok.1 (hs v (find?_inv hfind).1)
      simp only [Option.elim_some, List.forall_mem_append]
      exact ⟨⟨hv.1, (typed f hf).1⟩, hv.2, (typed f hf).2⟩

/-- The tables of an assembled schema have references that can be followed, and their indexes and
    constraints name columns if those of the fragments do. -/
theorem checkColumnKeys_assemble (typed : ∀ f ∈ fs, f.NamesColumnsByKeys)
    (h : (assemble fs).outcome = .ok s) :
    ∀ t ∈ s, t.checkReferences = .ok () ∧ t.checkColumnKeys = .ok () := by
  obtain ⟨gathered, hgathered, hcheck, rfl⟩ := assemble_eq_ok.1 h
  intro t ht
  obtain ⟨u, hu, rfl⟩ := List.mem_map.1 ht
  exact ⟨Table.checkReferences_resolved (hcheck u hu),
    checkColumnKeys_gather typed (s := []) (by simp) hgathered u hu⟩

end Schema

end Accrete
