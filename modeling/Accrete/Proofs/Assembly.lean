import Accrete.Proofs.Schema
import Accrete.Schema.Assembly

/-!
# What assembly yields

The outcome of assembly, read back.

* `Schema.gather_induction`                       -- what contributions keep is kept
* `Schema.gather_inv`, `Schema.gather_distinct`   -- gathering keeps names distinct
* `Schema.assemble_nodup`                         -- assembled tables have distinct names
* `Schema.assemble_distinct`                      -- and so have the columns of each
* `Schema.orderViolated_assemble`                 -- which order violations are reported
-/

namespace Accrete.Schema

/-- A contribution sets one table, with the fields of the fragment merged into those of the table
    that was there. -/
theorem contribute_eq_ok {s s' : Schema} {f : Fragment} (h : s.contribute f = .ok s') :
    ∃ t base, s' = s.put t ∧ Bag.overlay (some f.tableName) base f.fields = .ok t.fields ∧
      (base = [] ∨ ∃ u ∈ s, base = u.fields) := by
  rw [contribute] at h
  split at h
  · obtain ⟨fields, hfields, h⟩ := Except.bind_eq_ok.1 h
    exact ⟨_, [], (Except.ok.inj h).symm, hfields, .inl rfl⟩
  next t ht =>
    obtain ⟨fields, hfields, h⟩ := Except.bind_eq_ok.1 h
    exact ⟨_, t.fields, (Except.ok.inj h).symm, hfields,
      .inr ⟨t, List.mem_of_find?_eq_some ht, rfl⟩⟩

/-- What every contribution keeps is kept by gathering. -/
theorem gather_induction {motive : Schema → Prop} {fragments : List Fragment}
    (hstep : ∀ f ∈ fragments, ∀ s s', s.contribute f = .ok s' → motive s → motive s')
    {s s' : Schema} (hs : motive s) (h : (gather s fragments).outcome = .ok s') : motive s' := by
  induction fragments generalizing s with
  | nil => exact Except.ok.inj h ▸ hs
  | cons f rest ih =>
    obtain ⟨hf, hrest⟩ := List.forall_mem_cons.1 hstep
    rw [gather] at h
    cases hcontribute : s.contribute f with
    | ok s₁ =>
      rw [hcontribute] at h
      exact ih hrest (hf s s₁ hcontribute hs) h
    | error cause =>
      rw [hcontribute] at h
      cases cause with
      | misused cause => exact absurd h (by simp [Logged.fail])
      | refused fault =>
        -- a refused fragment is reported, and the tables stay as they are
        obtain ⟨_, _, h⟩ := Logged.outcome_bind_eq_ok.1 h
        exact ih hrest hs h

/-- Gathering keeps names distinct, and only reports fragments that it leaves out. -/
theorem gather_inv {s s' : Schema} {fragments : List Fragment} (h : (s.map Table.name).Nodup)
    (hgather : (gather s fragments).outcome = .ok s') :
    (s'.map Table.name).Nodup ∧
      ∀ e ∈ (gather s fragments).events, ∃ table fault, e = .fragmentSkipped table fault := by
  induction fragments generalizing s with
  | nil =>
    obtain rfl := Except.ok.inj hgather
    exact ⟨h, fun e he => absurd he List.not_mem_nil⟩
  | cons f rest ih =>
    rw [gather] at hgather ⊢
    cases hcontribute : s.contribute f with
    | ok s₁ =>
      obtain ⟨t, _, rfl, -⟩ := contribute_eq_ok hcontribute
      simp only [hcontribute] at hgather ⊢
      exact ih (nodup_put h t) hgather
    | error cause =>
      simp only [hcontribute] at hgather ⊢
      cases cause with
      | misused cause => exact absurd hgather (by simp [Logged.fail])
      | refused fault =>
        -- the fragment is left out, which is reported
        obtain ⟨_, _, hgather⟩ := Logged.outcome_bind_eq_ok.1 hgather
        obtain ⟨hnodup, hevents⟩ := ih h hgather
        refine ⟨hnodup, fun e he => ?_⟩
        rw [Logged.events_bind (Logged.outcome_report _)] at he
        rcases List.mem_append.1 he with he | he
        · exact ⟨_, _, List.mem_singleton.1 he⟩
        · exact hevents e he

theorem gather_distinct {s s' : Schema} {fragments : List Fragment}
    (h : ∀ t ∈ s, t.fields.HasDistinctNames) (hgather : (gather s fragments).outcome = .ok s') :
    ∀ t ∈ s', t.fields.HasDistinctNames := by
  refine gather_induction (motive := fun s => ∀ t ∈ s, t.fields.HasDistinctNames)
    (fun f _ s s' hcontribute hs u hu => ?_) h hgather
  obtain ⟨t, base, rfl, hfields, hbase⟩ := contribute_eq_ok hcontribute
  rcases mem_of_mem_put hu with hu | rfl
  · exact hs u hu
  · rcases hbase with rfl | ⟨v, hv, rfl⟩
    · exact Bag.distinct_overlay (b := []) .nil hfields
    · exact Bag.distinct_overlay (hs v hv) hfields

theorem resolveTable_inv {fragments : List Fragment} {t t' : Table}
    (h : resolveTable fragments t = .ok t') :
    t.name = t'.name ∧ t.fields.names = t'.fields.names := by
  obtain ⟨fields, hfields, h⟩ := Except.bind_eq_ok.1 h
  obtain rfl := Except.pure_eq_ok.1 h
  refine ⟨rfl, ?_⟩
  refine map_eq_map_of_forall₂ ((Except.mapM_eq_ok.1 hfields).imp fun e e' he => ?_)
  obtain ⟨f, _, he⟩ := Except.bind_eq_ok.1 he
  obtain rfl := Except.ok.inj he
  rfl

theorem resolve_inv {fragments : List Fragment} {s s' : Schema} (h : resolve fragments s = .ok s') :
    s'.map Table.name = s.map Table.name :=
  (map_eq_map_of_forall₂ ((Except.mapM_eq_ok.1 h).imp fun _ _ ht => (resolveTable_inv ht).1)).symm

section Assembled

variable {fragments : List Fragment} {s : Schema} (h : (assemble fragments).outcome = .ok s)
include h

theorem assemble_inv :
    ∃ gathered, (gather [] fragments).outcome = .ok gathered ∧ resolve fragments gathered = .ok s ∧
      (assemble fragments).events = (gather [] fragments).events ++ s.orderWarnings := by
  obtain ⟨gathered, hgathered, h⟩ := Logged.outcome_bind_eq_ok.1 h
  obtain ⟨resolved, hresolved, h⟩ := Logged.outcome_bind_eq_ok.1 h
  obtain ⟨⟨⟩, -, h⟩ := Logged.outcome_bind_eq_ok.1 h
  obtain rfl := Except.ok.inj h
  refine ⟨gathered, hgathered, Except.mapError_eq_ok.1 hresolved, ?_⟩
  rw [assemble, Logged.events_bind hgathered, Logged.events_bind hresolved,
    Logged.events_bind (Logged.outcome_report _)]
  simp

/-- The tables of an assembled schema have distinct names. -/
theorem assemble_nodup : (s.map Table.name).Nodup := by
  obtain ⟨gathered, hgathered, hresolved, -⟩ := assemble_inv h
  rw [resolve_inv hresolved]
  exact (gather_inv (s := []) List.nodup_nil hgathered).1

/-- No two columns of a table of an assembled schema go by the same key. -/
theorem assemble_distinct : ∀ t ∈ s, t.fields.HasDistinctNames := by
  obtain ⟨gathered, hgathered, hresolved, -⟩ := assemble_inv h
  intro t ht
  obtain ⟨u, hu, hut⟩ := Except.exists_of_mem_mapM hresolved ht
  rw [Bag.HasDistinctNames, ← (resolveTable_inv hut).2]
  exact gather_distinct (s := []) (by simp) hgathered u hu

/-- What is reported is about assembly. -/
theorem source_assemble : ∀ e ∈ (assemble fragments).events, e.source = .assembly := by
  obtain ⟨gathered, hgathered, -, hevents⟩ := assemble_inv h
  rw [hevents]
  intro e he
  rcases List.mem_append.1 he with he | he
  · obtain ⟨_, _, rfl⟩ := (gather_inv (s := []) List.nodup_nil hgathered).2 e he
    rfl
  · obtain ⟨t, -, he⟩ := List.mem_flatMap.1 he
    obtain ⟨f, -, he⟩ := List.mem_filterMap.1 he
    obtain ⟨target, -, rfl⟩ := Option.map_eq_some_iff.1 he
    rfl

/-- Assembly reports the order violations of the schema it yields, and no others. -/
theorem orderViolated_assemble {table target column : String} {order targetOrder : Number} :
    .orderViolated table order target targetOrder column ∈ (assemble fragments).events ↔
      .orderViolated table order target targetOrder column ∈ s.orderWarnings := by
  obtain ⟨gathered, hgathered, -, hevents⟩ := assemble_inv h
  have hskipped : .orderViolated table order target targetOrder column ∉
      (gather [] fragments).events := by
    intro hmem
    obtain ⟨_, _, heq⟩ := (gather_inv (s := []) List.nodup_nil hgathered).2 _ hmem
    exact absurd heq (by simp)
  rw [hevents, List.mem_append, or_iff_right hskipped]

end Assembled

end Accrete.Schema
