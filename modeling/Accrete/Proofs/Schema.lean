import Accrete.Proofs.Logged
import Accrete.Schema
import Mathlib.Data.List.Nodup

/-!
# Tables and columns by name

What setting a table of a schema or a column of a table does to names.

* `Bag.HasDistinctNames`       -- no two columns of a bag go by the same key
* `Bag.distinct_overlay`       -- which laying bags over each other keeps
* `Schema.nodup_put`           -- setting a table keeps names distinct
* `Schema.foldl_put`           -- setting tables of distinct names lists them
* `Schema.perm_of_find?`       -- tables that are found by name, in whatever sequence
-/

namespace Accrete

/-! ## Bags -/

namespace Bag

/-- No two columns of a bag go by the same key. -/
def HasDistinctNames (b : Bag) : Prop := b.names.Pairwise fun v w => v.sameKey w = false

theorem names_put (b : Bag) (name : Value) (f : Field) :
    (b.put name f).names =
      if b.names.any fun v => v.sameKey name then b.names else b.names ++ [name] := by
  induction b with
  | nil => rfl
  | cons e rest ih =>
    have hcons : ∀ (e : Value × Field) (b : Bag), names (e :: b) = e.1 :: names b :=
      fun _ _ => rfl
    rw [put]
    by_cases h : e.1.sameKey name = true
    · simp [h, hcons]
    · rw [if_neg h, hcons, ih, hcons, List.any_cons, Bool.eq_false_iff.2 h, Bool.false_or]
      split <;> rfl

theorem distinct_put {b : Bag} (h : b.HasDistinctNames) (name : Value) (f : Field) :
    (b.put name f).HasDistinctNames := by
  rw [HasDistinctNames, names_put]
  split
  · exact h
  next hnew =>
    refine List.pairwise_append.2 ⟨h, List.pairwise_singleton _ _, fun v hv w hw => ?_⟩
    rw [List.mem_singleton.1 hw]
    exact Bool.eq_false_iff.2 fun hsame => hnew (List.any_eq_true.2 ⟨v, hv, hsame⟩)

theorem distinct_merge {b overlay : Bag} (h : b.HasDistinctNames) :
    (b.merge overlay).HasDistinctNames := by
  rw [merge]
  induction overlay generalizing b with
  | nil => exact h
  | cons e rest ih => exact ih (distinct_put h e.1 e.2)

theorem distinct_overlay {table : Option String} {b b' : Bag} {v : Value}
    (hb : b.HasDistinctNames) (h : overlay table b v = .ok b') : b'.HasDistinctNames := by
  obtain ⟨_, _, h⟩ := Except.bind_eq_ok.1 h
  obtain rfl := Except.ok.inj h
  exact distinct_merge hb

end Bag

/-! ## Schemas -/

namespace Schema

theorem map_name_put (s : Schema) (t : Table) :
    (s.put t).map Table.name =
      if t.name ∈ s.map Table.name then s.map Table.name else s.map Table.name ++ [t.name] := by
  induction s with
  | nil => rfl
  | cons u rest ih =>
    rw [put]
    by_cases h : u.name = t.name
    · simp [h]
    · rw [if_neg h, List.map_cons, ih, List.map_cons]
      by_cases hmem : t.name ∈ rest.map Table.name
      · rw [if_pos hmem, if_pos (List.mem_cons_of_mem _ hmem)]
      · rw [if_neg hmem, if_neg (by simpa [Ne.symm h] using hmem), List.cons_append]

theorem nodup_put {s : Schema} (h : (s.map Table.name).Nodup) (t : Table) :
    ((s.put t).map Table.name).Nodup := by
  rw [map_name_put]
  split
  · exact h
  next hnew =>
    exact List.nodup_append.2 ⟨h, List.nodup_singleton _, fun a ha b hb heq =>
      hnew (List.mem_singleton.1 hb ▸ heq ▸ ha)⟩

theorem put_of_notMem {s : Schema} {t : Table} (h : t.name ∉ s.map Table.name) :
    s.put t = s ++ [t] := by
  induction s with
  | nil => rfl
  | cons u rest ih =>
    simp only [List.map_cons, List.mem_cons, not_or] at h
    rw [put, if_neg (Ne.symm h.1), ih h.2, List.cons_append]

/-- Setting tables of distinct names one after another lists them. -/
theorem foldl_put {s : Schema} {ts : List Table} (h : ((s ++ ts).map Table.name).Nodup) :
    ts.foldl put s = s ++ ts := by
  induction ts generalizing s with
  | nil => simp
  | cons t ts ih =>
    have hnew : t.name ∉ s.map Table.name := by
      rw [List.map_append, List.nodup_append] at h
      exact fun hmem => h.2.2 _ hmem t.name (by simp) rfl
    rw [List.foldl_cons, put_of_notMem hnew, ih (by simpa using h), List.append_assoc,
      List.singleton_append]

theorem find?_name {s : Schema} (h : (s.map Table.name).Nodup) {t : Table} (ht : t ∈ s) :
    s.find? t.name = some t := by
  cases hfind : s.find? t.name with
  | none => exact absurd (List.find?_eq_none.1 hfind t ht) (by simp)
  | some u =>
    have hname : u.name = t.name := by simpa using List.find?_some hfind
    rw [List.inj_on_of_nodup_map h (List.mem_of_find?_eq_some hfind) ht hname]

theorem find?_inv {s : Schema} {name : String} {t : Table} (h : s.find? name = some t) :
    t ∈ s ∧ t.name = name :=
  ⟨List.mem_of_find?_eq_some h, by simpa using List.find?_some h⟩

/-- Schemas in which the same tables are found by name list the same tables. -/
theorem perm_of_find? {s s' : Schema} (h : (s.map Table.name).Nodup)
    (h' : (s'.map Table.name).Nodup) (hfind : ∀ name, s'.find? name = s.find? name) :
    s'.Perm s := by
  rw [List.perm_ext_iff_of_nodup (.of_map _ h') (.of_map _ h)]
  intro t
  constructor
  · intro ht
    exact (find?_inv ((hfind t.name).symm.trans (find?_name h' ht))).1
  · intro ht
    exact (find?_inv ((hfind t.name).trans (find?_name h ht))).1

theorem find?_put (s : Schema) (t : Table) (name : String) :
    (s.put t).find? name = if t.name = name then some t else s.find? name := by
  induction s with
  | nil => by_cases h : t.name = name <;> simp [put, find?, h]
  | cons u rest ih =>
    rw [put]
    by_cases hu : u.name = t.name
    · by_cases h : t.name = name <;> simp [find?, hu, h]
    · rw [if_neg hu]
      by_cases h : u.name = name
      · simp [find?, h, show t.name ≠ name from fun ht => hu (h.trans ht.symm)]
      · simpa [find?, h] using ih

theorem mem_of_mem_put {s : Schema} {t u : Table} (h : u ∈ s.put t) : u ∈ s ∨ u = t := by
  induction s with
  | nil => exact .inr (List.mem_singleton.1 h)
  | cons v rest ih =>
    rw [put] at h
    split at h
    · rcases List.mem_cons.1 h with rfl | h
      · exact .inr rfl
      · exact .inl (List.mem_cons_of_mem _ h)
    · rcases List.mem_cons.1 h with rfl | h
      · exact .inl List.mem_cons_self
      · exact (ih h).imp_left (List.mem_cons_of_mem _)

theorem mem_of_mem_foldl_put {s : Schema} {ts : List Table} {u : Table}
    (h : u ∈ ts.foldl put s) : u ∈ s ∨ u ∈ ts := by
  induction ts generalizing s with
  | nil => exact .inl h
  | cons t ts ih =>
    rcases ih h with h | h
    · rcases mem_of_mem_put h with h | rfl
      · exact .inl h
      · exact .inr List.mem_cons_self
    · exact .inr (List.mem_cons_of_mem _ h)

end Schema

end Accrete
