import Accrete.Proofs.Assembly.Contribution
import Accrete.Proofs.Assembly.Loose
import Mathlib.Data.List.FinRange

/-!
# Fragments in another sequence

Fragments that have neither a logical key nor a table in common may be declared in any sequence.

* `Fragment.IsRelated`     -- fragments whose sequence counts
* `Shuffled`               -- the same fragments at other places
* `Shuffled.filter_eq`     -- related fragments are listed alike
* `Shuffled.perm_assemble` -- the same tables are assembled
-/

namespace Accrete

/-- Two fragments have a logical key or a table in common. -/
def Fragment.IsRelated (f g : Fragment) : Prop := f.key = g.key ∨ f.tableName = g.tableName

instance (f g : Fragment) : Decidable (f.IsRelated g) := inferInstanceAs (Decidable (_ ∨ _))

/-- The same fragments, each at a place of its own, where related ones keep their sequence. -/
def Shuffled (fs gs : List Fragment) : Prop :=
  ∃ place : Fin fs.length ≃ Fin gs.length, (∀ i, gs.get (place i) = fs.get i) ∧
    ∀ i j, i < j → (fs.get i).IsRelated (fs.get j) → place i < place j

namespace Shuffled

variable {fs gs : List Fragment} (h : Shuffled fs gs)
include h

theorem mem_iff {f : Fragment} : f ∈ gs ↔ f ∈ fs := by
  obtain ⟨place, hget, -⟩ := h
  rw [List.mem_iff_get, List.mem_iff_get, ← place.surjective.exists.symm]
  simp only [hget]

/-- Fragments of which any two are related are listed alike. -/
theorem filter_eq {p : Fragment → Bool} (hp : ∀ f g, p f = true → p g = true → f.IsRelated g) :
    gs.filter p = fs.filter p := by
  obtain ⟨place, hget, hkeeps⟩ := h
  have hplaces : ∀ xs : List Fragment,
      xs.filter p = ((List.finRange xs.length).filter (p ∘ xs.get)).map xs.get := by
    intro xs
    rw [← List.filter_map, List.map_get_finRange]
  have hsorted : ∀ n (q : Fin n → Bool), ((List.finRange n).filter q).Pairwise (· < ·) :=
    fun n q => (List.pairwise_lt_finRange n).filter q
  -- the places of the one list are taken to those of the other, in sequence
  have hmoved : ((List.finRange fs.length).filter (p ∘ fs.get)).map place =
      (List.finRange gs.length).filter (p ∘ gs.get) := by
    refine List.Perm.eq_of_pairwise (fun a b _ _ hab hba => absurd hab (lt_asymm hba)) ?_
      (hsorted _ _) ?_
    · refine List.pairwise_map.2 ((hsorted _ _).imp_of_mem fun {i j} hi hj hij => ?_)
      exact hkeeps i j hij (hp _ _ (List.mem_filter.1 hi).2 (List.mem_filter.1 hj).2)
    · refine (List.perm_ext_iff_of_nodup ?_ ?_).2 fun i => ?_
      · exact ((List.nodup_finRange _).filter _).map place.injective
      · exact (List.nodup_finRange _).filter _
      · simp only [List.mem_map, List.mem_filter, List.mem_finRange, true_and, Function.comp_apply,
          ← hget]
        exact ⟨fun ⟨j, hj, hji⟩ => hji ▸ hj, fun hi => ⟨place.symm i, by simpa using hi, by simp⟩⟩
  calc gs.filter p = ((List.finRange gs.length).filter (p ∘ gs.get)).map gs.get := hplaces gs
    _ = ((List.finRange fs.length).filter (p ∘ fs.get)).map fs.get := by
      rw [← hmoved, List.map_map]
      exact List.map_congr_left fun i _ => hget i
    _ = fs.filter p := (hplaces fs).symm

theorem physicalName_eq : Schema.physicalName gs = Schema.physicalName fs := by
  funext key
  have hlast : ∀ xs : List Fragment, Schema.physicalName? xs key =
      (xs.filter fun f => f.key = key).getLast?.map Fragment.tableName := by
    intro xs
    rw [Schema.physicalName?, ← List.head?_filter, List.filter_reverse, List.head?_reverse]
  have hkeyed := h.filter_eq (p := fun f => f.key = key) fun f g hf hg => .inl (by simp_all)
  rw [Schema.physicalName, Schema.physicalName, hlast, hlast, hkeyed]

/-- The same tables are gathered, in another sequence. -/
theorem perm_gather {s : Schema} (hs : (Schema.gather [] fs).outcome = .ok s) :
    ∃ s', (Schema.gather [] gs).outcome = .ok s' ∧ s'.Perm s := by
  have hread := Schema.exists_gather_iff.1 ⟨s, hs⟩
  obtain ⟨s', hs'⟩ : ∃ s', (Schema.gather [] gs).outcome = .ok s' :=
    Schema.exists_gather_iff.2 fun f hf => hread f (h.mem_iff.1 hf)
  refine ⟨s', hs', Schema.perm_of_find? (Schema.gather_inv (s := []) List.nodup_nil hs).1
    (Schema.gather_inv (s := []) List.nodup_nil hs').1 fun name => ?_⟩
  have hown := Schema.find?_gather hs name
  have hown' := Schema.find?_gather hs' name
  rw [h.filter_eq fun f g hf hg => .inr (by simp_all)] at hown'
  have hsame := Except.ok.inj (hown'.symm.trans hown)
  cases hfound : s.find? name <;> cases hfound' : s'.find? name <;> simp_all

/-- The same tables are assembled, in another sequence. -/
theorem perm_assemble {s : Schema} (hs : (Schema.assemble fs).outcome = .ok s) :
    ∃ s', (Schema.assemble gs).outcome = .ok s' ∧ s'.Perm s := by
  obtain ⟨gathered, hgathered, hcheck, rfl⟩ := Schema.assemble_eq_ok.1 hs
  obtain ⟨gathered', hgathered', hperm⟩ := h.perm_gather hgathered
  refine ⟨_, Schema.assemble_eq_ok.2 ⟨gathered', hgathered',
    fun t ht => hcheck t (hperm.mem_iff.1 ht), rfl⟩, ?_⟩
  -- references are resolved by the same names
  rw [Schema.map_resolved_inj.2 fun m _ => congrFun h.physicalName_eq m]
  exact hperm.map _

end Shuffled

end Accrete
