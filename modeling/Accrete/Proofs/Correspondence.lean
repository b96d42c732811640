import Mathlib.Data.List.Forall2

/-!
# Lists that correspond

Two lists whose items correspond one by one.

* `map_eq_of_forall₂`           -- what corresponds by way of a function
* `exists_mem_zip_of_forall₂`   -- an item has a counterpart at its place
* `exists_map_of_forall₂`       -- a list of counterparts of a certain form
* `exists_forall₂_zip`          -- what corresponds by way of a third list
* `eq_of_forall₂`               -- what corresponds to the same list
* `forall₂_flatMap`             -- lists that are made of the items of one list
* `forall₂_filter`              -- items that are left out on both sides
* `pairwise_iff_of_forall₂`     -- items that are related to later ones on both sides
-/

namespace Accrete

theorem map_eq_of_forall₂ {α β : Type} {f : α → β} {xs : List α} {ys : List β}
    (h : List.Forall₂ (fun x y => f x = y) xs ys) : xs.map f = ys :=
  List.forall₂_eq_eq_eq ▸ List.forall₂_map_left_iff.2 h

theorem map_eq_map_of_forall₂ {α β γ : Type} {f : α → γ} {g : β → γ} {xs : List α} {ys : List β}
    (h : List.Forall₂ (fun x y => f x = g y) xs ys) : xs.map f = ys.map g :=
  map_eq_of_forall₂ (List.forall₂_map_right_iff.2 h)

theorem exists_map_of_forall₂ {α β γ : Type} {P : α → β → Prop} {R : α → γ → Prop} {f : γ → β}
    {xs : List α} {ys : List β} (h : List.Forall₂ P xs ys)
    (hP : ∀ x ∈ xs, ∀ y, P x y → ∃ z, y = f z ∧ R x z) :
    ∃ zs, ys = zs.map f ∧ List.Forall₂ R xs zs := by
  induction h with
  | nil => exact ⟨[], rfl, .nil⟩
  | @cons x y xs ys hxy _ ih =>
    obtain ⟨z, rfl, hz⟩ := hP x List.mem_cons_self y hxy
    obtain ⟨zs, rfl, hzs⟩ := ih fun x hx => hP x (List.mem_cons_of_mem _ hx)
    exact ⟨z :: zs, rfl, .cons hz hzs⟩

theorem exists_mem_zip_of_forall₂ {α β : Type} {P : α → β → Prop} {xs : List α} {ys : List β}
    (h : List.Forall₂ P xs ys) {x : α} (hx : x ∈ xs) : ∃ y, P x y ∧ (y, x) ∈ ys.zip xs := by
  induction h with
  | nil => exact absurd hx List.not_mem_nil
  | @cons x' y xs ys hxy _ ih =>
    rcases List.mem_cons.1 hx with rfl | hx
    · exact ⟨y, hxy, List.mem_cons_self⟩
    · obtain ⟨y, hy, hmem⟩ := ih hx
      exact ⟨y, hy, List.mem_cons_of_mem _ hmem⟩

theorem exists_forall₂_zip {α β γ : Type} {P : α → β → Prop} {Q : α × β → γ → Prop}
    {xs : List α} {zs : List γ} :
    (∃ ys, List.Forall₂ P xs ys ∧ List.Forall₂ Q (xs.zip ys) zs) ↔
      List.Forall₂ (fun x z => ∃ y, P x y ∧ Q (x, y) z) xs zs := by
  induction xs generalizing zs with
  | nil => simp
  | cons x xs ih =>
    simp only [List.forall₂_cons_left_iff, ← ih]
    constructor
    · rintro ⟨_, ⟨y, ys, hy, hys, rfl⟩, h⟩
      obtain ⟨z, zs, hz, hzs, rfl⟩ := List.forall₂_cons_left_iff.1 h
      exact ⟨z, zs, ⟨y, hy, hz⟩, ⟨ys, hys, hzs⟩, rfl⟩
    · rintro ⟨z, zs, ⟨y, hy, hz⟩, ⟨ys, hys, hzs⟩, rfl⟩
      exact ⟨y :: ys, ⟨y, ys, hy, hys, rfl⟩, .cons hz hzs⟩

theorem eq_of_forall₂ {α β : Type} {P Q : α → β → Prop} {xs : List α} {ys zs : List β}
    (hys : List.Forall₂ P xs ys) (hzs : List.Forall₂ Q xs zs)
    (h : ∀ x ∈ xs, ∀ y z, P x y → Q x z → y = z) : ys = zs := by
  induction hys generalizing zs with
  | nil => exact (List.forall₂_nil_left_iff.1 hzs).symm
  | @cons x y xs ys hy _ ih =>
    obtain ⟨z, zs, hz, hrest, rfl⟩ := List.forall₂_cons_left_iff.1 hzs
    rw [h x List.mem_cons_self y z hy hz, ih hrest fun x hx => h x (List.mem_cons_of_mem _ hx)]

theorem forall₂_flatMap {α β γ : Type} {R : β → γ → Prop} {f : α → List β} {g : α → List γ}
    {xs : List α} (h : ∀ x ∈ xs, List.Forall₂ R (f x) (g x)) :
    List.Forall₂ R (xs.flatMap f) (xs.flatMap g) := by
  induction xs with
  | nil => exact .nil
  | cons x xs ih =>
    obtain ⟨hx, hxs⟩ := List.forall_mem_cons.1 h
    exact List.rel_append hx (ih hxs)

theorem forall₂_filter {α β : Type} {R : α → β → Prop} {p : α → Bool} {q : β → Bool} {xs : List α}
    {ys : List β} (h : List.Forall₂ R xs ys) (hpq : ∀ x ∈ xs, ∀ y, R x y → p x = q y) :
    List.Forall₂ R (xs.filter p) (ys.filter q) := by
  induction h with
  | nil => exact .nil
  | @cons x y xs ys hxy _ ih =>
    have ih := ih fun x hx => hpq x (List.mem_cons_of_mem _ hx)
    rw [List.filter_cons, List.filter_cons, ← hpq x List.mem_cons_self y hxy]
    split
    · exact .cons hxy ih
    · exact ih

theorem pairwise_iff_of_forall₂ {α β : Type} {P : α → β → Prop} {R : α → α → Prop}
    {S : β → β → Prop} {xs : List α} {ys : List β} (h : List.Forall₂ P xs ys)
    (hRS : ∀ x y x' y', P x y → P x' y' → (R x x' ↔ S y y')) : xs.Pairwise R ↔ ys.Pairwise S := by
  induction h with
  | nil => simp
  | @cons x y xs ys hxy hrest ih =>
    rw [List.pairwise_cons, List.pairwise_cons, ih]
    refine and_congr_left fun _ => ⟨fun hR y' hy' => ?_, fun hS x' hx' => ?_⟩
    · obtain ⟨x', hxy', hmem⟩ := exists_mem_zip_of_forall₂ hrest.flip hy'
      exact (hRS x y x' y' hxy hxy').1 (hR x' (List.of_mem_zip hmem).1)
    · obtain ⟨y', hxy', hmem⟩ := exists_mem_zip_of_forall₂ hrest hx'
      exact (hRS x y x' y' hxy hxy').2 (hS y' (List.of_mem_zip hmem).1)

end Accrete
