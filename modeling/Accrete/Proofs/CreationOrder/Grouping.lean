import Accrete.Proofs.Keys
import Mathlib.Data.List.SplitBy
import Mathlib.Data.List.TakeWhile

/-!
# Runs of equal order

How a list in ascending order is cut into runs of equal order.

* `orderGroups_cons`               -- the first run, and the runs of the rest
* `filter_flatMap_orderGroups`     -- working run by run, seen from one order
* `pairwise_flatMap_orderGroups`   -- working run by run keeps the order ascending
-/

namespace Accrete

variable {α β : Type} {order : α → Number}

theorem flatten_orderGroups (order : α → Number) (xs : List α) :
    (orderGroups order xs).flatten = xs := List.flatten_splitBy ..

theorem same_of_mem_takeWhile {o : Number} {xs : List α} {a : α}
    (h : a ∈ xs.takeWhile fun a => (order a).same o) : (order a).same o = true :=
  List.mem_takeWhile_imp (p := fun a => (order a).same o) h

/-- What comes after the first run lies strictly later than it. -/
theorem rank_lt_of_mem_dropWhile {x : α} {xs : List α}
    (sorted : (x :: xs).Pairwise fun a b => (order a).rank ≤ (order b).rank) {b : α}
    (hb : b ∈ (x :: xs).dropWhile fun a => (order a).same (order x)) :
    (order x).rank < (order b).rank := by
  have hsublist : ((x :: xs).dropWhile fun a => (order a).same (order x)).Sublist (x :: xs) :=
    List.dropWhile_sublist _
  generalize hrest : ((x :: xs).dropWhile fun a => (order a).same (order x)) = rest at hb hsublist
  cases rest with
  | nil => exact absurd hb List.not_mem_nil
  | cons c rest =>
    have hc : (order c).same (order x) = false := by
      simpa [hrest] using List.head_dropWhile_not (fun a => (order a).same (order x))
        (l := x :: xs) (by simp [hrest])
    have hle : ∀ a ∈ x :: xs, (order x).rank ≤ (order a).rank := by
      intro a ha
      rcases List.mem_cons.1 ha with rfl | ha
      · exact le_refl _
      · exact List.rel_of_pairwise_cons sorted ha
    -- the first item that is left is of another order, and sorting leaves only later ones
    have hlt : (order x).rank < (order c).rank := by
      refine lt_of_le_of_ne (hle c (hsublist.subset List.mem_cons_self)) fun heq => ?_
      rw [Number.same_iff.2 heq.symm] at hc
      exact absurd hc (by decide)
    rcases List.mem_cons.1 hb with rfl | hb
    · exact hlt
    · exact hlt.trans_le (List.rel_of_pairwise_cons (sorted.sublist hsublist) hb)

/-- The first run holds what is of the order of the first item. -/
theorem orderGroups_cons (x : α) (xs : List α) :
    orderGroups order (x :: xs) =
      (x :: xs).takeWhile (fun a => (order a).same (order x)) ::
        orderGroups order ((x :: xs).dropWhile fun a => (order a).same (order x)) := by
  have hrun : ∀ a ∈ (x :: xs).takeWhile (fun a => (order a).same (order x)),
      (order a).rank = (order x).rank := fun a ha => Number.same_iff.1 (same_of_mem_takeWhile ha)
  have hchain : ((x :: xs).takeWhile fun a => (order a).same (order x)).IsChain
      fun a b => (order a).same (order b) = true := by
    refine List.Pairwise.isChain (List.pairwise_of_forall_mem_list fun a ha b hb => ?_)
    rw [Number.same_iff, hrun a ha, hrun b hb]
  -- the items of the order form one chain, and the first item after them breaks it
  conv_lhs =>
    rw [← List.takeWhile_append_dropWhile (p := fun a => (order a).same (order x)) (l := x :: xs)]
  rw [orderGroups, List.splitBy_append]
  · rw [List.splitBy_of_isChain (by simp) hchain]
    rfl
  · intro a ha b hb
    have hb' : (order b).same (order x) = false := by
      have hne : (x :: xs).dropWhile (fun a => (order a).same (order x)) ≠ [] := by
        rintro hnil
        rw [hnil] at hb
        simp at hb
      rw [← List.head_of_mem_head? hb]
      simpa using List.head_dropWhile_not (fun a => (order a).same (order x)) hne
    rw [Number.same_comm, ← hb', Bool.eq_iff_iff, Number.same_iff, Number.same_iff,
      hrun a (List.mem_of_mem_getLast? ha)]

section RunByRun

/-- What holds of no items, and of items if it holds of those after the first run, holds of all. -/
theorem run_induction (order : α → Number) {motive : List α → Prop} (nil : motive [])
    (cons : ∀ x xs, motive ((x :: xs).dropWhile fun a => (order a).same (order x)) →
      motive (x :: xs)) (xs : List α) : motive xs := by
  induction hlength : xs.length using Nat.strong_induction_on generalizing xs with
  | _ n ih =>
    cases xs with
    | nil => exact nil
    | cons x xs =>
      refine cons x xs (ih _ ?_ _ rfl)
      rw [← hlength, List.dropWhile_cons_of_pos (by simp)]
      exact Nat.lt_succ_of_le (List.dropWhile_sublist _).length_le

variable (work : List α → List β)

/-- Working run by run and then keeping what belongs to one order is working on what is of that
    order. -/
theorem filter_flatMap_orderGroups (belongs : Number → β → Bool) (work_nil : work [] = [])
    (work_belongs : ∀ run o, (∀ a ∈ run, (order a).same o = true) →
      ∀ y ∈ work run, ∀ o', belongs o' y = o.same o')
    (o : Number) {xs : List α}
    (sorted : xs.Pairwise fun a b => (order a).rank ≤ (order b).rank) :
    ((orderGroups order xs).flatMap work).filter (belongs o) =
      work (xs.filter fun a => (order a).same o) := by
  induction xs using run_induction order with
  | nil => simp [orderGroups, work_nil]
  | cons x xs ih =>
    have hsplit := List.takeWhile_append_dropWhile
      (p := fun a => (order a).same (order x)) (l := x :: xs)
    have hlater := fun b => rank_lt_of_mem_dropWhile sorted (b := b)
    have hrun : ∀ a ∈ (x :: xs).takeWhile (fun a => (order a).same (order x)),
        (order a).same (order x) = true := fun a ha => same_of_mem_takeWhile ha
    have ih := ih (sorted.sublist (List.dropWhile_sublist _))
    rw [orderGroups_cons, List.flatMap_cons, List.filter_append, ih]
    generalize (x :: xs).takeWhile _ = run at hsplit hrun ⊢
    generalize (x :: xs).dropWhile _ = rest at hsplit hlater ⊢
    have hwork := work_belongs run (order x) hrun
    rw [← hsplit, List.filter_append]
    by_cases hsame : (order x).same o = true
    · -- all of the first run is of the order, and nothing after it
      have hnone : rest.filter (fun a => (order a).same o) = [] := by
        refine List.filter_eq_nil_iff.2 fun b hb heq => ?_
        have hlt := hlater b hb
        rw [Number.same_iff.1 hsame, Number.same_iff.1 heq] at hlt
        exact lt_irrefl _ hlt
      rw [hnone, work_nil, List.append_nil, List.append_nil,
        List.filter_eq_self.2 fun y hy => (hwork y hy o).trans hsame,
        List.filter_eq_self.2 fun a ha => (Number.same_congr (hrun a ha) o).trans hsame]
    · -- the first run is of another order
      have hnone : run.filter (fun a => (order a).same o) = [] :=
        List.filter_eq_nil_iff.2 fun a ha heq =>
          hsame ((Number.same_congr (hrun a ha) o).symm.trans heq)
      have hnone' : (work run).filter (belongs o) = [] :=
        List.filter_eq_nil_iff.2 fun y hy heq => hsame ((hwork y hy o).symm.trans heq)
      rw [hnone, hnone', List.nil_append, List.nil_append]

variable {work} in
theorem pairwise_flatMap_orderGroups {rank : β → Int ×ₗ Int}
    (work_rank : ∀ run, ∀ y ∈ work run, ∃ a ∈ run, rank y = (order a).rank)
    {xs : List α} (sorted : xs.Pairwise fun a b => (order a).rank ≤ (order b).rank) :
    ((orderGroups order xs).flatMap work).Pairwise fun y z => rank y ≤ rank z := by
  induction xs using run_induction order with
  | nil => simp [orderGroups]
  | cons x xs ih =>
    have ih := ih (sorted.sublist (List.dropWhile_sublist _))
    have hrun : ∀ y ∈ work ((x :: xs).takeWhile fun a => (order a).same (order x)),
        rank y = (order x).rank := by
      intro y hy
      obtain ⟨a, ha, hya⟩ := work_rank _ y hy
      exact hya.trans (Number.same_iff.1 (same_of_mem_takeWhile ha))
    rw [orderGroups_cons, List.flatMap_cons, List.pairwise_append]
    refine ⟨List.pairwise_of_forall_mem_list fun y hy z hz => ?_, ih, fun y hy z hz => ?_⟩
    · rw [hrun y hy, hrun z hz]
    · -- the second one comes from a later run, whose items lie later
      obtain ⟨run, hmem, hz⟩ := List.mem_flatMap.1 hz
      obtain ⟨b, hb, hzb⟩ := work_rank run z hz
      have hb' : b ∈ (x :: xs).dropWhile fun a => (order a).same (order x) := by
        rw [← flatten_orderGroups order (List.dropWhile _ _)]
        exact List.mem_flatten_of_mem hmem hb
      rw [hrun y hy, hzb]
      exact (rank_lt_of_mem_dropWhile sorted hb').le

end RunByRun

end Accrete
