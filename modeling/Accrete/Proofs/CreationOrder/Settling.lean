import Accrete.CreationOrder
import Mathlib.Data.Fintype.Pigeonhole
import Mathlib.Data.Set.Finite.Basic
import Mathlib.Data.String.Basic
import Mathlib.Logic.Relation

/-!
# Settling the tables of one order

Which tables are taken while tables are settled, in which sequence, and which are left over.

* `DependsOn`, `ReachesCycle`   -- references inside a group of tables
* `Settles`                     -- taking tables one after another, as a relation
* `settles_settle`              -- `Pending.settle` is such a run
* `Settles.mem_taken_iff`        -- what is left over are the tables that can reach a cycle
* `Settles.leastFirst`          -- each table taken is the first that could be

A run is followed by induction: `Settles.split` tells what was pending when a table was taken, and
all other facts about the tables taken come from it.
-/

namespace Accrete

/-! ## References inside a group -/

/-- A table references another table of a group. -/
def DependsOn (group : List Table) (t u : Table) : Prop :=
  u ∈ group ∧ u.name ≠ t.name ∧ t.referencesTable u.name = true

/-- From a table a cycle of references inside a group can be reached. -/
def ReachesCycle (group : List Table) (t : Table) : Prop :=
  ∃ u, Relation.ReflTransGen (DependsOn group) t u ∧ Relation.TransGen (DependsOn group) u u

/-- All tables that a table of a group references there are among given ones. -/
def IsFreeAfter (group before : List Table) (t : Table) : Prop :=
  ∀ u, DependsOn group t u → u ∈ before

/-- Tables of a group in the sequence in which each one is the first by name among the tables that
    are not there yet and reference only tables that are. -/
def LeastFirst (group settled : List Table) : Prop :=
  ∀ before t after, settled = before ++ t :: after →
    t ∉ before ∧ IsFreeAfter group before t ∧
      ∀ u ∈ group, u ∉ before → IsFreeAfter group before u → t.name ≤ u.name

theorem isReady_iff {pending : List Table} {t : Table} :
    Pending.isReady pending t = true ↔ IsFreeAfter pending [] t := by
  simp only [Pending.isReady, List.all_eq_true, Bool.or_eq_true, beq_iff_eq, Bool.not_eq_true',
    IsFreeAfter, DependsOn, List.not_mem_nil, imp_false, not_and, Bool.not_eq_true, ne_eq]
  exact forall₂_congr fun u _ => Decidable.or_iff_not_imp_left

/-! ## Runs -/

/-- The first table that is ready is taken, again and again, until none is. -/
inductive Settles : List Table → List Table → List Table → Prop
  | stuck {pending} (h : ∀ t ∈ pending, ¬ IsFreeAfter pending [] t) : Settles pending [] pending
  | take {earlier t later taken left}
      (ready : IsFreeAfter (earlier ++ t :: later) [] t)
      (first : ∀ u ∈ earlier, ¬ IsFreeAfter (earlier ++ t :: later) [] u)
      (rest : Settles (earlier ++ later) taken left) :
      Settles (earlier ++ t :: later) (t :: taken) left

theorem settles_settle (pending : List Table) :
    Settles pending (Pending.settle pending).1 (Pending.settle pending).2 := by
  rw [Pending.settle]
  split
  next h =>
    refine .stuck fun t ht hfree => ?_
    exact absurd (isReady_iff.2 hfree) (by simpa using List.findIdx?_eq_none_iff.1 h t ht)
  next i h =>
    -- the first ready table is taken out, and the rest is settled in the same way
    obtain ⟨hi, hready, hfirst⟩ := List.findIdx?_eq_some_iff_getElem.1 h
    have hsplit : pending = pending.take i ++ pending[i] :: pending.drop (i + 1) := by simp
    have herase : pending.eraseIdx i = pending.take i ++ pending.drop (i + 1) :=
      List.eraseIdx_eq_take_drop_succ ..
    have hlt : (pending.eraseIdx i).length < pending.length := by
      rw [List.length_eraseIdx_of_lt hi]; omega
    have ih := settles_settle (pending.eraseIdx i)
    rw [herase] at ih
    have hstep : Settles (pending.take i ++ pending[i] :: pending.drop (i + 1))
        (pending[i] :: (Pending.settle (pending.take i ++ pending.drop (i + 1))).1)
        (Pending.settle (pending.take i ++ pending.drop (i + 1))).2 := by
      refine .take ?_ (fun u hu hfree => ?_) ih
      · rw [← hsplit]; exact isReady_iff.1 hready
      · obtain ⟨j, hj, rfl⟩ := List.mem_take_iff_getElem.1 hu
        rw [← hsplit] at hfree
        exact hfirst j (by omega) (isReady_iff.2 hfree)
    simpa [← hsplit, herase, hi] using hstep
termination_by pending.length

namespace Settles

variable {pending taken left : List Table}

theorem perm (h : Settles pending taken left) : (taken ++ left).Perm pending := by
  induction h with
  | stuck _ => exact .refl _
  | take _ _ _ ih => exact (ih.cons _).trans List.perm_middle.symm

theorem left_sublist (h : Settles pending taken left) : left.Sublist pending := by
  induction h with
  | stuck _ => exact .refl _
  | take _ _ _ ih => exact ih.trans ((List.Sublist.refl _).append (List.sublist_cons_self ..))

theorem left_not_free (h : Settles pending taken left) : ∀ t ∈ left, ¬ IsFreeAfter left [] t := by
  induction h with
  | stuck h => exact h
  | take _ _ _ ih => exact ih

/-- When a table is taken, it is the first by name of the ready ones that are still pending. -/
theorem split (h : Settles pending taken left)
    (sorted : pending.Pairwise fun a b => a.name < b.name)
    {before : List Table} {t : Table} {after : List Table} (htaken : taken = before ++ t :: after) :
    ∃ rest, (before ++ rest).Perm pending ∧ t ∈ rest ∧ IsFreeAfter rest [] t ∧
      ∀ u ∈ rest, IsFreeAfter rest [] u → t.name ≤ u.name := by
  induction h generalizing before with
  | stuck _ => simp at htaken
  | @take earlier t' later taken' left' ready first _ ih =>
    -- `t` is what this step takes, or it is taken by a later one
    cases before with
    | nil =>
      obtain ⟨rfl, rfl⟩ : t' = t ∧ taken' = after := by simpa using htaken
      refine ⟨_, .refl _, by simp, ready, fun u hu hfree => ?_⟩
      rcases List.mem_append.1 hu with hu | hu
      · exact absurd hfree (first u hu)
      · rcases List.mem_cons.1 hu with rfl | hu
        · exact le_refl _
        · have hlt : t'.name < u.name :=
            List.rel_of_pairwise_cons (List.pairwise_append.1 sorted).2.1 hu
          exact le_of_lt hlt
    | cons b before =>
      obtain ⟨rfl, rfl⟩ : t' = b ∧ taken' = before ++ t :: after := by simpa using htaken
      have sorted' : (earlier ++ later).Pairwise fun a b => a.name < b.name :=
        sorted.sublist ((List.Sublist.refl _).append (List.sublist_cons_self ..))
      obtain ⟨rest, hperm, hrest⟩ := ih sorted' rfl
      exact ⟨rest, (hperm.cons _).trans List.perm_middle.symm, hrest⟩

/-! ## What is taken -/

theorem leastFirst (h : Settles pending taken left)
    (sorted : pending.Pairwise fun a b => a.name < b.name) : LeastFirst pending taken := by
  intro before t after htaken
  obtain ⟨rest, hperm, ht, hfree, hleast⟩ := h.split sorted htaken
  have hnodup : (before ++ rest).Nodup :=
    hperm.nodup_iff.2 (sorted.imp fun hlt heq => absurd hlt (by rw [heq]; exact lt_irrefl _))
  have hdisjoint : ∀ u ∈ before, u ∉ rest := fun u hu hu' =>
    (List.nodup_append.1 hnodup).2.2 u hu u hu' rfl
  -- what was pending is what came before and what was left then, and the two are apart
  refine ⟨fun hmem => hdisjoint t hmem ht, fun u hu => ?_, fun u hu hbefore hufree => ?_⟩
  · rcases List.mem_append.1 (hperm.mem_iff.2 hu.1) with hmem | hmem
    · exact hmem
    · exact absurd (hfree u ⟨hmem, hu.2⟩) List.not_mem_nil
  · have hurest : u ∈ rest := (List.mem_append.1 (hperm.mem_iff.2 hu)).resolve_left hbefore
    refine hleast u hurest fun v hv => ?_
    have hvpending : v ∈ pending := hperm.mem_iff.1 (List.mem_append_right _ hv.1)
    exact absurd hv.1 (hdisjoint v (hufree v ⟨hvpending, hv.2⟩))

end Settles

/-- References from tables that are taken in such a sequence always come to an end. -/
theorem LeastFirst.acc {group settled : List Table} (h : LeastFirst group settled) :
    ∀ t ∈ settled, Acc (fun u t => DependsOn group t u) t := by
  -- by strong induction on how many tables come before
  suffices ∀ n before t after, before.length = n → settled = before ++ t :: after →
      Acc (fun u t => DependsOn group t u) t by
    intro t ht
    obtain ⟨before, after, hsplit⟩ := List.append_of_mem ht
    exact this _ before t after rfl hsplit
  intro n
  induction n using Nat.strong_induction_on with
  | _ n ih =>
    intro before t after hlength hsplit
    refine ⟨_, fun u hu => ?_⟩
    obtain ⟨before', after', rfl⟩ := List.append_of_mem ((h before t after hsplit).2.1 u hu)
    refine ih before'.length ?_ before' u (after' ++ t :: after) rfl (by simpa using hsplit)
    rw [← hlength, List.length_append, List.length_cons]
    omega

/-- Where references come to an end no cycle can be reached. -/
theorem not_reachesCycle_of_acc {group : List Table} {t : Table}
    (h : Acc (fun u t => DependsOn group t u) t) : ¬ ReachesCycle group t := by
  rintro ⟨u, hreach, hcycle⟩
  have hacc : Acc (fun u t => DependsOn group t u) u := by
    clear hcycle
    induction hreach with
    | refl => exact h
    | tail _ hstep ih => exact ih.inv hstep
  have hback : Relation.TransGen (fun u t => DependsOn group t u) u u :=
    Relation.transGen_swap.1 hcycle
  have hirreflexive : ∀ v, Acc (Relation.TransGen fun u t => DependsOn group t u) v →
      ¬ Relation.TransGen (fun u t => DependsOn group t u) v v := by
    intro v hv
    induction hv with
    | intro v _ ih => exact fun hself => ih v hself hself
  exact hirreflexive u hacc.transGen hback

/-- If every table of a group references another one of it, then each can reach a cycle. -/
theorem reachesCycle_of_forall_exists {group : List Table}
    (h : ∀ t ∈ group, ∃ u, DependsOn group t u) {t : Table} (ht : t ∈ group) :
    ReachesCycle group t := by
  -- following references, some table has to come up twice
  choose next hnext using h
  let step : {u // u ∈ group} → {u // u ∈ group} := fun u => ⟨next u u.2, (hnext u u.2).1⟩
  let walk (n : ℕ) : {u // u ∈ group} := step^[n] ⟨t, ht⟩
  have hwalk : ∀ n, DependsOn group (walk n) (walk (n + 1)) := by
    intro n
    simp only [walk, Function.iterate_succ_apply']
    exact hnext _ _
  have hfinite : Finite {u // u ∈ group} := List.finite_toSet group
  obtain ⟨m, n, hne, heq⟩ := Finite.exists_ne_map_eq_of_infinite walk
  wlog hlt : m < n generalizing m n
  · exact this n m hne.symm heq.symm (lt_of_le_of_ne (not_lt.1 hlt) hne.symm)
  have hfrom : ∀ i k, Relation.ReflTransGen (DependsOn group) (walk i) (walk (i + k)) := by
    intro i k
    induction k with
    | zero => exact .refl
    | succ k ih => exact ih.tail (hwalk (i + k))
  have hreach : Relation.ReflTransGen (DependsOn group) (walk 0) (walk m) := by
    simpa using hfrom 0 m
  have hcycle : Relation.TransGen (DependsOn group) (walk m) (walk n) := by
    have hrest := hfrom (m + 1) (n - (m + 1))
    rw [show m + 1 + (n - (m + 1)) = n by omega] at hrest
    exact .head' (hwalk m) hrest
  exact ⟨walk m, hreach, heq ▸ hcycle⟩

namespace Settles

variable {pending taken left : List Table}

/-- Exactly the tables from which no cycle can be reached are taken. -/
theorem mem_taken_iff (h : Settles pending taken left)
    (sorted : pending.Pairwise fun a b => a.name < b.name) {t : Table} (ht : t ∈ pending) :
    t ∈ taken ↔ ¬ ReachesCycle pending t := by
  refine ⟨fun htaken => not_reachesCycle_of_acc ((h.leastFirst sorted).acc t htaken),
    fun hcycle => ?_⟩
  by_contra htaken
  have hleft : t ∈ left := (List.mem_append.1 (h.perm.mem_iff.2 ht)).resolve_left htaken
  -- what is left is stuck, so that references inside it never end
  have hdepends : ∀ u ∈ left, ∃ v, DependsOn left u v := by
    intro u hu
    by_contra hnone
    exact h.left_not_free u hu fun v hv => absurd ⟨v, hv⟩ hnone
  obtain ⟨u, hreach, hback⟩ := reachesCycle_of_forall_exists hdepends hleft
  have hmono : ∀ a b, DependsOn left a b → DependsOn pending a b :=
    fun a b hab => ⟨h.left_sublist.subset hab.1, hab.2⟩
  exact hcycle ⟨u, Relation.ReflTransGen.mono hmono _ _ hreach,
    Relation.TransGen.mono hmono _ _ hback⟩

end Settles

end Accrete
