import Accrete.Proofs.Keys
import Accrete.Proofs.Schema
import Accrete.Value.Order
import Mathlib.Data.List.Induction

/-!
# Laying bags over each other

A bag is laid over another entry by entry, so that declarations may be laid over a bag one by one or
after they have been laid over each other.

* `Bag.put_put`, `Bag.put_comm` -- fields set one after another
* `Bag.merge_merge`             -- laying bags over each other is associative
* `Bag.names_merge`             -- columns come in the sequence of their first declaration
* `Bag.LastDeclares`            -- the field that the last declaration of a column states
* `Bag.lastDeclares_of_mem`     -- which is the field that the column has
* `Bag.any_names_merge`         -- every column that is declared is there
* `Bag.merge_eq_append`         -- other columns are added at the end
-/

namespace Accrete.Bag

variable {b base declared : Bag} {key key' : Value}

/-! ## Setting fields -/

/-- A field that is set replaces one that was set under the same key. -/
theorem put_put (h : key.sameKey key' = true) (f g : Field) :
    (b.put key f).put key' g = b.put key g := by
  induction b with
  | nil => simp [put, h]
  | cons e rest ih =>
    rw [put]
    by_cases he : e.1.sameKey key = true
    · simp [put, he, Value.sameKey_trans he h]
    · have he' : ¬ e.1.sameKey key' = true := fun hsame =>
        he (Value.sameKey_trans hsame (Value.sameKey_comm key key' ▸ h))
      simp [put, he, he', ih]

/-- Fields of different columns may be set in any sequence, if one of the columns is there. -/
theorem put_comm (h : key.sameKey key' = false)
    (hmem : (b.names.any fun v => v.sameKey key') = true) (f g : Field) :
    (b.put key f).put key' g = (b.put key' g).put key f := by
  induction b with
  | nil => simp [names] at hmem
  | cons e rest ih =>
    by_cases he : e.1.sameKey key = true
    · have he' : ¬ e.1.sameKey key' = true := fun hsame =>
        Bool.eq_false_iff.1 h (Value.sameKey_trans (Value.sameKey_comm e.1 key ▸ he) hsame)
      simp [put, he, he']
    · by_cases he' : e.1.sameKey key' = true
      · simp [put, he, he']
      · have hrest : (names rest).any (fun v => v.sameKey key') = true := by
          simpa [names, he'] using hmem
        simp [put, he, he', ih hrest]

theorem any_names_put (h : key.sameKey key' = true) (b : Bag) (f : Field) :
    ((b.put key f).names.any fun v => v.sameKey key') = true := by
  rw [names_put]
  split
  next hmem =>
    obtain ⟨v, hv, hsame⟩ := List.any_eq_true.1 hmem
    exact List.any_eq_true.2 ⟨v, hv, Value.sameKey_trans hsame h⟩
  · simp [h]

theorem any_names_put_of_any (h : (b.names.any fun v => v.sameKey key') = true) (key : Value)
    (f : Field) : ((b.put key f).names.any fun v => v.sameKey key') = true := by
  rw [names_put]
  split
  · exact h
  · simp [h]

/-- The columns of a bag after one field is set: the column that it is set for, and the others. -/
theorem of_mem_put {e : Value × Field} {f : Field} (h : b.HasDistinctNames)
    (he : e ∈ b.put key f) :
    (e.2 = f ∧ (e.1 = key ∨ e.1.sameKey key = true)) ∨ (e ∈ b ∧ e.1.sameKey key = false) := by
  induction b with
  | nil =>
    obtain rfl := List.mem_singleton.1 he
    exact .inl ⟨rfl, .inl rfl⟩
  | cons d rest ih =>
    obtain ⟨hd, hrest⟩ := List.pairwise_cons.1 h
    rw [put] at he
    by_cases hsame : d.1.sameKey key = true
    · rw [if_pos hsame] at he
      rcases List.mem_cons.1 he with rfl | he
      · exact .inl ⟨rfl, .inr hsame⟩
      · -- no other column goes by the key of the one that is set
        refine .inr ⟨List.mem_cons_of_mem _ he, ?_⟩
        rw [Value.sameKey_comm, ← Value.sameKey_congr hsame]
        exact hd e.1 (List.mem_map_of_mem he)
    · rw [if_neg hsame] at he
      rcases List.mem_cons.1 he with rfl | he
      · exact .inr ⟨List.mem_cons_self, Bool.eq_false_iff.2 hsame⟩
      · exact (ih hrest he).imp_right fun h => ⟨List.mem_cons_of_mem _ h.1, h.2⟩

/-! ## Merging -/

theorem merge_cons (b : Bag) (e : Value × Field) (rest : Bag) :
    b.merge (e :: rest) = (b.put e.1 e.2).merge rest := rfl

theorem merge_append (b declared declared' : Bag) :
    b.merge (declared ++ declared') = (b.merge declared).merge declared' :=
  List.foldl_append ..

/-- Whether the field of a column that is there is set before or after others makes no
    difference. -/
theorem put_merge (hmem : (b.names.any fun v => v.sameKey key) = true)
    (hdeclared : ∀ e ∈ declared, e.1.sameKey key = false) (f : Field) :
    (b.merge declared).put key f = (b.put key f).merge declared := by
  induction declared generalizing b with
  | nil => rfl
  | cons e rest ih =>
    obtain ⟨he, hrest⟩ := List.forall_mem_cons.1 hdeclared
    rw [merge_cons, merge_cons, ih (any_names_put_of_any hmem e.1 e.2) hrest,
      put_comm he hmem]

theorem merge_put (h : b.HasDistinctNames) (key : Value) (f : Field) :
    base.merge (b.put key f) = (base.merge b).put key f := by
  induction b generalizing base with
  | nil => rfl
  | cons e rest ih =>
    obtain ⟨he, hrest⟩ := List.pairwise_cons.1 h
    rw [put]
    by_cases hsame : e.1.sameKey key = true
    · -- no later entry is of the column, so the field may as well be set after all of them
      have hothers : ∀ d ∈ rest, d.1.sameKey key = false := by
        intro d hd
        rw [Value.sameKey_comm, ← Value.sameKey_congr hsame]
        exact he d.1 (List.mem_map_of_mem hd)
      rw [if_pos hsame, merge_cons, merge_cons, put_merge (any_names_put hsame base e.2) hothers,
        put_put hsame]
    · rw [if_neg hsame, merge_cons, merge_cons, ih hrest]

/-- Declarations that are laid over a bag and then with it over another are laid over that bag and
    the other one by one. -/
theorem merge_merge (h : b.HasDistinctNames) (base declared : Bag) :
    base.merge (b.merge declared) = (base.merge b).merge declared := by
  induction declared generalizing b with
  | nil => rfl
  | cons e rest ih =>
    rw [merge_cons, ih (distinct_put h e.1 e.2), merge_put h, merge_cons]

theorem merge_merge_nil (base declared : Bag) :
    base.merge (merge [] declared) = base.merge declared :=
  merge_merge (b := []) .nil base declared

theorem distinct_merge_nil (declared : Bag) : (merge [] declared).HasDistinctNames :=
  distinct_merge (b := []) .nil

/-- Columns come in the sequence in which they are declared first. -/
theorem names_merge (declared : Bag) :
    (merge [] declared).names = Value.distinct (declared.map Prod.fst) := by
  -- the columns of the bag so far are the ones that have been seen
  have hfold : ∀ (declared b : Bag), (b.merge declared).names =
      (declared.map Prod.fst).foldl
        (fun seen v => if v.isIn seen then seen else seen ++ [v]) b.names := by
    intro declared
    induction declared with
    | nil => intro b; rfl
    | cons e rest ih =>
      intro b
      have hsame : (fun v => v.sameKey e.1) = e.1.sameKey :=
        funext fun v => Value.sameKey_comm v e.1
      rw [merge_cons, ih, names_put, hsame, List.map_cons, List.foldl_cons, Value.isIn]
  exact hfold declared []

/-- The field that the last declaration of a column states. -/
def LastDeclares (declared : Bag) (key : Value) (f : Field) : Prop :=
  ∃ before key' after, declared = before ++ (key', f) :: after ∧ key'.sameKey key = true ∧
    ∀ e ∈ after, e.1.sameKey key = false

/-- A column has the field that its last declaration states. -/
theorem lastDeclares_of_mem (hkeys : ∀ e ∈ declared, e.1.sameKey e.1 = true) {e : Value × Field}
    (he : e ∈ merge [] declared) : LastDeclares declared e.1 e.2 := by
  induction declared using List.reverseRecOn with
  | nil => exact absurd he List.not_mem_nil
  | append_singleton declared d ih =>
    rw [List.forall_mem_append, List.forall_mem_singleton] at hkeys
    rw [merge_append] at he
    -- the declaration at the end is of this column, or it leaves it as it was
    rcases of_mem_put (distinct_merge_nil declared) he with ⟨hfield, hkey⟩ | ⟨he, hother⟩
    · refine ⟨declared, d.1, [], by rw [hfield], ?_, by simp⟩
      rcases hkey with hkey | hkey
      · rw [hkey]
        exact hkeys.2
      · rw [Value.sameKey_comm]
        exact hkey
    · obtain ⟨before, key', after, rfl, hkey, hafter⟩ := ih hkeys.1 he
      refine ⟨before, key', after ++ [d], by simp, hkey, ?_⟩
      rw [List.forall_mem_append, List.forall_mem_singleton, Value.sameKey_comm d.1]
      exact ⟨hafter, hother⟩

/-- A column has one last declaration. -/
theorem LastDeclares.unique {f g : Field} (hf : LastDeclares declared key f)
    (hg : LastDeclares declared key g) : f = g := by
  have hfind : ∀ {f : Field}, LastDeclares declared key f →
      (declared.reverse.find? fun e => e.1.sameKey key).map Prod.snd = some f := by
    rintro f ⟨before, key', after, rfl, hkey, hafter⟩
    have hnone : after.reverse.find? (fun e => e.1.sameKey key) = none :=
      List.find?_eq_none.2 fun e he => by simp [hafter e (List.mem_reverse.1 he)]
    simp [List.find?_append, hnone, hkey]
  exact Option.some.inj ((hfind hf).symm.trans (hfind hg))

/-- Every column that is declared is there. -/
theorem any_names_merge {e : Value × Field} (he : e ∈ declared) (hkey : e.1.sameKey e.1 = true) :
    ((merge [] declared).names.any fun v => v.sameKey e.1) = true := by
  induction declared using List.reverseRecOn with
  | nil => exact absurd he List.not_mem_nil
  | append_singleton declared d ih =>
    rw [merge_append]
    rcases List.mem_append.1 he with he | he
    · exact any_names_put_of_any (ih he) d.1 d.2
    · obtain rfl := List.mem_singleton.1 he
      exact any_names_put hkey _ _

theorem put_of_forall {f : Field} (h : ∀ e ∈ b, e.1.sameKey key = false) :
    b.put key f = b ++ [(key, f)] := by
  induction b with
  | nil => rfl
  | cons e rest ih =>
    obtain ⟨he, hrest⟩ := List.forall_mem_cons.1 h
    rw [put, if_neg (Bool.eq_false_iff.1 he), ih hrest, List.cons_append]

/-- Columns that are not there yet are added at the end. -/
theorem merge_eq_append (h : (b ++ declared).HasDistinctNames) :
    b.merge declared = b ++ declared := by
  induction declared generalizing b with
  | nil => simp [merge]
  | cons e rest ih =>
    have hnew : ∀ d ∈ b, d.1.sameKey e.1 = false := by
      rw [HasDistinctNames, names, List.map_append, List.pairwise_append] at h
      exact fun d hd => h.2.2 d.1 (List.mem_map_of_mem hd) e.1 (by simp)
    rw [merge_cons, put_of_forall hnew, ih (by simpa using h), List.append_assoc,
      List.singleton_append]

end Accrete.Bag
