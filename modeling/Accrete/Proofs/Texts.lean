import Accrete.Proofs.Logged
import Accrete.Value.Misuse
import Accrete.Value.Order
import Mathlib.Data.List.Nodup

/-!
# Values that are texts

How texts compare as keys, and what becomes of lists of them.

* `Value.sameKey_of_text?`   -- texts are the same key just where they are equal
* `Value.isIn_map_text`      -- and are among texts that contain them
* `Value.sort_map_text`      -- texts can be sorted
* `Value.join_map_text`      -- and joined
-/

namespace Accrete.Value

theorem sameKey_of_text? {v w : Value} {s s' : String} (hv : v.text? = some s)
    (hw : w.text? = some s') : v.sameKey w = (s == s') := by
  cases v <;> simp only [text?, reduceCtorEq, Option.some.injEq] at hv <;>
    cases w <;> simp only [text?, reduceCtorEq, Option.some.injEq] at hw <;>
      subst hv hw <;> simp [sameKey, sameScalar, numeral?, text?]

theorem sameKey_text (s s' : String) : (text s).sameKey (text s') = (s == s') :=
  sameKey_of_text? rfl rfl

theorem isIn_of_mem {v w : Value} {vs : List Value} {s : String} (hv : v.text? = some s)
    (hw : w.text? = some s) (hmem : w ∈ vs) : v.isIn vs = true :=
  List.any_eq_true.2 ⟨w, hmem, by rw [sameKey_of_text? hv hw, beq_self_eq_true]⟩

theorem isIn_map_text {v : Value} {s : String} (hv : v.text? = some s) (texts : List String) :
    v.isIn (texts.map .text) = texts.contains s := by
  rw [isIn, List.any_map, List.contains_eq_any_beq]
  refine congrArg (List.any texts) (funext fun text => ?_)
  exact sameKey_of_text? hv rfl

theorem text_mem_map {s : String} {texts : List String} : .text s ∈ texts.map text ↔ s ∈ texts :=
  List.mem_map_of_injective fun _ _ => Value.text.inj

theorem checkKeys_map_text (texts : List String) : checkKeys (texts.map .text) = .ok () := by
  refine Except.forM_eq_ok.2 fun v hv => ?_
  obtain ⟨s, -, rfl⟩ := List.mem_map.1 hv
  rfl

theorem texts_map_text (item : Nat) (ss : List String) : texts item (ss.map .text) = .ok ss := by
  induction ss generalizing item with
  | nil => rfl
  | cons s ss ih =>
    simp only [List.map_cons, texts, text?, ih]
    rfl

theorem join_map_text (separator : String) (ss : List String) :
    join separator (ss.map .text) = .ok (separator.intercalate ss) := by
  rw [join, texts_map_text]
  rfl

/-! ## Sorting -/

theorem distinct_map_text (texts : List String) :
    ∃ kept : List String, distinct (texts.map .text) = kept.map .text ∧ kept.Nodup ∧
      ∀ s, s ∈ kept ↔ s ∈ texts := by
  -- in general, after others have been seen
  have hall : ∀ seen : List String, seen.Nodup → ∃ kept : List String,
      (texts.map text).foldl (fun seen v => if v.isIn seen then seen else seen ++ [v])
        (seen.map text) = kept.map text ∧ kept.Nodup ∧ ∀ s, s ∈ kept ↔ s ∈ seen ∨ s ∈ texts := by
    induction texts with
    | nil => exact fun seen hseen => ⟨seen, rfl, hseen, by simp⟩
    | cons t texts ih =>
      intro seen hseen
      rw [List.map_cons, List.foldl_cons, isIn_map_text rfl]
      by_cases ht : t ∈ seen
      · obtain ⟨kept, hkept, hnodup, hmem⟩ := ih seen hseen
        rw [if_pos (List.contains_iff_mem.2 ht)]
        refine ⟨kept, hkept, hnodup, fun s => ?_⟩
        rw [hmem, List.mem_cons]
        constructor
        · exact fun h => h.imp_right .inr
        · rintro (h | rfl | h)
          exacts [.inl h, .inl ht, .inr h]
      · obtain ⟨kept, hkept, hnodup, hmem⟩ := ih (seen ++ [t])
          (List.nodup_append'.2 ⟨hseen, List.nodup_singleton t, by simpa using ht⟩)
        rw [if_neg fun h => ht (List.contains_iff_mem.1 h)]
        refine ⟨kept, by simpa using hkept, hnodup, fun s => ?_⟩
        rw [hmem, List.mem_append, List.mem_singleton, List.mem_cons, or_assoc]
  obtain ⟨kept, hkept, hnodup, hmem⟩ := hall [] List.nodup_nil
  exact ⟨kept, hkept, hnodup, by simpa using hmem⟩

theorem insertSorted_map_text (s : String) (texts : List String) :
    ∃ sorted : List String, insertSorted (.text s) (texts.map .text) = .ok (sorted.map .text) ∧
      sorted.Perm (s :: texts) := by
  induction texts with
  | nil => exact ⟨[s], rfl, .refl _⟩
  | cons t texts ih =>
    have hbefore : before? (.text s) (.text t) = some (decide (s < t)) := rfl
    rw [List.map_cons, insertSorted, hbefore]
    by_cases hlt : s < t
    · exact ⟨s :: t :: texts, by simp [hlt], .refl _⟩
    · obtain ⟨sorted, hsorted, hperm⟩ := ih
      refine ⟨t :: sorted, ?_, (hperm.cons t).trans (.swap s t texts)⟩
      simp only [hlt, decide_false, hsorted]
      rfl

/-- Texts can be sorted, which keeps each of them once. -/
theorem sort_map_text (texts : List String) :
    ∃ sorted : List String, sort (texts.map .text) = .ok (sorted.map .text) ∧ sorted.Nodup ∧
      ∀ s, s ∈ sorted ↔ s ∈ texts := by
  have hinsert : ∀ ss seen : List String, ∃ sorted : List String,
      (ss.map .text).foldlM (fun sorted v => insertSorted v sorted) (seen.map .text) =
        .ok (sorted.map .text) ∧ sorted.Perm (ss ++ seen) := by
    intro ss
    induction ss with
    | nil => exact fun seen => ⟨seen, rfl, .refl _⟩
    | cons s ss ih =>
      intro seen
      obtain ⟨seen', hseen', hperm'⟩ := insertSorted_map_text s seen
      obtain ⟨sorted, hsorted, hperm⟩ := ih seen'
      refine ⟨sorted, ?_, (hperm.trans (hperm'.append_left ss)).trans List.perm_middle⟩
      rw [List.map_cons, List.foldlM_cons, hseen']
      exact hsorted
  obtain ⟨kept, hkept, hnodup, hmem⟩ := distinct_map_text texts
  -- texts are compared to nothing but texts
  have hranked : (kept.map Value.text).mergeSort (fun a b => decide (a.sortRank ≤ b.sortRank)) =
      kept.map .text := by
    refine List.mergeSort_of_pairwise (List.pairwise_map.2 ?_)
    exact List.pairwise_of_forall fun _ _ => rfl
  obtain ⟨sorted, hsorted, hperm⟩ := hinsert kept []
  rw [List.append_nil] at hperm
  refine ⟨sorted, ?_, hperm.nodup_iff.2 hnodup, fun s => by rw [hperm.mem_iff, hmem]⟩
  rw [sort, hkept, hranked]
  exact hsorted

end Accrete.Value
