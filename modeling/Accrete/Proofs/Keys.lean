import Accrete.CreationOrder
import Accrete.Value.Key
import Mathlib.Data.List.Nodup
import Mathlib.Data.Option.Basic
import Mathlib.Data.Prod.Lex
import Mathlib.Data.String.Basic

/-!
# Keys

Orders and names are sorted as one linear order, so that sorting and grouping can be reasoned about.

Being the same key is an equivalence on what can be a key: numbers with truth values are the same by
their value, texts with computed kinds by their spelling, and ready-made parts by their parts.

* `Number.rank`          -- where a number lies, as a linearly ordered value
* `sortKey`              -- an order with a name
* `orderedBefore_iff`    -- sorting compares sort keys
* `byOrderAndName_congr` -- things of distinct names are sorted in one way only
* `Value.sameKey_comm`, `Value.sameKey_trans`, `Value.sameKey_self` -- it is an equivalence
* `Value.sameKey_congr`            -- keys that are the same are the same as the same keys
* `Value.text?_eq_of_sameKey`      -- and have the same text, if any
-/

namespace Accrete

/-! ## Sort keys -/

namespace Number

def rank (n : Number) : Int ×ₗ Int := toLex n.position

theorem lt_iff {a b : Number} : a.lt b = true ↔ a.rank < b.rank := by
  simp [lt, rank, Prod.Lex.toLex_lt_toLex]

theorem same_iff {a b : Number} : a.same b = true ↔ a.rank = b.rank := by
  simp [same, rank]

@[simp] theorem same_self (a : Number) : a.same a = true := same_iff.2 rfl

theorem same_comm (a b : Number) : a.same b = b.same a := by
  rw [Bool.eq_iff_iff, same_iff, same_iff, eq_comm]

theorem same_congr {a b : Number} (h : a.same b = true) (c : Number) : a.same c = b.same c := by
  rw [Bool.eq_iff_iff, same_iff, same_iff, same_iff.1 h]

end Number

/-- An order with a name, the order counting first. -/
def sortKey (order : Number) (name : String) : (Int ×ₗ Int) ×ₗ String := toLex (order.rank, name)

theorem orderedBefore_iff {order order' : Number} {name name' : String} :
    orderedBefore order name order' name' = true ↔ sortKey order name ≤ sortKey order' name' := by
  simp [orderedBefore, sortKey, Prod.Lex.toLex_le_toLex, Number.lt_iff, Number.same_iff]

theorem order_le_of_sortKey_le {order order' : Number} {name name' : String}
    (h : sortKey order name ≤ sortKey order' name') : order.rank ≤ order'.rank :=
  Prod.Lex.monotone_fst _ _ h

section Sorting

variable {α : Type} (order : α → Number) (name : α → String)

theorem byOrderAndName_perm (xs : List α) : (byOrderAndName order name xs).Perm xs :=
  List.mergeSort_perm ..

theorem byOrderAndName_pairwise (xs : List α) :
    (byOrderAndName order name xs).Pairwise fun a b =>
      sortKey (order a) (name a) ≤ sortKey (order b) (name b) := by
  refine (List.pairwise_mergeSort ?_ ?_ xs).imp fun h => orderedBefore_iff.1 h
  · intro a b c hab hbc
    exact orderedBefore_iff.2 ((orderedBefore_iff.1 hab).trans (orderedBefore_iff.1 hbc))
  · intro a b
    simp only [Bool.or_eq_true, orderedBefore_iff]
    exact le_total _ _

variable {order name} in
theorem byOrderAndName_congr {xs ys : List α} (names : (xs.map name).Nodup) (h : xs.Perm ys) :
    byOrderAndName order name xs = byOrderAndName order name ys := by
  have hxs := byOrderAndName_perm order name xs
  have hys := byOrderAndName_perm order name ys
  refine List.Perm.eq_of_pairwise (fun a b ha hb hab hba => ?_) (byOrderAndName_pairwise ..)
    (byOrderAndName_pairwise ..) (hxs.trans (h.trans hys.symm))
  -- neither is before the other, so that they agree in the name and are the same
  have hname : name a = name b := congrArg (fun key => (ofLex key).2) (le_antisymm hab hba)
  exact List.inj_on_of_nodup_map names (hxs.mem_iff.1 ha) (h.mem_iff.2 (hys.mem_iff.1 hb)) hname

end Sorting

/-! ## Keys that are the same -/

theorem Number.same_trans {a b c : Number} (h : a.same b = true) (h' : b.same c = true) :
    a.same c = true :=
  Number.same_iff.2 ((Number.same_iff.1 h).trans (Number.same_iff.1 h'))

namespace Value

/-! ## Scalars -/

theorem sameScalar_comm (a b : Value) : a.sameScalar b = b.sameScalar a := by
  cases a <;> cases b <;>
    simp [sameScalar, numeral?, text?, isNull, Number.same_comm, Bool.beq_comm]

/-- Scalars are the same as numbers, as texts, or by both being null. -/
theorem sameScalar_iff {a b : Value} :
    a.sameScalar b = true ↔
      (∃ m n, a.numeral? = some m ∧ b.numeral? = some n ∧ m.same n = true) ∨
      (∃ s, a.text? = some s ∧ b.text? = some s) ∨ (a.isNull = true ∧ b.isNull = true) := by
  cases a <;> cases b <;> simp [sameScalar, numeral?, text?, isNull]
  all_goals exact eq_comm

theorem sameScalar_trans {a b c : Value} (h : a.sameScalar b = true)
    (h' : b.sameScalar c = true) : a.sameScalar c = true := by
  rw [sameScalar_iff] at h h' ⊢
  rcases h with ⟨m, n, ha, hb, h⟩ | ⟨s, ha, hb⟩ | ⟨ha, hb⟩ <;>
    rcases h' with ⟨n', k, hb', hc, h'⟩ | ⟨t, hb', hc⟩ | ⟨hb', hc⟩
  case inl.inl =>
    obtain rfl := Option.some.inj (hb.symm.trans hb')
    exact .inl ⟨m, k, ha, hc, Number.same_trans h h'⟩
  case inr.inl.inr.inl =>
    obtain rfl := Option.some.inj (hb.symm.trans hb')
    exact .inr (.inl ⟨s, ha, hc⟩)
  case inr.inr.inr.inr => exact .inr (.inr ⟨ha, hc⟩)
  -- no scalar is of two sorts
  all_goals cases b <;> simp_all [numeral?, text?, isNull]

/-! ## Ready-made parts -/

theorem sameKey_reference_iff {v : Value} {r : Reference} :
    v.sameKey (.reference r) = true ↔ ∃ q, v = .reference q ∧ sameReference q r = true := by
  cases v <;> simp [sameKey, sameScalar, numeral?, text?, isNull]

theorem sameKey_default_iff {v : Value} {d : Default} :
    v.sameKey (.default d) = true ↔ ∃ e, v = .default e ∧ sameDefault e d = true := by
  cases v <;> simp [sameKey, sameScalar, numeral?, text?, isNull]

theorem sameKey_field_iff {v : Value} {f : Field} :
    v.sameKey (.field f) = true ↔ ∃ g, v = .field g ∧ sameField g f = true := by
  cases v <;> simp [sameKey, sameScalar, numeral?, text?, isNull]

/-- A scalar is compared as such. -/
theorem sameKey_eq_sameScalar {v w : Value} (href : ∀ r, w ≠ .reference r)
    (hdefault : ∀ d, w ≠ .default d) (hfield : ∀ f, w ≠ .field f) :
    v.sameKey w = v.sameScalar w := by
  cases v <;> cases w <;> simp_all [sameKey]

theorem sameKey_eq_of_sameScalar {v w u : Value} (h : w.sameScalar u = true) :
    v.sameKey w = v.sameScalar w := by
  cases w with
  | reference | default | field => simp [sameScalar, numeral?, text?, isNull] at h
  | _ => exact sameKey_eq_sameScalar (by simp) (by simp) (by simp)

end Value

open Value

/-! ## Symmetry -/

mutual

theorem Value.sameKey_comm (a b : Value) : a.sameKey b = b.sameKey a := by
  cases a <;> cases b <;> simp only [Value.sameKey]
  case reference.reference r s => exact sameReference_comm r s
  case default.default d e => exact sameDefault_comm d e
  case field.field f g => exact sameField_comm f g
  all_goals exact Value.sameScalar_comm _ _

theorem sameReference_comm (r s : Reference) : sameReference r s = sameReference s r := by
  obtain ⟨model, column, onDelete⟩ := r
  obtain ⟨model', column', onDelete'⟩ := s
  simp only [sameReference, Value.sameKey_comm model, Value.sameKey_comm column,
    BEq.comm (a := onDelete)]

theorem sameDefault_comm (d e : Default) : sameDefault d e = sameDefault e d := by
  cases d <;> cases e <;> simp only [sameDefault]
  case static.static v w => exact Value.sameKey_comm v w
  case computed.computed k l => exact BEq.comm

theorem sameField_comm (f g : Field) : sameField f g = sameField g f := by
  obtain ⟨type, required, unique, bigint, indexed, fieldName, references, default⟩ := f
  obtain ⟨type', required', unique', bigint', indexed', fieldName', references', default'⟩ := g
  simp only [sameField, BEq.comm (a := type), Value.sameKey_comm required,
    Value.sameKey_comm unique, Value.sameKey_comm bigint, Value.sameKey_comm indexed,
    Value.sameKey_comm fieldName, Value.sameKey_comm references, sameDefault_comm default]

end

/-! ## Transitivity -/

mutual

theorem Value.sameKey_trans {a b c : Value} (h : a.sameKey b = true) (h' : b.sameKey c = true) :
    a.sameKey c = true := by
  -- by the last value: a ready-made part is the same as parts of its own sort only
  cases c with
  | reference t =>
    obtain ⟨s, rfl, hs⟩ := sameKey_reference_iff.1 h'
    obtain ⟨r, rfl, hr⟩ := sameKey_reference_iff.1 h
    exact sameKey_reference_iff.2 ⟨r, rfl, sameReference_trans hr hs⟩
  | default t =>
    obtain ⟨e, rfl, he⟩ := sameKey_default_iff.1 h'
    obtain ⟨d, rfl, hd⟩ := sameKey_default_iff.1 h
    exact sameKey_default_iff.2 ⟨d, rfl, sameDefault_trans hd he⟩
  | field t =>
    obtain ⟨g, rfl, hg⟩ := sameKey_field_iff.1 h'
    obtain ⟨f, rfl, hf⟩ := sameKey_field_iff.1 h
    exact sameKey_field_iff.2 ⟨f, rfl, sameField_trans hf hg⟩
  | _ =>
    rw [sameKey_eq_sameScalar (by simp) (by simp) (by simp)] at h' ⊢
    rw [sameKey_eq_of_sameScalar h'] at h
    exact sameScalar_trans h h'
termination_by structural c

theorem sameReference_trans {r s t : Reference} (h : sameReference r s = true)
    (h' : sameReference s t = true) : sameReference r t = true := by
  obtain ⟨model, column, onDelete⟩ := t
  obtain ⟨model', column', onDelete'⟩ := s
  obtain ⟨model'', column'', onDelete''⟩ := r
  simp only [sameReference, Bool.and_eq_true, beq_iff_eq] at h h' ⊢
  exact ⟨⟨Value.sameKey_trans h.1.1 h'.1.1, Value.sameKey_trans h.1.2 h'.1.2⟩, h.2.trans h'.2⟩
termination_by structural t

theorem sameDefault_trans {d e k : Default} (h : sameDefault d e = true)
    (h' : sameDefault e k = true) : sameDefault d k = true := by
  cases k <;> cases e <;> cases d <;> simp_all only [sameDefault, Bool.false_eq_true, beq_iff_eq]
  case static.static.static v w u => exact Value.sameKey_trans h h'
termination_by structural k

theorem sameField_trans {f g k : Field} (h : sameField f g = true) (h' : sameField g k = true) :
    sameField f k = true := by
  obtain ⟨type, required, unique, bigint, indexed, fieldName, references, default⟩ := k
  obtain ⟨_, _, _, _, _, _, _, _⟩ := g
  obtain ⟨_, _, _, _, _, _, _, _⟩ := f
  simp only [sameField, Bool.and_eq_true, beq_iff_eq, and_assoc] at h h' ⊢
  obtain ⟨htype, hrequired, hunique, hbigint, hindexed, hname, hreferences, hdefault⟩ := h
  obtain ⟨htype', hrequired', hunique', hbigint', hindexed', hname', hreferences', hdefault'⟩ := h'
  exact ⟨htype.trans htype', Value.sameKey_trans hrequired hrequired',
    Value.sameKey_trans hunique hunique', Value.sameKey_trans hbigint hbigint',
    Value.sameKey_trans hindexed hindexed', Value.sameKey_trans hname hname',
    Value.sameKey_trans hreferences hreferences', sameDefault_trans hdefault hdefault'⟩
termination_by structural k

end

/-! ## Reflexivity -/

mutual

/-- What can be a key is the same as itself. -/
theorem Value.sameKey_self {v : Value} (h : v.notKey? = none) : v.sameKey v = true := by
  cases v with
  | reference r => simpa [sameKey] using sameReference_self (by simpa [notKey?] using h)
  | default d => simpa [sameKey] using sameDefault_self (by simpa [notKey?] using h)
  | field f => simpa [sameKey] using sameField_self (by simpa [notKey?] using h)
  | list | mapping => simp [notKey?] at h
  | _ => simp [sameKey, sameScalar, numeral?, text?, isNull]

theorem sameReference_self {r : Reference} (h : referenceNotKey? r = none) :
    sameReference r r = true := by
  obtain ⟨model, column, onDelete⟩ := r
  rw [referenceNotKey?, Option.orElse_eq_none] at h
  simp [sameReference, Value.sameKey_self h.1, Value.sameKey_self h.2]

theorem sameDefault_self {d : Default} (h : defaultNotKey? d = none) : sameDefault d d = true := by
  cases d with
  | static v => simpa [sameDefault] using Value.sameKey_self (by simpa [defaultNotKey?] using h)
  | _ => simp [sameDefault]

theorem sameField_self {f : Field} (h : fieldNotKey? f = none) : sameField f f = true := by
  obtain ⟨type, required, unique, bigint, indexed, fieldName, references, default⟩ := f
  simp only [fieldNotKey?, Option.orElse_eq_none] at h
  obtain ⟨hrequired, hunique, hbigint, hindexed, hname, hreferences, hdefault⟩ := h
  simp [sameField, Value.sameKey_self hrequired, Value.sameKey_self hunique,
    Value.sameKey_self hbigint, Value.sameKey_self hindexed, Value.sameKey_self hname,
    Value.sameKey_self hreferences, sameDefault_self hdefault]

end

namespace Value

theorem checkKey_eq_ok_iff {v : Value} : v.checkKey = .ok () ↔ v.notKey? = none := by
  rw [checkKey]
  cases v.notKey? <;> simp

/-- Keys that are the same are the same as the same keys. -/
theorem sameKey_congr {a b : Value} (h : a.sameKey b = true) (c : Value) :
    a.sameKey c = b.sameKey c := by
  rw [Bool.eq_iff_iff]
  exact ⟨fun hc => sameKey_trans (sameKey_comm a b ▸ h) hc, fun hc => sameKey_trans h hc⟩

/-- Keys that are the same have the same text, if any. -/
theorem text?_eq_of_sameKey {a b : Value} (h : a.sameKey b = true) : a.text? = b.text? := by
  cases a <;> cases b <;> simp_all [sameKey, sameScalar, numeral?, text?, isNull]

end Value

end Accrete
