import Accrete.Proofs.Assembly.Malformed
import Accrete.Proofs.Assembly.Misuse

/-!
# Assembly of loose declarations

Whatever is wrong with a fragment made of null, truth values, numbers, texts, lists and mappings,
it is skipped, except for two misuses that stop assembly: a delete action that is neither null nor
a text, and a list or a mapping as the model of a reference.

* `Schema.exists_gather_iff`    -- gathering returns unless a fragment misuses a value
* `Schema.checkReferences_iff`  -- resolution, unless a model is a list or a mapping
* `Schema.assemble_returns_iff` -- when assembly returns, and what it has reported then
-/

namespace Accrete

namespace Schema

variable {s s' : Schema} {fragments : List Fragment}

theorem misuses_contribute {f : Fragment} :
    Misuses (s.contribute f) ↔ Misuses (Bag.ofValue (some f.tableName) f.fields) := by
  rw [contribute]
  cases s.find? f.tableName <;> simp [Bag.overlay, misuses_map]

/-- Gathering returns unless a fragment misuses a value. -/
theorem exists_gather_iff :
    (∃ s', (gather s fragments).outcome = .ok s') ↔
      ∀ f ∈ fragments, ¬ Misuses (Bag.ofValue (some f.tableName) f.fields) := by
  induction fragments generalizing s with
  | nil => simp [gather]
  | cons f rest ih =>
    rw [List.forall_mem_cons, ← misuses_contribute (s := s), gather]
    cases hcontribute : s.contribute f with
    | ok s₁ => simp [ih]
    | error e =>
      cases e with
      -- what is refused is reported, and only a misuse stops
      | refused fault => simp [Logged.outcome_bind_eq_ok, ih]
      | misused cause => simp [Logged.fail]

/-- What holds of all fields that the fragments declare holds of those that are gathered. -/
theorem forall_gather {P : Field → Prop}
    (hfragments : ∀ f ∈ fragments, ∀ b, Bag.ofValue (some f.tableName) f.fields = .ok b →
      ∀ e ∈ b, P e.2)
    (hs : ∀ t ∈ s, ∀ e ∈ t.fields, P e.2) (h : (gather s fragments).outcome = .ok s') :
    ∀ t ∈ s', ∀ e ∈ t.fields, P e.2 := by
  refine gather_induction (motive := fun s => ∀ t ∈ s, ∀ e ∈ t.fields, P e.2)
    (fun f hf s s' hcontribute hs u hu => ?_) hs h
  obtain ⟨t, base, rfl, hfields, hbase⟩ := contribute_eq_ok hcontribute
  rcases mem_of_mem_put hu with hu | rfl
  · exact hs u hu
  · -- the fields of the fragment are laid over those of the table, if it was there
    obtain ⟨b, hb, hmerge⟩ := Except.bind_eq_ok.1 hfields
    obtain hmerge := Except.pure_eq_ok.1 hmerge
    rw [← hmerge]
    refine Bag.forall_merge ?_ (hfragments f hf b hb)
    rcases hbase with rfl | ⟨v, hv, rfl⟩
    · simp
    · exact hs v hv

/-- A reference of the schema has a list or a mapping as its model. -/
def HasContainerModel (s : Schema) : Prop :=
  ∃ t ∈ s, ∃ e ∈ t.fields, ∃ r, e.2.reference? = some r ∧ r.model.isContainer = true

/-- The references of fields that were read can be followed unless the model of one is a list or a
    mapping. -/
theorem checkReferences_iff (h : ∀ t ∈ s, ∀ e ∈ t.fields, e.2.IsRead) :
    (∀ t ∈ s, t.checkReferences = .ok ()) ↔ ¬ s.HasContainerModel := by
  simp only [Table.checkReferences, Except.forM_eq_ok, HasContainerModel, not_exists, not_and,
    Bool.not_eq_true]
  refine forall₂_congr fun t ht => forall₂_congr fun e he => ?_
  rw [(h t ht e he).checkReference_eq_ok]
  exact forall₂_congr fun r hr => Value.checkKey_eq_ok_of_isLoose ((h t ht e he).isLoose_model hr)

/-- Assembly of loose declarations returns, unless a delete action is misstated where nothing before
    it is refused, or a reference that is gathered has a list or a mapping as its model.  If it does
    return, it has reported every malformed fragment. -/
theorem assemble_returns_iff (hloose : ∀ f ∈ fragments, f.fields.isLoose = true) :
    ((∃ s, (assemble fragments).outcome = .ok s) ↔
      (∀ f ∈ fragments, ¬ Bag.MisstatesAction (some f.tableName) f.fields) ∧
        ∀ gathered, (gather [] fragments).outcome = .ok gathered →
          ¬ gathered.HasContainerModel) ∧
    ∀ s, (assemble fragments).outcome = .ok s →
      (assemble fragments).events = fragments.filterMap Fragment.skipped? ++ s.orderWarnings := by
  have hread : ∀ gathered, (gather [] fragments).outcome = .ok gathered →
      ∀ t ∈ gathered, ∀ e ∈ t.fields, e.2.IsRead := fun gathered =>
    forall_gather (fun f hf b => Bag.isRead_of_ofValue (hloose f hf)) (by simp)
  have hgather : (∃ gathered, (gather [] fragments).outcome = .ok gathered) ↔
      ∀ f ∈ fragments, ¬ Bag.MisstatesAction (some f.tableName) f.fields :=
    exists_gather_iff.trans
      (forall₂_congr fun f hf => not_congr (Bag.misuses_ofValue (hloose f hf)))
  refine ⟨?_, fun s hs => ?_⟩
  · rw [← hgather]
    simp only [assemble_eq_ok]
    constructor
    · rintro ⟨_, gathered, hgathered, hcheck, -⟩
      -- there is only one schema that is gathered
      refine ⟨⟨gathered, hgathered⟩, fun gathered' h => ?_⟩
      obtain rfl := Except.ok.inj (hgathered.symm.trans h)
      exact (checkReferences_iff (hread gathered hgathered)).1 hcheck
    · rintro ⟨⟨gathered, hgathered⟩, hmodels⟩
      exact ⟨_, gathered, hgathered,
        (checkReferences_iff (hread gathered hgathered)).2 (hmodels gathered hgathered), rfl⟩
  · obtain ⟨gathered, hgathered, -, hevents⟩ := assemble_inv hs
    rw [hevents, events_gather hgathered]

/-- Fragments with a truth value for a bag, a list for a field and a list for a flag, and one that
    is well formed. -/
def oddFragments : List Fragment :=
  [⟨"a", .bool true, none, none, [], []⟩,
    ⟨"b", .mapping [(.text "x", .list [.null])], none, none, [], []⟩,
    ⟨"c", .mapping [(.text "x", .mapping
      [(.text "type", .text "string"), (.text "required", .list [])])], none, none, [], []⟩,
    userReferrer]

theorem assemble_oddFragments_returns : ∃ s, (assemble oddFragments).outcome = .ok s := by
  have hloose : ∀ f ∈ oddFragments, f.fields.isLoose = true := by decide
  have hread : ∀ f ∈ oddFragments, ¬ Misuses (Bag.ofValue (some f.tableName) f.fields) := by
    decide +kernel
  have hgathered : (gather [] oddFragments).outcome = .ok [referrerTo "user"] := by cbv
  refine (assemble_returns_iff hloose).1.2 ⟨fun f hf => ?_, fun gathered h => ?_⟩
  · rw [← Bag.misuses_ofValue (hloose f hf)]
    exact hread f hf
  · obtain rfl := Except.ok.inj (hgathered.symm.trans h)
    simp [HasContainerModel, referrerTo, Field.reference?, Value.isContainer]

/-- A table with one column, which references another table by a mapping. -/
def mappedReferrer (reference : List (Value × Value)) : Fragment :=
  ⟨"post", .mapping [(.text "author", .mapping
    [(.text "type", .text "string"), (.text "references", .mapping reference)])],
    none, none, [], []⟩

/-- A list for a delete action is loose, and stops assembly.  So is and does a list for a model. -/
theorem assemble_mappedReferrer_stops :
    let action := mappedReferrer
      [(.text "model", .text "user"), (.text "on_delete", .list [.text "CASCADE"])]
    let model := mappedReferrer [(.text "model", .list [.text "user"])]
    (action.fields.isLoose = true ∧ ¬ ∃ s, (assemble [action]).outcome = .ok s) ∧
      model.fields.isLoose = true ∧ ¬ ∃ s, (assemble [model]).outcome = .ok s := by
  have haction : (assemble [mappedReferrer [(.text "model", .text "user"),
      (.text "on_delete", .list [.text "CASCADE"])]]).outcome =
        .error (.declaration (.misused (.lacks "list" "upper"))) := by cbv
  have hmodel : (assemble [mappedReferrer [(.text "model", .list [.text "user"])]]).outcome =
      .error (.misused (.notKey "list")) := by cbv
  exact ⟨⟨by decide, by simp [haction]⟩, by decide, by simp [hmodel]⟩

end Schema

end Accrete
