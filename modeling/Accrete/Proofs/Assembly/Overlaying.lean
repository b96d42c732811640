import Accrete.Proofs.Assembly.Refolding

/-!
# Declarations laid over a bag

Declarations may be laid over a bag one by one, or over each other before they are laid over the
bag.  The columns, their sequence and their fields are the same, and so is the fault if one of them
is malformed.  What has been read from a declaration is read once more as it is.

* `Bag.spelled`                 -- a bag whose columns are all spelled out
* `Value.NamesByTexts`          -- ready-made fields that name their columns by texts, if at all
* `Bag.hasTextColumns_ofValue`  -- columns that are read go by the names that their fields state
* `Bag.overlay_overlay`         -- declarations laid over a bag, and over each other
-/

namespace Accrete

/-! ## Spelling -/

namespace Value

/-- A computed kind as the text that spells it, and any other value as it is. -/
def spelled : Value → Value
  | .computedKind k => .text k.spelling
  | v => v

theorem sameKey_spelled (v w : Value) : v.spelled.sameKey w.spelled = v.sameKey w := by
  cases v <;> cases w <;> simp [spelled, sameKey, sameScalar, numeral?, text?, isNull]

theorem spelled_of_text? {v : Value} {s : String} (h : v.text? = some s) :
    v.spelled = .text s := by
  cases v <;> simp_all [spelled, text?]

/-- Texts that are the same key are spelled in the same way. -/
theorem spelled_eq_of_sameKey {v w : Value} {s : String} (h : v.sameKey w = true)
    (hw : w.text? = some s) : v.spelled = w.spelled := by
  rw [spelled_of_text? ((text?_eq_of_sameKey h).trans hw), spelled_of_text? hw]

end Value

namespace Bag

variable {b overlay : Bag}

/-- The bag with every column spelled out.  Bags that are spelled out to the same one have the same
    columns in the same sequence, with the same fields. -/
def spelled (b : Bag) : Bag := b.map fun e => (e.1.spelled, e.2)

theorem spelled_put (b : Bag) (key : Value) (f : Field) :
    (b.put key f).spelled = b.spelled.put key.spelled f := by
  induction b with
  | nil => rfl
  | cons e rest ih =>
    rw [put]
    by_cases hsame : e.1.sameKey key = true
    · simp [spelled, put, Value.sameKey_spelled, hsame]
    · simpa [spelled, put, Value.sameKey_spelled, hsame] using ih

theorem spelled_merge (b overlay : Bag) :
    (b.merge overlay).spelled = b.spelled.merge overlay.spelled := by
  induction overlay generalizing b with
  | nil => rfl
  | cons e rest ih => rw [merge_cons, ih, spelled_put]; rfl

theorem spelled_respelled (h : b.HasTextColumns) : b.respelled.spelled = b.spelled := by
  rw [spelled, spelled, respelled, List.map_map]
  refine List.map_congr_left fun e he => Prod.ext ?_ rfl
  obtain ⟨⟨s, hname, -⟩, hsame⟩ := h e he
  exact Value.spelled_eq_of_sameKey hsame hname

end Bag

/-! ## Columns that are read -/

/-- A name stands for the name that a field goes by. -/
theorem Field.GoesBy.congr {f : Field} {key name : Value} (h : f.GoesBy key)
    (hname : name.sameKey key = true) : f.GoesBy name := by
  obtain ⟨⟨s, htext, hempty⟩, hsame⟩ := h
  have hname' : key.sameKey name = true := by rwa [Value.sameKey_comm]
  refine ⟨⟨s, (Value.text?_eq_of_sameKey hname).trans htext, hempty⟩, ?_⟩
  cases htruthy : f.fieldName.isTruthy with
  | true =>
    rw [columnName_of_isTruthy htruthy] at hsame ⊢
    exact Value.sameKey_trans hsame hname'
  | false =>
    rw [columnName_of_not_isTruthy htruthy]
    exact Value.sameKey_trans hname hname'

/-- A field that is not ready-made names its column by a text, if at all. -/
theorem Field.namesByText_of_ofValue {name : Option String} {v : Value} {f : Field}
    (hv : ∀ g, v = .field g → g.NamesByText) (h : ofValue name v = .ok f) : f.NamesByText := by
  cases v with
  | field g => exact Except.ok.inj h ▸ hv g rfl
  | mapping entries =>
    obtain ⟨-, -, hname, -⟩ := ofEntries_inv h
    exact (readFieldName_eq_ok hname).imp_left fun hnull => by simp [hnull, Value.isNull]
  | _ => simp [ofValue, DeclarationError.atField] at h

/-- The ready-made fields of a mapping name their columns by texts, if at all. -/
def Value.NamesByTexts : Value → Prop
  | .mapping entries => ∀ e ∈ entries, ∀ f, e.2 = .field f → f.NamesByText
  | _ => True

namespace Bag

variable {b overlay : Bag} {table : Option String}

theorem HasTextColumns.put {key : Value} {f : Field} (hb : b.HasTextColumns)
    (hf : f.GoesBy key) : (b.put key f).HasTextColumns := by
  induction b with
  | nil => exact List.forall_mem_singleton.2 hf
  | cons e rest ih =>
    obtain ⟨he, hrest⟩ := List.forall_mem_cons.1 hb
    rw [Bag.put]
    split
    next hsame => exact List.forall_mem_cons.2 ⟨hf.congr hsame, hrest⟩
    · exact List.forall_mem_cons.2 ⟨he, ih hrest⟩

theorem HasTextColumns.merge (hb : b.HasTextColumns) (hoverlay : overlay.HasTextColumns) :
    (b.merge overlay).HasTextColumns := by
  induction overlay generalizing b with
  | nil => exact hb
  | cons e rest ih =>
    obtain ⟨he, hrest⟩ := List.forall_mem_cons.1 hoverlay
    exact ih (hb.put he) hrest

theorem goesBy_of_readEntry {key value : Value} {e : Value × Field}
    (hvalue : ∀ f, value = .field f → f.NamesByText) (h : readEntry table key value = .ok e) :
    e.2.GoesBy e.1 := by
  obtain ⟨⟨s, hkey, hempty⟩, hcolumn, hself⟩ := columnName_of_readEntry h
  obtain ⟨name, hf⟩ := readEntry_eq_ok h
  refine Field.goesBy_of_columnName (Field.namesByText_of_ofValue hvalue hf) hkey hempty ?_
  rw [← hcolumn]
  exact Value.sameKey_self hself

/-- Columns that are read go by texts, and by the names that their fields state, no two by the
    same. -/
theorem hasTextColumns_ofValue {v : Value} (hv : v.NamesByTexts) (h : ofValue table v = .ok b) :
    b.HasTextColumns ∧ b.HasDistinctNames := by
  cases v with
  | mapping entries =>
    obtain ⟨declared, hdeclared, rfl⟩ := readEntries_eq_ok.1 h
    refine ⟨HasTextColumns.merge (b := []) (by simp [HasTextColumns]) fun e he => ?_,
      distinct_merge_nil declared⟩
    obtain ⟨entry, hentry, hread⟩ := Except.exists_of_mem_mapM hdeclared he
    exact goesBy_of_readEntry (hv entry hentry) hread
  | _ => simp [ofValue] at h

/-! ## Overlays -/

/-- What was read from a declaration is read once more as it is.  Two declarations that are laid
    over a bag one by one are laid over it as well after the second has been laid over the first,
    and fail in the same way. -/
theorem overlay_overlay {first second : Value} (hfirst : first.NamesByTexts)
    (hsecond : second.NamesByTexts) (base : Bag) (table place : Option String) :
    (∀ b, ofValue table first = .ok b →
      spelled <$> ofValue place b.toValue = .ok b.spelled) ∧
    (spelled <$> do
      let b ← Bag.overlay table base first
      Bag.overlay table b second) =
    (spelled <$> do
      let b ← ofValue table first
      let declared ← Bag.overlay table b second
      Bag.overlay place base declared.toValue) := by
  refine ⟨fun b hb => ?_, ?_⟩
  · obtain ⟨hcolumns, hdistinct⟩ := hasTextColumns_ofValue hfirst hb
    rw [ofValue_toValue hcolumns hdistinct, ← spelled_respelled hcolumns]
    rfl
  · cases hb : ofValue table first with
    | error e => simp [Bag.overlay, hb, bind, Except.bind, Functor.map, Except.map]
    | ok b =>
      cases hdeclared : ofValue table second with
      | error e =>
        simp [Bag.overlay, hb, hdeclared, bind, Except.bind, Functor.map, Except.map, pure,
          Except.pure]
      | ok declared =>
        obtain ⟨hcolumns, hdistinct⟩ := hasTextColumns_ofValue hfirst hb
        have hcolumns' := hcolumns.merge (hasTextColumns_ofValue hsecond hdeclared).1
        have hread := ofValue_toValue hcolumns' (distinct_merge hdistinct) place
        simp only [Bag.overlay, hb, hdeclared, hread, bind, Except.bind, Functor.map, Except.map,
          pure, Except.pure]
        rw [spelled_merge base, spelled_respelled hcolumns', ← spelled_merge,
          merge_merge hdistinct]

/-- A ready-made field that goes by another name than its key, and a new column. -/
def renamedEmail : Value :=
  .mapping [(.text "email", .field { Field.plain .string with fieldName := .text "address" }),
    (.text "age", .mapping [(.text "type", .text "number")])]

/-- The columns of both once more, each under another key. -/
def redeclaredEmail : Value :=
  .mapping [(.text "years", .mapping [(.text "type", .text "number"),
      (.text "required", .bool false), (.text "field_name", .text "age")]),
    (.text "address", .field (.plain .json))]

theorem overlay_redeclaredEmail :
    let base : Bag := [(.text "name", .plain .string), (.text "address", .plain .string)]
    let merged : Bag := [(.text "name", .plain .string), (.text "address", .plain .json),
      (.text "age", { Field.plain .number with
        required := .bool false
        fieldName := .text "age" })]
    (Bag.overlay none base renamedEmail >>= fun b => Bag.overlay none b redeclaredEmail) =
        .ok merged ∧
      (spelled <$> do
        let b ← ofValue none renamedEmail
        let declared ← Bag.overlay none b redeclaredEmail
        Bag.overlay none base declared.toValue) = .ok merged := by
  intro base merged
  have hfirst : renamedEmail.NamesByTexts := by
    simp only [Value.NamesByTexts, renamedEmail, List.forall_mem_cons]
    simp [Field.NamesByText, Field.plain, Value.text?]
  have hsecond : redeclaredEmail.NamesByTexts := by
    simp only [Value.NamesByTexts, redeclaredEmail, List.forall_mem_cons]
    simp [Field.NamesByText, Field.plain, Value.isNull]
  have hmerged : (Bag.overlay none base renamedEmail >>= fun b =>
      Bag.overlay none b redeclaredEmail) = .ok merged := by cbv
  refine ⟨hmerged, ?_⟩
  rw [← (overlay_overlay hfirst hsecond base none none).2, hmerged]
  rfl

end Bag

end Accrete
