import Accrete.Proofs.Assembly.Misuse
import Mathlib

/-!
# Parts of the right kinds

A field that is read from a loose declaration has parts of the right kinds, except that nothing is
checked of the model and the column of a reference but that the model is not blank.

* `Field.IsTyped`       -- a field with parts of the right kinds
* `Value.RefersByNames` -- a declaration whose reference gives names of the table and the column
* `Reference.isTyped_iff_givesNames` -- when the reference that is read from a loose value is typed
* `Field.isTyped_iff_refersByNames`  -- and when the field is
-/

namespace Accrete

/-- A text that is not empty. -/
def Value.IsName (v : Value) : Prop := ∃ s, v = .text s ∧ s ≠ ""

/-! ## References -/

/-- A reference that gives names of a table and of a column, and one of the four actions if it gives
    any. -/
structure Reference.IsTyped (r : Reference) : Prop where
  model : r.model.IsName
  column : r.column.IsName
  action : ∀ o, r.onDelete = some o → o.action ∈ OnDelete.actions

/-- What stands for a reference, if it is a mapping, gives a text as its model and a name as its
    column, unless it gives no column. -/
def Value.GivesNames (v : Value) : Prop :=
  ∀ parts, v = .mapping parts →
    (∀ model, get? parts "model" = some model → ∃ s, model = .text s) ∧
      ∀ column, get? parts "field" = some column → column.IsName

namespace Reference

/-- A reference is made of its parts as they are. -/
theorem make_eq_ok {model column action : Value} {r : Reference}
    (h : make model column action = .ok r) :
    model.isTruthy = true ∧ r.model = model ∧ r.column = column := by
  rw [make, Except.guard_eq_ok] at h
  obtain ⟨htruthy, h⟩ := h
  obtain ⟨o, -, h⟩ := Except.bind_eq_ok.1 h
  obtain rfl := Except.pure_eq_ok.1 h
  exact ⟨by simpa using htruthy, rfl, rfl⟩

/-- The action of a reference is checked, so that the model and the column decide. -/
theorem isTyped_of_make {model column action : Value} {r : Reference}
    (h : make model column action = .ok r) :
    r.IsTyped ↔ (∃ s, model = .text s) ∧ column.IsName := by
  obtain ⟨htruthy, hmodel, hcolumn⟩ := make_eq_ok h
  constructor
  · rintro ⟨⟨s, hs, -⟩, hname, -⟩
    exact ⟨⟨s, hmodel ▸ hs⟩, hcolumn ▸ hname⟩
  · rintro ⟨⟨s, rfl⟩, hname⟩
    refine ⟨⟨s, hmodel, ?_⟩, hcolumn ▸ hname, fun o _ => o.isAction⟩
    simpa [Value.isTruthy] using htruthy

theorem isName_defaultColumn : (Value.text defaultColumn).IsName := ⟨_, rfl, by decide⟩

/-- A text is read as a model and a column, and an empty column is none. -/
theorem isTyped_of_ofText {s : String} {r : Reference} (h : ofText s = .ok r) : r.IsTyped := by
  rw [ofText] at h
  generalize splitAtPoint s = cut at h
  obtain ⟨model, column⟩ := cut
  refine (isTyped_of_make h).2 ⟨⟨model, rfl⟩, ?_⟩
  cases hempty : column.isEmpty with
  | true => exact isName_defaultColumn
  | false => exact ⟨column, rfl, by simpa using hempty⟩

/-- A loose value is read to no reference, or to one that is typed just where it gives names. -/
theorem isTyped_iff_givesNames {name : Option String} {v w : Value} (hv : v.isLoose = true)
    (h : ofValue name v = .ok w) :
    (w = .null ∨ ∃ r, w = .reference r ∧ r.IsTyped) ↔ v.GivesNames := by
  cases v with
  | null => exact iff_of_true (.inl (Except.ok.inj h).symm) (by simp [Value.GivesNames])
  | text s =>
    obtain ⟨r, hr, rfl⟩ := Except.map_eq_ok.1 h
    exact iff_of_true (.inr ⟨r, rfl, isTyped_of_ofText hr⟩) (by simp [Value.GivesNames])
  | mapping parts =>
    rw [ofValue] at h
    cases hmodel : Value.get? parts "model" with
    | none => simp [hmodel, DeclarationError.atField] at h
    | some model =>
      rw [hmodel] at h
      obtain ⟨r, hr, rfl⟩ := Except.map_eq_ok.1 h
      -- a column that is left out is the default one, which is a name
      have hcolumn : ((Value.get? parts "field").getD (.text defaultColumn)).IsName ↔
          ∀ column, Value.get? parts "field" = some column → column.IsName := by
        cases Value.get? parts "field" with
        | none => simp [isName_defaultColumn]
        | some column => simp
      simp [Value.GivesNames, isTyped_of_make hr, hmodel, hcolumn]
  | reference r | computedKind k => simp [Value.isLoose] at hv
  | _ => simp [ofValue, DeclarationError.atField] at h

end Reference

/-! ## Fields -/

/-- A field with truth values for flags, a text for a name, if it has one, and a reference that is
    typed, if it has one. -/
structure Field.IsTyped (f : Field) : Prop where
  flags : ∀ v ∈ [f.required, f.unique, f.bigint, f.indexed], ∃ b, v = .bool b
  fieldName : f.fieldName = .null ∨ ∃ s, f.fieldName = .text s
  references : f.references = .null ∨ ∃ r, f.references = .reference r ∧ r.IsTyped

namespace Value

/-- The part of a declaration that goes by a name. -/
def part? (name : String) : Value → Option Value
  | .mapping entries => get? entries name
  | _ => none

/-- The reference of a declaration, if it has one, gives names. -/
def RefersByNames (v : Value) : Prop :=
  ∀ stated, v.part? "references" = some stated → stated.GivesNames

/-- A loose value that counts as a text is one. -/
theorem eq_text_of_isLoose {v : Value} {s : String} (hv : v.isLoose = true)
    (h : v.text? = some s) : v = .text s := by
  cases v <;> simp_all [isLoose, text?]

end Value

namespace Field

variable {name : Option String} {entries : List (Value × Value)}

theorem readFlag_eq_ok {flag : String} {unset : Bool} {w : Value}
    (h : readFlag name entries flag unset = .ok w) : ∃ b, w = .bool b := by
  rw [readFlag] at h
  split at h
  · exact ⟨unset, (Except.ok.inj h).symm⟩
  next b _ => exact ⟨b, (Except.ok.inj h).symm⟩
  · simp [DeclarationError.atField] at h

/-- The type of a field is the one that is spelled in its declaration. -/
theorem spelling_of_readType (hv : (Value.mapping entries).isLoose = true) {type : LogicalType}
    (h : readType name entries = .ok type) :
    Value.get? entries "type" = some (.text type.spelling) := by
  obtain ⟨v, hstated, htype⟩ := Option.bind_eq_some_iff.1 (readType_eq_ok.1 h)
  obtain ⟨s, htext, hs⟩ := Option.bind_eq_some_iff.1 htype
  have hspelling : type.spelling = s := by simpa using List.find?_some hs
  rw [hstated, Value.eq_text_of_isLoose (Value.isLoose_get? hv hstated) htext, hspelling]

theorem fieldName_of_readFieldName (hv : (Value.mapping entries).isLoose = true) {w : Value}
    (h : readFieldName name entries = .ok w) : w = .null ∨ ∃ s, w = .text s := by
  have hloose : w.isLoose = true := by
    rw [readFieldName_eq h]
    cases hstated : Value.get? entries "field_name" with
    | none => rfl
    | some stated => exact Value.isLoose_get? hv hstated
  refine (readFieldName_eq_ok h).imp_right fun htext => ?_
  obtain ⟨s, hs⟩ := Option.isSome_iff_exists.1 htext
  exact ⟨s, Value.eq_text_of_isLoose hloose hs⟩

/-- A field that is read from a loose declaration has the type that is spelled there, and is typed
    just where the reference of the declaration gives names. -/
theorem isTyped_iff_refersByNames {v : Value} {f : Field} (hv : v.isLoose = true)
    (h : ofValue name v = .ok f) :
    v.part? "type" = some (.text f.type.spelling) ∧ (f.IsTyped ↔ v.RefersByNames) := by
  cases v with
  | mapping entries =>
    obtain ⟨htype, ⟨hrequired, hunique, hbigint, hindexed⟩, hname, hreferences⟩ := ofEntries_inv h
    refine ⟨spelling_of_readType hv htype, ?_⟩
    have hflags : ∀ w ∈ [f.required, f.unique, f.bigint, f.indexed], ∃ b, w = .bool b := by
      simp only [List.forall_mem_cons, List.not_mem_nil, false_implies, implies_true, and_true]
      exact ⟨readFlag_eq_ok hrequired, readFlag_eq_ok hunique, readFlag_eq_ok hbigint,
        readFlag_eq_ok hindexed⟩
    have hreference : (f.references = .null ∨ ∃ r, f.references = .reference r ∧ r.IsTyped) ↔
        (Value.mapping entries).RefersByNames := by
      rw [Value.RefersByNames, Value.part?]
      cases hstated : Value.get? entries "references" with
      | none =>
        rw [hstated] at hreferences
        exact iff_of_true (.inl (Except.ok.inj hreferences).symm) (by simp)
      | some stated =>
        rw [hstated] at hreferences
        rw [Reference.isTyped_iff_givesNames (Value.isLoose_get? hv hstated) hreferences]
        simp
    -- of all the parts only the reference is in question
    rw [← hreference]
    exact ⟨IsTyped.references, fun h => ⟨hflags, fieldName_of_readFieldName hv hname, h⟩⟩
  | field g => simp [Value.isLoose] at hv
  | _ => simp [ofValue, DeclarationError.atField] at h

/-- The declaration of a column that references another table by a mapping. -/
def authorDeclaration (reference : List (Value × Value)) : Value :=
  .mapping [(.text "type", .text "string"), (.text "required", .bool false),
    (.text "references", .mapping reference)]

/-- What it is read to. -/
def authorField (model column : Value) (action : Option OnDelete) : Field :=
  ⟨.string, .bool false, .bool false, .bool false, .bool false, .null,
    .reference ⟨model, column, action⟩, .none⟩

theorem author_isTyped :
    let declared := authorDeclaration [(.text "model", .text "user"),
      (.text "field", .text "email"), (.text "on_delete", .text "set null")]
    let read := authorField (.text "user") (.text "email") (some ⟨"set null", by decide⟩)
    declared.isLoose = true ∧ ofValue none declared = .ok read ∧ read.IsTyped := by
  intro declared read
  have hloose : declared.isLoose = true := by decide
  have hread : ofValue none declared = .ok read := by cbv
  refine ⟨hloose, hread, (isTyped_iff_refersByNames hloose hread).2.2 fun stated hstated => ?_⟩
  obtain rfl := Option.some.inj hstated
  intro parts hparts
  obtain rfl := Value.mapping.inj hparts
  refine ⟨fun model hmodel => ⟨"user", (Option.some.inj hmodel).symm⟩,
    fun column hcolumn => ⟨"email", (Option.some.inj hcolumn).symm, by decide⟩⟩

/-- A list is taken for a model, and an empty text for a column. -/
theorem author_not_isTyped :
    let listed := authorDeclaration [(.text "model", .list [.text "user"])]
    let blank := authorDeclaration [(.text "model", .text "user"), (.text "field", .text "")]
    (listed.isLoose = true ∧
      ofValue none listed = .ok (authorField (.list [.text "user"]) (.text "id") none) ∧
      ¬ (authorField (.list [.text "user"]) (.text "id") none).IsTyped) ∧
    blank.isLoose = true ∧
      ofValue none blank = .ok (authorField (.text "user") (.text "") none) ∧
      ¬ (authorField (.text "user") (.text "") none).IsTyped := by
  refine ⟨⟨by decide, by cbv, fun typed => ?_⟩, by decide, by cbv, fun typed => ?_⟩
  · obtain ⟨r, hr, ⟨⟨s, hs, -⟩, -, -⟩⟩ := typed.references.resolve_left (by simp [authorField])
    obtain rfl := Value.reference.inj hr
    cases hs
  · obtain ⟨r, hr, ⟨-, ⟨s, hs, hempty⟩, -⟩⟩ := typed.references.resolve_left (by simp [authorField])
    obtain rfl := Value.reference.inj hr
    exact hempty (Value.text.inj hs).symm

end Field

end Accrete
