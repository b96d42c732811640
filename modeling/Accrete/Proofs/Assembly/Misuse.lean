import Accrete.Bag
import Accrete.CreationOrder
import Accrete.Proofs.Logged

/-!
# Misuse in declarations

Reading a declaration refuses whatever breaks the contract.  Of loose declarations, in which nothing
stands ready-made, it misuses only one kind of value: a delete action that is neither null nor a
text, where everything before it is right.

* `Value.isLoose`               -- nothing in a value stands ready-made
* `Misuses`                     -- reading stops at a value of the wrong kind
* `Reference.misuses_ofValue`, `Field.misuses_ofValue`, `Bag.misuses_ofValue` -- when it does
* `Field.IsRead`                -- what holds of a field that was read from a loose value
* `Bag.isRead_of_ofValue`       -- and so of all fields of a bag
-/

namespace Accrete

mutual

/-- Whether nothing in a value stands ready-made. -/
def Value.isLoose : Value → Bool
  | .null | .bool _ | .number _ | .text _ => true
  | .list items => areLoose items
  | .mapping entries => entriesAreLoose entries
  | _ => false

def areLoose : List Value → Bool
  | [] => true
  | v :: rest => v.isLoose && areLoose rest

/-- Whether the values of entries are loose, and their keys too. -/
def entriesAreLoose : List (Value × Value) → Bool
  | [] => true
  | e :: rest => entryIsLoose e && entriesAreLoose rest

def entryIsLoose : Value × Value → Bool
  | (k, v) => k.isLoose && v.isLoose

end

theorem entriesAreLoose_iff {entries : List (Value × Value)} :
    entriesAreLoose entries = true ↔
      ∀ e ∈ entries, e.1.isLoose = true ∧ e.2.isLoose = true := by
  induction entries with
  | nil => simp [entriesAreLoose]
  | cons e rest ih =>
    obtain ⟨k, v⟩ := e
    simp [entriesAreLoose, entryIsLoose, ih]

theorem Value.isLoose_get? {entries : List (Value × Value)} {key : String} {v : Value}
    (h : (Value.mapping entries).isLoose = true) (hget : get? entries key = some v) :
    v.isLoose = true := by
  obtain ⟨e, he, rfl⟩ := Option.map_eq_some_iff.1 hget
  rw [isLoose] at h
  exact (entriesAreLoose_iff.1 h e (List.mem_of_find?_eq_some he)).2

namespace Value

def isContainer : Value → Bool
  | .list _ | .mapping _ => true
  | _ => false

/-- A loose value is a key unless it is a list or a mapping. -/
theorem checkKey_eq_ok_of_isLoose {v : Value} (h : v.isLoose = true) :
    v.checkKey = .ok () ↔ v.isContainer = false := by
  cases v <;> simp_all [isLoose, checkKey, notKey?, isContainer]

theorem checkKey_of_text? {v : Value} (h : v.text?.isSome = true) : v.checkKey = .ok () := by
  cases v <;> simp_all [text?, checkKey, notKey?]

end Value

/-! ## Misuse -/

section Misuse

variable {α β : Type}

/-- Reading stops because of a value of the wrong kind, which is no fault of the declaration. -/
def Misuses (x : Except DeclarationError α) : Prop := ∃ cause, x = .error (.misused cause)

@[simp] theorem not_misuses_ok (a : α) : ¬ Misuses (.ok a) := by simp [Misuses]

@[simp] theorem not_misuses_pure (a : α) : ¬ Misuses (pure a) := not_misuses_ok a

@[simp] theorem not_misuses_refused (fault : Fault) :
    ¬ Misuses (.error (.refused fault) : Except DeclarationError α) := by simp [Misuses]

@[simp] theorem misuses_misused (cause : Misuse) :
    Misuses (.error (.misused cause) : Except DeclarationError α) := ⟨cause, rfl⟩

theorem misuses_bind {x : Except DeclarationError α} {f : α → Except DeclarationError β} :
    Misuses (x >>= f) ↔ Misuses x ∨ ∃ a, x = .ok a ∧ Misuses (f a) := by
  cases x <;> simp [bind, Except.bind, Misuses]

theorem misuses_map {x : Except DeclarationError α} {f : α → β} :
    Misuses (f <$> x) ↔ Misuses x := by
  cases x <;> simp [Functor.map, Except.map, Misuses]

theorem misuses_mapError_placeError {x : Except DeclarationError α} {table : Option String}
    {key : String} : Misuses (x.mapError (Bag.placeError table key)) ↔ Misuses x := by
  obtain (fault | cause) | a := x <;> simp [Except.mapError, Bag.placeError, Misuses]

instance : (x : Except DeclarationError α) → Decidable (Misuses x)
  | .ok a => isFalse (not_misuses_ok a)
  | .error (.refused fault) => isFalse (not_misuses_refused fault)
  | .error (.misused cause) => isTrue (misuses_misused cause)

end Misuse

/-! ## References -/

namespace Reference

/-- The mapping of a reference has a model, and an action that is neither null nor a text. -/
def MisstatesAction (v : Value) : Prop :=
  ∃ entries model action, v = .mapping entries ∧
    Value.get? entries "model" = some model ∧ model.isTruthy = true ∧
    Value.get? entries "on_delete" = some action ∧ action.isNull = false ∧ action.text? = none

theorem misstatesAction_getD {v : Option Value} :
    MisstatesAction (v.getD .null) ↔ ∃ w, v = some w ∧ MisstatesAction w := by
  cases v <;> simp [MisstatesAction]

theorem misuses_readAction {v : Value} :
    Misuses (readAction v) ↔ v.isNull = false ∧ v.text? = none := by
  rw [readAction.eq_def]
  split
  · simp [Value.isNull]
  next hnull =>
    have hnotNull : v.isNull = false := by cases v <;> simp_all [Value.isNull]
    cases htext : v.text? with
    | none => simp [hnotNull]
    | some s =>
      cases hspelling : OnDelete.ofSpelling? s <;> simp [DeclarationError.atField, hspelling]

theorem misuses_make {model column action : Value} :
    Misuses (make model column action) ↔
      model.isTruthy = true ∧ action.isNull = false ∧ action.text? = none := by
  rw [make, ← misuses_readAction]
  cases model.isTruthy with
  | true => simp [misuses_map]
  | false =>
    simp [throw, throwThe, MonadExceptOf.throw, DeclarationError.atField, bind, Except.bind]

theorem misuses_ofValue {name : Option String} {v : Value} :
    Misuses (ofValue name v) ↔ MisstatesAction v := by
  cases v with
  | mapping entries =>
    rw [ofValue]
    cases hmodel : Value.get? entries "model" with
    | none => simp [MisstatesAction, hmodel, DeclarationError.atField]
    | some model =>
      simp only [misuses_map, misuses_make, MisstatesAction]
      constructor
      · rintro ⟨htruthy, hnull, htext⟩
        -- an action that is left out counts as null
        cases haction : Value.get? entries "on_delete" with
        | none => simp [haction, Value.isNull] at hnull
        | some action =>
          rw [haction] at hnull htext
          exact ⟨entries, model, action, rfl, hmodel, htruthy, haction, hnull, htext⟩
      · rintro ⟨_, _, action, heq, hmodel', htruthy, haction, hnull, htext⟩
        obtain rfl := Value.mapping.inj heq
        obtain rfl := Option.some.inj (hmodel.symm.trans hmodel')
        rw [haction]
        exact ⟨htruthy, hnull, htext⟩
  | text s => simp [ofValue, ofText, misuses_map, misuses_make, MisstatesAction, Value.isNull]
  | computedKind k => simp [ofValue, misuses_map, misuses_make, MisstatesAction, Value.isNull]
  | _ => simp [ofValue, MisstatesAction, DeclarationError.atField]

/-- What a loose value declares is no reference, or one with a loose model. -/
theorem ofValue_eq_ok_of_isLoose {name : Option String} {v w : Value} (hv : v.isLoose = true)
    (h : ofValue name v = .ok w) :
    w = .null ∨ ∃ r, w = .reference r ∧ r.model.isLoose = true := by
  -- a text and a mapping both make a reference from their parts, and take the model as it is
  have hmake : ∀ {model column action : Value}, model.isLoose = true →
      .reference <$> make model column action = .ok w →
        w = .null ∨ ∃ r, w = .reference r ∧ r.model.isLoose = true := by
    intro model column action hmodel h
    obtain ⟨r, hr, rfl⟩ := Except.map_eq_ok.1 h
    rw [make, Except.guard_eq_ok] at hr
    obtain ⟨-, hr⟩ := hr
    obtain ⟨action, -, hr⟩ := Except.bind_eq_ok.1 hr
    obtain rfl := Except.pure_eq_ok.1 hr
    exact .inr ⟨_, rfl, hmodel⟩
  cases v with
  | null => exact .inl (Except.ok.inj h).symm
  | text s => exact hmake (by simp [Value.isLoose]) h
  | mapping entries =>
    rw [ofValue] at h
    split at h
    · simp [DeclarationError.atField] at h
    next model hmodel => exact hmake (Value.isLoose_get? hv hmodel) h
  | reference r | computedKind k => simp [Value.isLoose] at hv
  | _ => simp [ofValue, DeclarationError.atField] at h

end Reference

/-! ## Fields -/

namespace Field

/-- The names of the flags of a field. -/
def flagNames : List String := ["required", "unique", "bigint", "indexed"]

/-- A field is declared rightly up to its reference, which misstates its action. -/
def MisstatesAction (v : Value) : Prop :=
  ∃ entries, v = .mapping entries ∧
    (∃ type, (Value.get? entries "type").bind LogicalType.ofValue? = some type) ∧
    (∀ flag ∈ flagNames, ∀ w, Value.get? entries flag = some w → ∃ b, w = .bool b) ∧
    (∀ w, Value.get? entries "field_name" = some w → w.isNull = true ∨ w.text?.isSome = true) ∧
    ∃ w, Value.get? entries "references" = some w ∧ Reference.MisstatesAction w

section Parts

variable {name : Option String} {entries : List (Value × Value)}

theorem readType_eq_ok {type : LogicalType} :
    readType name entries = .ok type ↔
      (Value.get? entries "type").bind LogicalType.ofValue? = some type := by
  rw [readType]
  cases htype : Value.get? entries "type" with
  | none => simp [DeclarationError.atField]
  | some v =>
    cases v with
    | null => simp [DeclarationError.atField, LogicalType.ofValue?, Value.text?]
    | _ =>
      simp only [Option.getD_some, Option.bind_some]
      split <;> simp_all [DeclarationError.atField]

theorem exists_readType_iff :
    (∃ type, readType name entries = .ok type) ↔
      ∃ type, (Value.get? entries "type").bind LogicalType.ofValue? = some type :=
  exists_congr fun _ => readType_eq_ok

theorem not_misuses_readType : ¬ Misuses (readType name entries) := by
  rw [readType]
  split
  · simp [DeclarationError.atField]
  · split <;> simp [DeclarationError.atField]

theorem exists_readFlag_iff {flag : String} {unset : Bool} :
    (∃ w, readFlag name entries flag unset = .ok w) ↔
      ∀ w, Value.get? entries flag = some w → ∃ b, w = .bool b := by
  rw [readFlag]
  cases hflag : Value.get? entries flag with
  | none => simp
  | some v => cases v <;> simp [DeclarationError.atField]

theorem not_misuses_readFlag {flag : String} {unset : Bool} :
    ¬ Misuses (readFlag name entries flag unset) := by
  rw [readFlag]
  split <;> simp [DeclarationError.atField]

theorem readFieldName_eq {w : Value} (h : readFieldName name entries = .ok w) :
    w = (Value.get? entries "field_name").getD .null := by
  rw [readFieldName] at h
  split at h
  next hnull => rw [← Except.ok.inj h, hnull]
  · split at h
    · exact (Except.ok.inj h).symm
    · simp [DeclarationError.atField] at h

theorem readFieldName_eq_ok {w : Value} (h : readFieldName name entries = .ok w) :
    w = .null ∨ w.text?.isSome = true := by
  rw [readFieldName] at h
  split at h
  · exact .inl (Except.ok.inj h).symm
  · split at h
    next htext => exact .inr (Except.ok.inj h ▸ htext)
    · simp [DeclarationError.atField] at h

theorem exists_readFieldName_iff :
    (∃ w, readFieldName name entries = .ok w) ↔
      ∀ w, Value.get? entries "field_name" = some w → w.isNull = true ∨ w.text?.isSome = true := by
  rw [readFieldName]
  cases hname : Value.get? entries "field_name" with
  | none => simp
  | some v => cases v <;> simp [DeclarationError.atField, Value.isNull, Value.text?]

theorem not_misuses_readFieldName : ¬ Misuses (readFieldName name entries) := by
  rw [readFieldName]
  split
  · simp
  · split <;> simp [DeclarationError.atField]

/-- Each part of a field is read from the entries of its declaration. -/
theorem ofEntries_inv {f : Field} (h : ofEntries name entries = .ok f) :
    readType name entries = .ok f.type ∧
      (readFlag name entries "required" true = .ok f.required ∧
        readFlag name entries "unique" false = .ok f.unique ∧
        readFlag name entries "bigint" false = .ok f.bigint ∧
        readFlag name entries "indexed" false = .ok f.indexed) ∧
      readFieldName name entries = .ok f.fieldName ∧
      Reference.ofValue name ((Value.get? entries "references").getD .null) =
        .ok f.references := by
  obtain ⟨type, htype, h⟩ := Except.bind_eq_ok.1 h
  obtain ⟨required, hrequired, h⟩ := Except.bind_eq_ok.1 h
  obtain ⟨unique, hunique, h⟩ := Except.bind_eq_ok.1 h
  obtain ⟨bigint, hbigint, h⟩ := Except.bind_eq_ok.1 h
  obtain ⟨indexed, hindexed, h⟩ := Except.bind_eq_ok.1 h
  obtain ⟨fieldName, hname, h⟩ := Except.bind_eq_ok.1 h
  obtain ⟨references, hreferences, h⟩ := Except.bind_eq_ok.1 h
  obtain rfl := Except.pure_eq_ok.1 h
  exact ⟨htype, ⟨hrequired, hunique, hbigint, hindexed⟩, hname, hreferences⟩

end Parts

theorem misuses_ofValue {name : Option String} {v : Value} :
    Misuses (ofValue name v) ↔ MisstatesAction v := by
  cases v with
  | mapping entries =>
    -- every part but the last is read without misuse
    simp only [ofValue, ofEntries, misuses_bind, not_misuses_readType, not_misuses_readFlag,
      not_misuses_readFieldName, Reference.misuses_ofValue, not_misuses_pure, false_or, or_false,
      and_false, exists_false, exists_and_right, exists_readType_iff, exists_readFlag_iff,
      exists_readFieldName_iff, Reference.misstatesAction_getD]
    simp only [MisstatesAction, flagNames, Value.mapping.injEq, exists_eq_left',
      List.forall_mem_cons, List.not_mem_nil, false_implies, implies_true, and_true, and_assoc]
  | _ => simp [ofValue, MisstatesAction, DeclarationError.atField]

/-- A field as it is read from a loose value. -/
structure IsRead (f : Field) : Prop where
  fieldName : f.fieldName = .null ∨ f.fieldName.text?.isSome = true
  references : f.references = .null ∨
    ∃ r, f.references = .reference r ∧ r.model.isLoose = true

theorem isRead_of_ofValue {name : Option String} {v : Value} {f : Field} (hv : v.isLoose = true)
    (h : ofValue name v = .ok f) : f.IsRead := by
  cases v with
  | mapping entries =>
    obtain ⟨-, -, hname, hreferences⟩ := ofEntries_inv h
    refine ⟨readFieldName_eq_ok hname, Reference.ofValue_eq_ok_of_isLoose ?_ hreferences⟩
    cases hstated : Value.get? entries "references" with
    | none => rfl
    | some w => exact Value.isLoose_get? hv hstated
  | field f => simp [Value.isLoose] at hv
  | _ => simp [ofValue, DeclarationError.atField] at h

theorem IsRead.isLoose_model {f : Field} (h : f.IsRead) {r : Reference}
    (hr : f.reference? = some r) : r.model.isLoose = true := by
  rcases h.references with hnull | ⟨r', hr', hmodel⟩
  · simp [reference?, hnull] at hr
  · simp only [reference?, hr', Option.some.injEq] at hr
    exact hr ▸ hmodel

/-- The name of the column of a field that was read under a text. -/
theorem IsRead.checkKey_columnName {f : Field} (h : f.IsRead) {key : Value}
    (hkey : key.text?.isSome = true) : (f.columnName key).checkKey = .ok () := by
  rw [columnName]
  split
  next htruthy =>
    rcases h.fieldName with hnull | hname
    · simp [hnull, Value.isTruthy] at htruthy
    · exact Value.checkKey_of_text? hname
  · exact Value.checkKey_of_text? hkey

theorem IsRead.checkReference_eq_ok {f : Field} (h : f.IsRead) :
    f.checkReference = .ok () ↔
      ∀ r, f.reference? = some r → r.model.checkKey = .ok () := by
  rcases h.references with hnull | ⟨r, hr, -⟩
  · simp [checkReference, reference?, hnull]
  · simp [checkReference, reference?, hr]

end Field

/-! ## Bags -/

namespace Bag

/-- A bag is read up to an entry whose field misstates an action. -/
def MisstatesAction (table : Option String) (v : Value) : Prop :=
  ∃ before key value after, v = .mapping (before ++ (key, value) :: after) ∧
    (∀ e ∈ before, ∃ r, readEntry table e.1 e.2 = .ok r) ∧
    (∃ name, key.text? = some name ∧ name.isEmpty = false) ∧ Field.MisstatesAction value

section Entries

variable {table : Option String}

theorem exists_readKey_iff {key : Value} :
    (∃ name, readKey table key = .ok name) ↔
      ∃ name, key.text? = some name ∧ name.isEmpty = false := by
  rw [readKey]
  cases key.text? with
  | none => simp
  | some name => by_cases hempty : name = "" <;> simp [hempty]

theorem not_misuses_readKey {key : Value} : ¬ Misuses (readKey table key) := by
  rw [readKey]
  split
  · split <;> simp
  · simp

theorem text?_of_readKey {key : Value} {name : String} (h : readKey table key = .ok name) :
    key.text?.isSome = true := by
  obtain ⟨_, htext, -⟩ := exists_readKey_iff.1 ⟨name, h⟩
  exact htext ▸ rfl

theorem readEntry_eq_ok {key value : Value} {e : Value × Field}
    (h : readEntry table key value = .ok e) :
    ∃ name, Field.ofValue name value = .ok e.2 := by
  obtain ⟨name, -, h⟩ := Except.bind_eq_ok.1 h
  obtain ⟨f, hf, h⟩ := Except.bind_eq_ok.1 h
  obtain ⟨⟨⟩, -, h⟩ := Except.bind_eq_ok.1 h
  obtain rfl := Except.pure_eq_ok.1 h
  exact ⟨_, Except.mapError_eq_ok.1 hf⟩

theorem misuses_readEntry {key value : Value} (h : value.isLoose = true) :
    Misuses (readEntry table key value) ↔
      (∃ name, key.text? = some name ∧ name.isEmpty = false) ∧ Field.MisstatesAction value := by
  -- the name of the column is a key, so that only reading the field can stop
  have hname : ∀ name f, readKey table key = .ok name → Field.ofValue (some name) value = .ok f →
      (f.columnName key).checkKey = .ok () :=
    fun name f hkey hf => (Field.isRead_of_ofValue h hf).checkKey_columnName (text?_of_readKey hkey)
  rw [← exists_readKey_iff, readEntry, misuses_bind, or_iff_right not_misuses_readKey,
    ← exists_and_right]
  refine exists_congr fun name => and_congr_right fun hkey => ?_
  rw [misuses_bind, misuses_mapError_placeError, Field.misuses_ofValue]
  refine or_iff_left ?_
  rintro ⟨f, hf, hmisuses⟩
  rw [hname name f hkey (Except.mapError_eq_ok.1 hf)] at hmisuses
  simp [Except.mapError, bind, Except.bind] at hmisuses

/-- An action is misstated in the first entry, or after it where it is read. -/
theorem misstatesAction_cons {e : Value × Value} {rest : List (Value × Value)} :
    MisstatesAction table (.mapping (e :: rest)) ↔
      ((∃ name, e.1.text? = some name ∧ name.isEmpty = false) ∧ Field.MisstatesAction e.2) ∨
        ∃ r, readEntry table e.1 e.2 = .ok r ∧ MisstatesAction table (.mapping rest) := by
  -- the entry at fault is the first one, or the first one is read and the fault is among the others
  constructor
  · rintro ⟨before, key, value, after, heq, hbefore, hfield⟩
    replace heq := Value.mapping.inj heq
    cases before with
    | nil =>
      obtain ⟨rfl, rfl⟩ := List.cons.inj heq
      exact .inl hfield
    | cons e' before =>
      obtain ⟨rfl, rfl⟩ := List.cons.inj heq
      obtain ⟨⟨r, hr⟩, hbefore⟩ := List.forall_mem_cons.1 hbefore
      exact .inr ⟨r, hr, before, key, value, after, rfl, hbefore, hfield⟩
  · rintro (⟨hkey, hfield⟩ | ⟨r, hr, before, key, value, after, heq, hbefore, hfield⟩)
    · exact ⟨[], e.1, e.2, rest, rfl, by simp, hkey, hfield⟩
    · obtain rfl := Value.mapping.inj heq
      exact ⟨e :: before, key, value, after, rfl, List.forall_mem_cons.2 ⟨⟨r, hr⟩, hbefore⟩, hfield⟩

theorem misuses_readEntries {b : Bag} {entries : List (Value × Value)}
    (h : ∀ e ∈ entries, e.2.isLoose = true) :
    Misuses (readEntries table b entries) ↔ MisstatesAction table (.mapping entries) := by
  induction entries generalizing b with
  | nil => simp [readEntries, MisstatesAction]
  | cons e rest ih =>
    obtain ⟨he, hrest⟩ := List.forall_mem_cons.1 h
    rw [readEntries, misuses_bind, misuses_readEntry he, misstatesAction_cons]
    exact or_congr_right (exists_congr fun r => and_congr_right fun _ => ih hrest)

end Entries

theorem misuses_ofValue {table : Option String} {v : Value} (h : v.isLoose = true) :
    Misuses (ofValue table v) ↔ MisstatesAction table v := by
  cases v with
  | mapping entries =>
    rw [Value.isLoose, entriesAreLoose_iff] at h
    exact misuses_readEntries fun e he => (h e he).2
  | _ => simp [ofValue, MisstatesAction]

/-! ### What holds of each field -/

variable {P : Field → Prop}

theorem forall_put {b : Bag} (hb : ∀ e ∈ b, P e.2) {f : Field} (hf : P f) (name : Value) :
    ∀ e ∈ b.put name f, P e.2 := by
  induction b with
  | nil => simpa [put] using hf
  | cons e rest ih =>
    obtain ⟨he, hrest⟩ := List.forall_mem_cons.1 hb
    rw [put]
    split
    · exact List.forall_mem_cons.2 ⟨hf, hrest⟩
    · exact List.forall_mem_cons.2 ⟨he, ih hrest⟩

theorem forall_merge {b overlay : Bag} (hb : ∀ e ∈ b, P e.2) (hoverlay : ∀ e ∈ overlay, P e.2) :
    ∀ e ∈ b.merge overlay, P e.2 := by
  rw [merge]
  induction overlay generalizing b with
  | nil => exact hb
  | cons e rest ih =>
    obtain ⟨he, hrest⟩ := List.forall_mem_cons.1 hoverlay
    exact ih (forall_put hb he e.1) hrest

theorem forall_readEntries {table : Option String} {entries : List (Value × Value)} {b b' : Bag}
    (hentries : ∀ e ∈ entries, ∀ name f, Field.ofValue name e.2 = .ok f → P f)
    (hb : ∀ e ∈ b, P e.2) (h : readEntries table b entries = .ok b') : ∀ e ∈ b', P e.2 := by
  induction entries generalizing b with
  | nil => exact Except.ok.inj h ▸ hb
  | cons e rest ih =>
    obtain ⟨he, hrest⟩ := List.forall_mem_cons.1 hentries
    obtain ⟨r, hr, h⟩ := Except.bind_eq_ok.1 h
    obtain ⟨name, hf⟩ := readEntry_eq_ok hr
    exact ih hrest (forall_put hb (he name r.2 hf) r.1) h

theorem isRead_of_ofValue {table : Option String} {v : Value} {b : Bag} (hv : v.isLoose = true)
    (h : ofValue table v = .ok b) : ∀ e ∈ b, e.2.IsRead := by
  cases v with
  | mapping entries =>
    rw [Value.isLoose, entriesAreLoose_iff] at hv
    exact forall_readEntries (fun e he name f => Field.isRead_of_ofValue (hv e he).2) (by simp) h
  | _ => simp [ofValue] at h

end Bag

end Accrete
