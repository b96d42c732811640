import Accrete.Field.Defined
import Accrete.Proofs.Assembly.Accumulation
import Accrete.Proofs.Correspondence
import Accrete.Proofs.Texts

/-!
# Columns of a declaration

A declaration is read entry by entry, each to the column that it names.  Entries that name the same
column are read to one column, and only the last of them is kept.

* `Bag.length_merge_iff` -- as many columns are added as are declared if no two are the same
* `Bag.columnOf`         -- the column that an entry of a declaration names
* `Bag.KeepsAll`         -- every entry of a declaration has become a column
* `Bag.keepsAll_iff`     -- which is so unless two of them name the same column
-/

namespace Accrete

/-! ## The number of columns -/

namespace Bag

variable {b declared : Bag}

theorem length_put (b : Bag) (key : Value) (f : Field) :
    (b.put key f).length =
      if b.names.any fun v => v.sameKey key then b.length else b.length + 1 := by
  have hlength : ∀ b : Bag, b.names.length = b.length := fun b => List.length_map ..
  rw [← hlength, names_put]
  split
  · exact hlength b
  · rw [List.length_append, hlength, List.length_singleton]

theorem length_merge_le (b declared : Bag) :
    (b.merge declared).length ≤ b.length + declared.length := by
  induction declared generalizing b with
  | nil => exact Nat.le_refl _
  | cons e rest ih =>
    have hput : (b.put e.1 e.2).length ≤ b.length + 1 := by
      rw [length_put]
      split <;> omega
    have hrest := ih (b.put e.1 e.2)
    rw [merge_cons, List.length_cons]
    omega

/-- As many columns are added as are declared just where no two are the same, and none is there
    already. -/
theorem length_merge_iff (h : b.HasDistinctNames) :
    (b.merge declared).length = b.length + declared.length ↔
      (b ++ declared).HasDistinctNames := by
  constructor
  case mpr =>
    intro hdistinct
    rw [merge_eq_append hdistinct, List.length_append]
  case mp =>
    induction declared generalizing b with
    | nil => exact fun _ => (List.append_nil b).symm ▸ h
    | cons e rest ih =>
      intro hlength
      rw [merge_cons, List.length_cons] at hlength
      by_cases hany : (b.names.any fun v => v.sameKey e.1) = true
      · -- the first column is there, and the others are too few to make up for it
        have hle := length_merge_le (b.put e.1 e.2) rest
        rw [length_put, if_pos hany] at hle
        omega
      · have hnew : ∀ d ∈ b, d.1.sameKey e.1 = false := by simpa [names] using hany
        have hdistinct := ih (distinct_put h e.1 e.2) (by rw [length_put, if_neg hany]; omega)
        rwa [put_of_forall hnew, List.append_assoc, List.singleton_append] at hdistinct

/-- A column is found by its name. -/
theorem get?_of_mem (h : b.HasDistinctNames) {e : Value × Field} (he : e ∈ b)
    (hkey : e.1.notKey? = none) : b.get? e.1 = some e.2 := by
  induction b with
  | nil => exact absurd he List.not_mem_nil
  | cons d rest ih =>
    obtain ⟨hd, hrest⟩ := List.pairwise_cons.1 h
    rcases List.mem_cons.1 he with rfl | he
    · simp [get?, Value.sameKey_self hkey]
    · have hother : d.1.sameKey e.1 = false := hd e.1 (List.mem_map_of_mem he)
      rw [get?, List.find?_cons_of_neg (by simp [hother])]
      exact ih hrest he

end Bag

/-! ## The column of an entry -/

/-- The name that a declaration states for its column, null for none. -/
def Value.statedName : Value → Value
  | .field f => f.fieldName
  | .mapping parts => (get? parts "field_name").getD .null
  | _ => .null

namespace Field

/-- A field is read with the name that its declaration states. -/
theorem fieldName_of_ofValue {name : Option String} {v : Value} {f : Field}
    (h : ofValue name v = .ok f) : f.fieldName = v.statedName := by
  cases v with
  | field g =>
    obtain rfl := Except.ok.inj h
    rfl
  | mapping entries =>
    obtain ⟨-, -, hname, -⟩ := ofEntries_inv h
    exact readFieldName_eq hname
  | _ => simp [ofValue, DeclarationError.atField] at h

end Field

namespace Bag

variable {table : Option String} {entries : List (Value × Value)} {b : Bag}

/-- The column that an entry of a declaration names: the one that it states, or its key. -/
def columnOf (entry : Value × Value) : Value :=
  if entry.2.statedName.isTruthy then entry.2.statedName else entry.1

theorem columnName_eq_columnOf {name : Option String} {entry : Value × Value} {f : Field}
    (h : Field.ofValue name entry.2 = .ok f) : f.columnName entry.1 = columnOf entry := by
  rw [Field.columnName, columnOf, Field.fieldName_of_ofValue h]

/-- What an entry is read to: the field that it declares, under the column that it names. -/
theorem readEntry_inv {entry : Value × Value} {e : Value × Field}
    (h : readEntry table entry.1 entry.2 = .ok e) :
    e.1 = columnOf entry ∧ e.1.notKey? = none ∧
      ∃ name, entry.1.text? = some name ∧ Field.ofValue (some name) entry.2 = .ok e.2 := by
  obtain ⟨-, hcolumn, hkey⟩ := columnName_of_readEntry h
  obtain ⟨name, hname, h⟩ := Except.bind_eq_ok.1 h
  obtain ⟨f, hf, h⟩ := Except.bind_eq_ok.1 h
  obtain ⟨⟨⟩, -, h⟩ := Except.bind_eq_ok.1 h
  obtain rfl := Except.pure_eq_ok.1 h
  have hf := Except.mapError_eq_ok.1 hf
  refine ⟨columnName_eq_columnOf hf, hkey, name, ?_, hf⟩
  rw [readKey] at hname
  split at hname
  next s htext =>
    split at hname
    · simp at hname
    · rw [htext, Except.ok.inj hname]
  · simp at hname

/-! ## Entries that are kept -/

/-- Every entry of a declaration is there, as the field that it declares under the column that it
    names, and there are as many columns as entries. -/
structure KeepsAll (entries : List (Value × Value)) (b : Bag) : Prop where
  present : ∀ entry ∈ entries, ∃ name f, entry.1.text? = some name ∧
    Field.ofValue (some name) entry.2 = .ok f ∧ b.get? (f.columnName entry.1) = some f
  length : b.length = entries.length

/-- The columns of a declaration are those that its entries name, each of them once.  Every entry is
    kept just where no two of them name the same column. -/
theorem keepsAll_iff (h : ofValue table (.mapping entries) = .ok b) :
    b.names = Value.distinct (entries.map columnOf) ∧
      (KeepsAll entries b ↔ (entries.map columnOf).Pairwise fun v w => v.sameKey w = false) := by
  obtain ⟨declared, hdeclared, rfl⟩ := readEntries_eq_ok.1 h
  have hread := Except.mapM_eq_ok.1 hdeclared
  have hnames : entries.map columnOf = names declared :=
    map_eq_map_of_forall₂ (hread.imp fun _ _ h => (readEntry_inv h).1.symm)
  have hlength : declared.length = entries.length := hread.length_eq.symm
  have hcount : (merge [] declared).length = declared.length ↔ HasDistinctNames declared := by
    have hmerge : (merge [] declared).length = 0 + declared.length ↔ HasDistinctNames declared :=
      length_merge_iff (b := []) .nil
    rwa [Nat.zero_add] at hmerge
  rw [hnames]
  refine ⟨names_merge declared, fun hkeeps => hcount.1 (hkeeps.length.trans hlength.symm),
    fun hdistinct => ⟨fun entry hentry => ?_, (hcount.2 hdistinct).trans hlength⟩⟩
  obtain ⟨e, he, hmem⟩ := exists_mem_zip_of_forall₂ hread hentry
  obtain ⟨hcolumn, hkey, name, hname, hf⟩ := readEntry_inv he
  refine ⟨name, e.2, hname, hf, ?_⟩
  rw [columnName_eq_columnOf hf, ← hcolumn, merge_eq_append (b := []) hdistinct]
  exact get?_of_mem hdistinct (List.of_mem_zip hmem).1 hkey

/-- A column for an address, and another that states a name of its own. -/
def contactEntries (name : String) : List (Value × Value) :=
  [(.text "email", .mapping [(.text "type", .text "string")]),
    (.text "mail", .mapping [(.text "type", .text "json"), (.text "field_name", .text name)])]

/-- What becomes of the second. -/
def namedColumn (name : String) : Field := { Field.plain .json with fieldName := .text name }

theorem contact_keepsAll :
    ofValue none (.mapping (contactEntries "letters")) =
        .ok [(.text "email", .plain .string), (.text "letters", namedColumn "letters")] ∧
      KeepsAll (contactEntries "letters")
        [(.text "email", .plain .string), (.text "letters", namedColumn "letters")] := by
  have hread : ofValue none (.mapping (contactEntries "letters")) =
      .ok [(.text "email", .plain .string), (.text "letters", namedColumn "letters")] := by cbv
  have hcolumns : (contactEntries "letters").map columnOf = [.text "email", .text "letters"] := rfl
  refine ⟨hread, (keepsAll_iff hread).2.2 ?_⟩
  rw [hcolumns, List.pairwise_pair, Value.sameKey_text]
  decide

/-- A column that states the name of another replaces it. -/
theorem contact_not_keepsAll :
    ofValue none (.mapping (contactEntries "email")) =
        .ok [(.text "email", namedColumn "email")] ∧
      ¬ KeepsAll (contactEntries "email") [(.text "email", namedColumn "email")] := by
  refine ⟨by cbv, fun hkeeps => ?_⟩
  have hlength : 1 = 2 := hkeeps.length
  omega

end Bag

end Accrete
