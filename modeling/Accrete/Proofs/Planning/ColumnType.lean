import Accrete.Dialect.ColumnType
import Accrete.Field.Defined
import Accrete.Proofs.Text.Lowering

/-!
# Types of planned columns

The native types that a dialect gives to fields are compatible with the fields they were made for.
A spelling of a live column's type counts by its letters alone: their case, an argument list after
them and blanks around them make no difference to what a field accepts.

* `Dialect.nativeTypes`         -- the native types that fields may have
* `Respells`                    -- spellings that differ in nothing but these
* `dropArguments_eq`            -- what is left of a spelling in one line without its arguments
* `Dialect.Spells`              -- a spelling that is accepted as it is or without its arguments
* `Field.acceptsType_respelled` -- a field accepts all such spellings or none
-/

namespace Accrete

/-! ## Native types -/

/-- The native types that the fields of a logical type may have. -/
def Dialect.nativeTypes (d : Dialect) : LogicalType → List String
  | .string => ["text", d.idType, d.indexedTextType]
  | .number => ["integer", "bigint"]
  | .boolean => [d.booleanType]
  | .date => [d.dateType]
  | .timezone => [d.timezoneType]
  | .json | .stringArray | .numberArray => [d.jsonType]

namespace Field

theorem columnType_mem_nativeTypes (f : Field) (d : Dialect) (covered : Bool) :
    f.columnType d covered ∈ d.nativeTypes f.type := by
  unfold columnType Dialect.nativeTypes
  cases f.type with
  | string =>
    dsimp only
    split
    · simp
    · split <;> simp
  | number => dsimp only; split <;> simp
  | boolean => simp
  | date => simp
  | timezone => simp
  | json => simp
  | stringArray => simp
  | numberArray => simp

theorem acceptsType_congr {f g : Field} (h : f.type = g.type) (d : Dialect) (liveType : String) :
    f.acceptsType d liveType = g.acceptsType d liveType := by
  rw [acceptsType, acceptsType, h]

/-- The spellings that are written are among those that are accepted. -/
theorem plain_acceptsType (type : LogicalType) (d : Dialect) :
    ∀ s ∈ d.nativeTypes type, (plain type).acceptsType d s = true := by
  cases d <;> cases type <;> decide

/-- A column that is written for a field has a type that is compatible with it. -/
theorem acceptsType_columnType (f : Field) (d : Dialect) (covered : Bool) :
    f.acceptsType d (f.columnType d covered) = true := by
  rw [acceptsType_congr (f := f) (g := plain f.type) rfl]
  exact plain_acceptsType _ _ _ (columnType_mem_nativeTypes f d covered)

end Field

/-! ## Spellings -/

open Text

/-- An argument list as it stands at the end of a spelling, maybe after blanks. -/
def IsArguments (cs : List Char) : Prop :=
  ∃ gap args, AllBlank gap ∧ '\n' ∉ gap ∧ '\n' ∉ args ∧ cs = gap ++ '(' :: args ++ [')']

/-- A spelling that differs from another one in the case of letters, an argument list that it has
    added, and blanks around it. -/
def Respells (s t : String) : Prop :=
  ∃ before s' arguments after, AllBlank before ∧ AllBlank after ∧ asciiLower s' = asciiLower s ∧
    (arguments = [] ∨ IsArguments arguments) ∧
    t.toList = before ++ (s'.toList ++ arguments) ++ after

/-! ## Leaving out arguments -/

section Arguments

variable {cs ds : List Char} {c : Char}

/-- What is left of a text before its first parenthesis. -/
def stem (cs : List Char) : List Char := trimRight (cs.takeWhile (· != '('))

/-- A text loses at most an argument list at its end. -/
theorem exists_dropArguments (cs : List Char) :
    ∃ rest, cs = dropArguments cs ++ rest ∧ (rest = [] ∨ startsArguments rest = true) := by
  induction cs with
  | nil => exact ⟨[], rfl, .inl rfl⟩
  | cons c cs ih =>
    rw [dropArguments]
    split
    next h => exact ⟨c :: cs, rfl, .inr h⟩
    · obtain ⟨rest, hcs, hrest⟩ := ih
      exact ⟨rest, congrArg (c :: ·) hcs, hrest⟩

theorem startsArguments_iff : startsArguments cs = true ↔
    ∃ gap args, AllBlank gap ∧ '\n' ∉ args ∧ cs = gap ++ '(' :: args ++ [')'] := by
  constructor
  · intro h
    obtain ⟨gap, hgap, hblank⟩ := exists_trimLeft cs
    rw [startsArguments] at h
    split at h
    next rest htrim =>
      simp only [Bool.and_eq_true, beq_iff_eq, Bool.not_eq_eq_eq_not, Bool.not_true,
        List.contains_eq_mem, decide_eq_false_iff_not] at h
      -- what comes after the opening parenthesis ends with the closing one
      obtain ⟨args, hargs⟩ := List.getLast?_eq_some_iff.1 h.1
      refine ⟨gap, args, hblank, fun hmem => h.2 (hargs ▸ List.mem_append_left _ hmem), ?_⟩
      rw [hgap, htrim, hargs, List.append_assoc, List.cons_append]
    · simp at h
  · rintro ⟨gap, args, hblank, hargs, rfl⟩
    rw [startsArguments, List.append_assoc, trimLeft_append hblank, List.cons_append,
      trimLeft_cons (by decide)]
    simp [hargs]

theorem dropArguments_cons :
    dropArguments (c :: cs) = if startsArguments (c :: cs) then [] else c :: dropArguments cs := by
  rw [dropArguments]

theorem dropArguments_of_last (h : cs.getLast? ≠ some ')') : dropArguments cs = cs := by
  obtain ⟨rest, hcs, rfl | hrest⟩ := exists_dropArguments cs
  · rw [← List.append_nil (dropArguments cs), ← hcs]
  · obtain ⟨gap, args, -, -, rfl⟩ := startsArguments_iff.1 hrest
    rw [hcs, ← List.append_assoc, List.getLast?_concat] at h
    exact absurd rfl h

theorem dropArguments_of_not_mem (h : '(' ∉ cs) : dropArguments cs = cs := by
  obtain ⟨rest, hcs, rfl | hrest⟩ := exists_dropArguments cs
  · rw [← List.append_nil (dropArguments cs), ← hcs]
  · obtain ⟨gap, args, -, -, rfl⟩ := startsArguments_iff.1 hrest
    rw [hcs] at h
    simp at h

theorem takeWhile_parenthesis (h : '(' ∉ cs) :
    (cs ++ '(' :: ds).takeWhile (· != '(') = cs := by
  have hcs : ∀ c ∈ cs, (c != '(') = true := by
    intro c hc
    rw [bne_iff_ne]
    rintro rfl
    exact h hc
  rw [List.takeWhile_append_of_pos hcs, List.takeWhile_cons_of_neg (by decide), List.append_nil]

theorem not_mem_of_allBlank {gap : List Char} (h : AllBlank gap) : '(' ∉ gap :=
  fun hmem => absurd (h _ hmem) (by decide)

theorem exists_arguments (hmem : '(' ∈ cs) (hlast : cs.getLast? = some ')') :
    ∃ args, cs = cs.takeWhile (· != '(') ++ '(' :: args ++ [')'] := by
  obtain ⟨front, rest, rfl, hfront⟩ := List.eq_append_cons_of_mem hmem
  rw [takeWhile_parenthesis hfront]
  have hend : ('(' :: rest).getLast? = some ')' := by
    rwa [List.getLast?_append, List.getLast?_cons, Option.some_or, ← List.getLast?_cons] at hlast
  obtain ⟨list, hrest⟩ := List.getLast?_eq_some_iff.1 hend
  cases list with
  | nil => simp at hrest
  | cons d args =>
    have hargs : rest = args ++ [')'] := (List.cons.inj hrest).2
    exact ⟨args, by rw [hargs, List.append_assoc, List.cons_append]⟩

theorem startsArguments_iff_allBlank (hline : '\n' ∉ cs) (hmem : '(' ∈ cs)
    (hlast : cs.getLast? = some ')') :
    startsArguments cs = true ↔ AllBlank (cs.takeWhile (· != '(')) := by
  rw [startsArguments_iff]
  constructor
  · rintro ⟨gap, args, hblank, -, rfl⟩
    rwa [List.append_assoc, List.cons_append, takeWhile_parenthesis (not_mem_of_allBlank hblank)]
  · intro hblank
    obtain ⟨args, hargs⟩ := exists_arguments hmem hlast
    refine ⟨_, args, hblank, fun h => hline ?_, hargs⟩
    rw [hargs]
    simp [h]

theorem dropArguments_of_mem (hline : '\n' ∉ cs) (hmem : '(' ∈ cs)
    (hlast : cs.getLast? = some ')') : dropArguments cs = stem cs := by
  induction cs with
  | nil => simp at hmem
  | cons c cs ih =>
    rw [dropArguments_cons, stem]
    -- the list starts at this character or later, and a blank before it belongs to it only if
    -- nothing but blanks follows up to the parenthesis
    split
    next h =>
      exact (trimRight_eq_nil_iff.2 ((startsArguments_iff_allBlank hline hmem hlast).1 h)).symm
    next h =>
      rw [startsArguments_iff_allBlank hline hmem hlast] at h
      have hc : c ≠ '(' := by
        rintro rfl
        exact h (by simp [AllBlank])
      have hfront : (c :: cs).takeWhile (· != '(') = c :: cs.takeWhile (· != '(') :=
        List.takeWhile_cons_of_pos (by simpa using hc)
      rw [hfront] at h ⊢
      have hrest : '(' ∈ cs := (List.mem_cons.1 hmem).resolve_left hc.symm
      have hend : cs.getLast? = some ')' := by
        rwa [List.getLast?_cons_of_ne_nil (List.ne_nil_of_mem hrest)] at hlast
      rw [ih (fun h => hline (List.mem_cons_of_mem _ h)) hrest hend, trimRight_cons h, stem]

/-- Arguments after a text leave its stem. -/
theorem stem_append {gap : List Char} (hblank : AllBlank gap) :
    stem (cs ++ (gap ++ '(' :: ds)) = stem cs := by
  by_cases h : '(' ∈ cs
  · obtain ⟨front, rest, rfl, hfront⟩ := List.eq_append_cons_of_mem h
    rw [stem, stem, List.append_assoc, List.cons_append, takeWhile_parenthesis hfront,
      takeWhile_parenthesis hfront]
  · have hcs : cs.takeWhile (· != '(') = cs := by
      refine List.takeWhile_eq_self_iff.2 fun c hc => bne_iff_ne.2 ?_
      rintro rfl
      exact h hc
    have hgap : '(' ∉ cs ++ gap := by
      rw [List.mem_append, not_or]
      exact ⟨h, not_mem_of_allBlank hblank⟩
    rw [stem, stem, ← List.append_assoc, takeWhile_parenthesis hgap, hcs, trimRight_append hblank]

theorem dropArguments_eq (hline : '\n' ∉ cs) :
    dropArguments cs = if '(' ∈ cs ∧ cs.getLast? = some ')' then stem cs else cs := by
  split
  next h => exact dropArguments_of_mem hline h.1 h.2
  next h =>
    by_cases hmem : '(' ∈ cs
    · exact dropArguments_of_last fun hlast => h ⟨hmem, hlast⟩
    · exact dropArguments_of_not_mem hmem

theorem dropArguments_append (hline : '\n' ∉ cs) (h : IsArguments ds) :
    dropArguments (cs ++ ds) = stem cs := by
  obtain ⟨gap, args, hblank, hgap, hargs, rfl⟩ := h
  have hall : '\n' ∉ cs ++ (gap ++ '(' :: args ++ [')']) := by simp [hline, hgap, hargs]
  have hlast : (cs ++ (gap ++ '(' :: args ++ [')'])).getLast? = some ')' := by
    rw [← List.append_assoc, List.getLast?_concat]
  rw [dropArguments_of_mem hall (by simp) hlast, List.append_assoc, List.cons_append,
    stem_append hblank]

theorem occursIn_append {part : List Char} (h : occursIn part cs = true) :
    occursIn part (cs ++ ds) = true := by
  induction cs with
  | nil =>
    obtain rfl : part = [] := by simpa [occursIn] using h
    cases ds <;> simp [occursIn]
  | cons c cs ih =>
    rw [occursIn, Bool.or_eq_true] at h
    rw [List.cons_append, occursIn, Bool.or_eq_true]
    refine h.imp (fun hstart => ?_) ih
    rw [List.isPrefixOf_iff_prefix] at hstart ⊢
    exact hstart.trans ⟨ds, rfl⟩

end Arguments

/-! ## Accepted spellings -/

/-- A spelling that is accepted for a logical type as it is, or without one argument list at its
    end. -/
def Dialect.Spells (d : Dialect) (type : LogicalType) (spelling : List Char) : Prop :=
  ∃ accepted ∈ d.acceptedSpellings type, spelling = accepted.toList ∨
    ∃ gap args, AllBlank gap ∧ spelling = accepted.toList ++ gap ++ '(' :: args ++ [')']

theorem Dialect.stem_mem_acceptedSpellings (d : Dialect) (type : LogicalType) :
    ∀ accepted ∈ d.acceptedSpellings type,
      String.ofList (stem accepted.toList) ∈ d.acceptedSpellings type := by
  cases d <;> cases type <;> decide

/-! ## Respelling -/

theorem IsArguments.prepend {gap cs : List Char} (hblank : AllBlank gap) (hline : '\n' ∉ gap)
    (h : IsArguments cs) : IsArguments (gap ++ cs) := by
  obtain ⟨gap', args, hblank', hline', hargs, rfl⟩ := h
  refine ⟨gap ++ gap', args, allBlank_append.2 ⟨hblank, hblank'⟩, ?_, hargs, by simp⟩
  rw [List.mem_append, not_or]
  exact ⟨hline, hline'⟩

/-- An argument list does not touch the word before it, and is lowered to one. -/
theorem IsArguments.lowerFrom {cs : List Char} (h : IsArguments cs) (before : List Char) :
    Case.meetsCased cs = false ∧ IsArguments (Case.lowerFrom before cs) := by
  obtain ⟨gap, args, hblank, hline, hargs, rfl⟩ := h
  have hopening : Separates '(' := separates_of_inRanges (by decide)
  have hclosing : Separates ')' := separates_of_inRanges (by decide)
  have hgap : ∀ c ∈ gap, Separates c := fun c hc => separates_of_isBlank (hblank c hc)
  constructor
  · cases gap with
    | nil => exact meetsCased_cons hopening
    | cons c gap => exact meetsCased_cons (hgap c List.mem_cons_self)
  · rw [List.append_assoc, lowerFrom_separating hgap, List.cons_append, lowerFrom_cons hopening,
      lowerFrom_append (meetsCased_cons hclosing), lowerFrom_cons hclosing, ← List.cons_append,
      ← List.append_assoc]
    exact ⟨gap, _, hblank, hline, not_mem_lowerFrom hargs, rfl⟩

theorem not_mem_of_asciiLower {s t : String} (h : asciiLower s = asciiLower t)
    (hline : '\n' ∉ t.toList) : '\n' ∉ s.toList := by
  intro hmem
  have hmap : s.toList.map Char.toLower = t.toList.map Char.toLower := String.ofList_injective h
  have hlower : '\n' ∈ t.toList.map Char.toLower := hmap ▸ List.mem_map_of_mem hmem
  obtain ⟨c, hc, heq⟩ := List.mem_map.1 hlower
  exact hline (eq_of_toLower heq ▸ hc)

/-- A spelling that is not blank is looked up as before, but for an argument list at its end. -/
theorem lower_trim_respelled {s t : String} (h : Respells s t) (hline : '\n' ∉ s.toList)
    (hne : lower (trim s) ≠ "") :
    ∃ arguments, (lower (trim t)).toList = (lower (trim s)).toList ++ arguments ∧
      (arguments = [] ∨ IsArguments arguments) := by
  obtain ⟨before, s', arguments, after, hbefore, hafter, hletters, harguments, ht⟩ := h
  simp only [lower, trim, String.toList_ofList] at hne ⊢
  rw [← lower_trim_of_asciiLower hletters] at hne ⊢
  have hs' : trimLeft s'.toList ≠ [] := by
    intro hempty
    rw [trimChars, hempty] at hne
    exact hne rfl
  rw [ht, trimChars_append hbefore hafter]
  obtain rfl | harguments := harguments
  · exact ⟨[], by rw [List.append_nil, List.append_nil], .inl rfl⟩
  · -- blanks at the end of the spelling come to stand before the arguments and belong to them
    obtain ⟨rear, hrear, hblank⟩ := exists_trimRight (trimLeft s'.toList)
    obtain ⟨front, hfront, -⟩ := exists_trimLeft s'.toList
    have hrearLine : '\n' ∉ rear := by
      intro hmem
      refine not_mem_of_asciiLower hletters hline ?_
      rw [hfront, hrear]
      exact List.mem_append_right _ (List.mem_append_right _ hmem)
    have hall := harguments.prepend hblank hrearLine
    have htrim : trimChars (s'.toList ++ arguments) =
        trimChars s'.toList ++ (rear ++ arguments) := by
      obtain ⟨gap, args, -, -, -, rfl⟩ := harguments
      rw [trimChars, trimLeft_append_of_ne_nil hs', ← List.append_assoc,
        trimRight_concat (by decide), trimChars, List.append_assoc, ← List.append_assoc _ rear,
        ← hrear]
    rw [htrim, lowerFrom_append (hall.lowerFrom []).1]
    exact ⟨_, rfl, .inr (hall.lowerFrom _).2⟩

namespace Field

variable (f : Field) (d : Dialect)

/-- A spelling is accepted if it mentions JSON where JSON is stored, or if it is accepted as it is
    or without its arguments. -/
theorem acceptsType_iff {s : String} : f.acceptsType d s = true ↔
    ((f.type.isArray || f.type == .json) = true ∧
        occursIn ['j', 's', 'o', 'n'] (lower (trim s)).toList = true) ∨
      lower (trim s) ∈ d.acceptedSpellings f.type ∨
      String.ofList (dropArguments (lower (trim s)).toList) ∈ d.acceptedSpellings f.type := by
  simp only [acceptsType, Bool.or_eq_true, Bool.and_eq_true, List.contains_iff_mem, or_assoc]

theorem ne_empty_of_acceptsType {s : String} (h : f.acceptsType d s = true) :
    lower (trim s) ≠ "" := by
  intro hempty
  have hnone : "" ∉ d.acceptedSpellings f.type := by
    cases d <;> cases f.type <;> decide
  rw [acceptsType_iff, hempty] at h
  obtain ⟨-, h⟩ | h | h := h
  · exact absurd h (by decide)
  · exact hnone h
  · exact hnone h

/-- What an accepted spelling in one line is without arguments is accepted, if JSON is not what
    makes it so. -/
theorem stem_mem_of_accepted {spelling : String} (hline : '\n' ∉ spelling.toList)
    (h : spelling ∈ d.acceptedSpellings f.type ∨
      String.ofList (dropArguments spelling.toList) ∈ d.acceptedSpellings f.type) :
    String.ofList (stem spelling.toList) ∈ d.acceptedSpellings f.type := by
  obtain h | h := h
  · exact d.stem_mem_acceptedSpellings f.type _ h
  · rw [dropArguments_eq hline] at h
    split at h
    · exact h
    · rw [String.ofList_toList] at h
      exact d.stem_mem_acceptedSpellings f.type _ h

/-- A field accepts whatever respells a spelling in one line that it accepts.  Unless JSON is
    stored, a spelling that it accepts is one of those listed for its type, maybe with an argument
    list at its end. -/
theorem acceptsType_respelled :
    (∀ s t, '\n' ∉ s.toList → Respells s t → f.acceptsType d s = true →
      f.acceptsType d t = true) ∧
    (f.type ≠ .json → f.type.isArray = false → ∀ s, f.acceptsType d s = true →
      d.Spells f.type (lower (trim s)).toList) := by
  constructor
  · intro s t hline ht h
    obtain ⟨arguments, happend, harguments⟩ :=
      lower_trim_respelled ht hline (ne_empty_of_acceptsType f d h)
    have hlower : '\n' ∉ (lower (trim s)).toList := by
      rw [lower, String.toList_ofList, trim, String.toList_ofList]
      exact not_mem_lowerFrom fun hmem => hline (mem_of_mem_trimChars hmem)
    rw [acceptsType_iff] at h ⊢
    obtain ⟨hjson, hoccurs⟩ | h := h
    · exact .inl ⟨hjson, happend ▸ occursIn_append hoccurs⟩
    obtain rfl | harguments := harguments
    · rw [List.append_nil] at happend
      rw [String.toList_injective happend]
      exact .inr h
    · refine .inr (.inr ?_)
      rw [happend, dropArguments_append hlower harguments]
      exact stem_mem_of_accepted f d hlower h
  · intro hjson harray s h
    rw [acceptsType_iff] at h
    obtain ⟨hstored, -⟩ | h | h := h
    · simp [hjson, harray] at hstored
    · exact ⟨_, h, .inl rfl⟩
    · obtain ⟨rest, happend, hrest⟩ := exists_dropArguments (lower (trim s)).toList
      refine ⟨_, h, ?_⟩
      rw [String.toList_ofList]
      obtain rfl | hrest := hrest
      · exact .inl (happend.trans (List.append_nil _))
      · obtain ⟨gap, args, hblank, -, rfl⟩ := startsArguments_iff.1 hrest
        exact .inr ⟨gap, args, hblank, by simpa using happend⟩

/-- A text column accepts a bounded text that is written in capitals and with blanks. -/
theorem plain_accepts_bounded :
    (plain .string).acceptsType .mysql "varchar(36)" = true ∧
      (plain .string).acceptsType .mysql "\tVARCHAR(36) (255) " = true ∧
      Dialect.mysql.Spells .string (lower (trim "varchar(36)")).toList := by
  have haccepts : (plain .string).acceptsType .mysql "varchar(36)" = true := by decide +kernel
  refine ⟨haccepts, ?_, ?_⟩
  · refine (acceptsType_respelled (plain .string) .mysql).1 "varchar(36)" _ (by decide) ?_ haccepts
    exact ⟨['\t'], "VARCHAR(36)", [' ', '(', '2', '5', '5', ')'], [' '],
      by simp [AllBlank, isBlank], by simp [AllBlank, isBlank], by decide +kernel,
      .inr ⟨[' '], ['2', '5', '5'], by simp [AllBlank, isBlank], by decide, by decide, rfl⟩,
      by decide⟩
  · exact (acceptsType_respelled (plain .string) .mysql).2 (by decide) rfl _ haccepts

end Field

end Accrete
