import Accrete.Proofs.Database.Lexing
import Accrete.Proofs.Text.Lowering

/-!
# Names in statements

A name that stands in a statement is read back as it is, unless a line feed at its end is
overlooked.

* `Dialect.KeepsName`      -- a name at the end of which nothing is overlooked
* `Dialect.readBack`       -- the name that is read where a name was written
* `Token.named`            -- the token of a name
* `Token.stands_named`, `Token.value_named` -- it is read as one token that stands for that name
* `Token.isWord_named`     -- it is no reserved word if the name is kept
-/

namespace Accrete

namespace Dialect

/-- A name is written so that nothing at its end is overlooked. -/
def KeepsName (d : Dialect) (name : String) : Prop :=
  d.needsQuotes name = true ∨ name.toList.getLast? ≠ some '\n'

instance (d : Dialect) (name : String) : Decidable (d.KeepsName name) :=
  inferInstanceAs (Decidable (_ ∨ _))

/-- The name that is read where a name was written. -/
def readBack (d : Dialect) (name : String) : String :=
  if d.KeepsName name then name else String.ofList name.toList.dropLast

/-- What is overlooked at the end of a name. -/
def overlooked (d : Dialect) (name : String) : List Char :=
  if d.KeepsName name then [] else ['\n']

variable {d : Dialect} {name : String}

theorem readBack_of_keepsName (h : d.KeepsName name) : d.readBack name = name := if_pos h

theorem not_keepsName : ¬d.KeepsName name ↔
    d.needsQuotes name = false ∧ name.toList.getLast? = some '\n' := by
  rw [KeepsName, not_or, Bool.not_eq_true, not_not]

theorem toList_readBack_append :
    (d.readBack name).toList ++ d.overlooked name = name.toList := by
  by_cases h : d.KeepsName name
  · rw [readBack, if_pos h, overlooked, if_pos h, List.append_nil]
  · obtain ⟨cs, hname⟩ := List.getLast?_eq_some_iff.1 (not_keepsName.1 h).2
    rw [readBack, if_neg h, overlooked, if_neg h, String.toList_ofList, hname,
      List.dropLast_concat]

theorem isWordChar_of_isNameChar {c : Char} (h : isNameChar c = true) :
    Token.isWordChar c = true ∧ c ≠ '\ufeff' := by
  simp only [isNameChar, Bool.or_eq_true, beq_iff_eq] at h
  rcases h with (((((h | rfl) | rfl) | rfl) | rfl) | rfl) | rfl
  · refine ⟨by simp [Token.isWordChar, h], ?_⟩
    rintro rfl
    exact absurd h (by decide)
  all_goals decide

/-- A name without quotes is not reserved, and it is read back as characters that names have. -/
theorem needsQuotes_eq_false {d : Dialect} {name : String} (h : d.needsQuotes name = false) :
    Text.lower name ∉ d.reserved ∧
      (name.toList.head?.any fun c => c.isDigit || c == '$') = false ∧
      (d.readBack name).toList ≠ [] ∧ ∀ c ∈ (d.readBack name).toList, isNameChar c = true := by
  have hquotes := h
  simp only [needsQuotes, Bool.or_eq_false_iff, bne_eq_false_iff_eq, Bool.not_eq_eq_eq_not,
    Bool.not_false, List.contains_eq_mem, decide_eq_false_iff_not] at h
  obtain ⟨⟨⟨hreserved, hfirst⟩, hplain⟩, -⟩ := h
  refine ⟨hreserved, hfirst, ?_⟩
  -- what is looked at without the line feed is what is read back
  have hbody : (if name.toList.getLast? == some '\n' then name.toList.dropLast else name.toList) =
      (d.readBack name).toList := by
    by_cases hend : name.toList.getLast? = some '\n'
    · rw [readBack, if_neg (not_keepsName.2 ⟨hquotes, hend⟩), hend, String.toList_ofList]
      rfl
    · rw [readBack_of_keepsName (.inr hend), if_neg (by simpa using hend)]
  simp only [isPlainName, hbody, Bool.and_eq_true, Bool.not_eq_true', List.all_eq_true,
    List.isEmpty_eq_false_iff] at hplain
  exact hplain

/-- What is read back is written so that it is read back as it is. -/
theorem keepsName_readBack (d : Dialect) (name : String) : d.KeepsName (d.readBack name) := by
  by_cases h : d.KeepsName name
  · rwa [readBack_of_keepsName h]
  · obtain ⟨-, -, -, hchars⟩ := needsQuotes_eq_false (not_keepsName.1 h).1
    refine .inr fun hend => ?_
    exact absurd (hchars _ (List.mem_of_getLast? hend)) (by decide)

theorem isOneWord_readBack {d : Dialect} {name : String} (h : d.needsQuotes name = false) :
    Token.isOneWord (d.readBack name).toList = true := by
  obtain ⟨-, hfirst, hnonempty, hchars⟩ := needsQuotes_eq_false h
  obtain ⟨c, cs, hread⟩ := List.exists_cons_of_ne_nil hnonempty
  rw [← toList_readBack_append (d := d), hread] at hfirst
  rw [hread] at hchars ⊢
  have hword : ∀ d ∈ c :: cs, Token.isWordChar d = true ∧ d ≠ '\ufeff' :=
    fun d hd => isWordChar_of_isNameChar (hchars d hd)
  simp only [List.cons_append, List.head?_cons, Option.any_some, Bool.or_eq_false_iff,
    beq_eq_false_iff_ne] at hfirst
  -- a name that starts with a digit or a dollar sign would be quoted
  have hstarts : Token.startsWord c = true := by
    rcases Token.isWordChar_iff.1 (hword c List.mem_cons_self).1 with hc | hdigit | hdollar
    · exact hc
    · exact absurd hdigit (by simp [hfirst.1])
    · exact absurd hdollar hfirst.2
  rw [Token.isOneWord, Bool.and_eq_true, List.all_eq_true]
  refine ⟨?_, fun d hd => (hword d hd).1⟩
  simp [hstarts, (hword c List.mem_cons_self).2]

theorem lt_of_mem_reserved {w : String} (hw : w ∈ Dialect.sqlite.reserved) :
    ∀ c ∈ w.toList, c.toNat < 0x80 := by
  have hall : (Dialect.sqlite.reserved.all fun w => w.toList.all fun c => c.toNat < 0x80) = true := by
    decide +kernel
  simpa using List.all_eq_true.1 hall w hw

end Dialect

namespace Token

/-- The token of a name, with the blanks before it. -/
def named (before : List Char) (name : String) : Token :=
  if Dialect.sqlite.needsQuotes name then quotedName before name.toList
  else word before (Dialect.sqlite.readBack name).toList

variable {before : List Char} {name : String}

theorem text_named_append : (named before name).text ++ Dialect.sqlite.overlooked name =
    (Dialect.sqlite.identifier name).toList := by
  by_cases h : Dialect.sqlite.needsQuotes name = true
  · have hkeeps : Dialect.sqlite.KeepsName name := .inl h
    simp [named, Dialect.identifier, Dialect.overlooked, h, hkeeps, quotedName, Dialect.quoted,
      Dialect.marks]
  · rw [named, if_neg h, Dialect.identifier, if_neg h, word, Dialect.toList_readBack_append]

theorem before_named : (named before name).before = before := by
  rw [named]
  split <;> rfl

theorem stands_named (hbefore : IsBlankRun before) {rest : List Char} (hrest : Breaks rest) :
    (named before name).Stands rest := by
  by_cases h : Dialect.sqlite.needsQuotes name = true
  · rw [named, if_pos h]
    exact stands_quotedName hbefore hrest
  · rw [named, if_neg h]
    exact stands_word hbefore (Dialect.isOneWord_readBack (Bool.eq_false_iff.2 h)) hrest

theorem value_word {text : List Char} (h : isOneWord text = true) :
    (word before text).value = String.ofList text := by
  rw [isOneWord, Bool.and_eq_true, Option.any_eq_true] at h
  obtain ⟨⟨c, hhead, hc⟩, -⟩ := h
  obtain ⟨cs, rfl⟩ := List.head?_eq_some_iff.1 hhead
  have hother : ∀ d ∈ ['\'', '"', '\x60', '['], c ≠ d :=
    forall_ne_of_startsWord (Bool.and_eq_true_iff.1 hc).1 (by decide)
  simp only [List.forall_mem_cons] at hother
  rw [value, word, dequoted, if_neg (by simp [hother]), if_neg (by simp [hother])]

theorem value_named : (named before name).value = Dialect.sqlite.readBack name := by
  by_cases h : Dialect.sqlite.needsQuotes name = true
  · rw [named, if_pos h, Dialect.readBack_of_keepsName (.inl h), value, quotedName, dequoted]
    simp [unquoted_flatMap]
  · rw [named, if_neg h, value_word (Dialect.isOneWord_readBack (Bool.eq_false_iff.2 h)),
      String.ofList_toList]

/-- A name that is kept is no word that it would be quoted for. -/
theorem isWord_named (h : Dialect.sqlite.KeepsName name) {w : String}
    (hw : w ∈ Dialect.sqlite.reserved) : (named before name).isWord w = false := by
  by_cases hquotes : Dialect.sqlite.needsQuotes name = true
  · rw [named, if_pos hquotes]
    rfl
  · obtain ⟨hnot, -⟩ := Dialect.needsQuotes_eq_false (Bool.eq_false_iff.2 hquotes)
    rw [named, if_neg hquotes, Dialect.readBack_of_keepsName h, isWord, Bool.and_eq_false_iff]
    refine .inr (beq_eq_false_iff_ne.2 fun hlowered => hnot ?_)
    rwa [Text.lower_of_asciiLower (Dialect.lt_of_mem_reserved hw) hlowered]

end Token

end Accrete
