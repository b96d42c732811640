import Accrete.Ini.File
import Accrete.Proofs.Text.Cutting

/-!
# Stating options

A line that states an option is read as that option with that value, and the comments and blank
lines after it leave the value as it is.

* `Ini.IsPlainName`          -- a name that an option has as it is written
* `Ini.stating`              -- the line that states an option
* `Ini.Draft.readLine_stating`  -- it is read as that option
* `Ini.Draft.readLines_fillers` -- comments and blank lines add nothing but empty lines to a value
* `Ini.DraftOption.finish_stated` -- which are taken away in the end
-/

namespace Accrete.Ini

open Text

/-- A name that an option has as it is written: it has no delimiter, does not start like a comment
    or a header, and neither trimming nor lowering changes it. -/
structure IsPlainName (name : List Char) : Prop where
  undelimited : (name.all fun c => !isDelimiter c) = true
  trimmed : trimRight name = name
  lowered : lower (String.ofList name) = String.ofList name
  start : ∃ c rest, name = c :: rest ∧ isBlank c = false ∧ (c == '#' || c == ';') = false ∧ c ≠ '['

/-- The line that states an option. -/
def stating (name value : List Char) : List Char := name ++ [' ', '=', ' '] ++ value

variable {name value : List Char}

theorem ofString_stating (hname : IsPlainName name) (hne : value ≠ [])
    (hvalue : trimRight value = value) :
    Line.ofString (String.ofList (stating name value ++ ['\n'])) =
      .text 0 (String.ofList (stating name value)) := by
  obtain ⟨c, rest, rfl, hblank, hcomment, -⟩ := hname.start
  have hright : trimRight (stating (c :: rest) value) = stating (c :: rest) value := by
    rw [stating, trimRight_append_of_ne_nil (by rwa [hvalue]), hvalue]
  have htrim : trimChars (stating (c :: rest) value ++ ['\n']) = stating (c :: rest) value := by
    have hfeed : AllBlank ['\n'] := by simp [AllBlank, isBlank]
    have hstart : trimLeft (stating (c :: rest) value ++ ['\n']) =
        stating (c :: rest) value ++ ['\n'] := trimLeft_cons hblank
    rw [trimChars, hstart, trimRight_append hfeed, hright]
  rw [Line.ofString, String.toList_ofList, htrim]
  simp [stating, hcomment, hblank]

theorem header?_stating (hname : IsPlainName name) :
    header? (String.ofList (stating name value)) = none := by
  obtain ⟨c, rest, rfl, -, -, hbracket⟩ := hname.start
  rw [header?, String.toList_ofList]
  split
  next h => exact absurd (List.cons.inj h).1 hbracket
  · rfl

theorem option?_stating (hname : IsPlainName name) (hvalue : trimChars value = value) :
    option? (String.ofList (stating name value)) =
      some (String.ofList name, String.ofList value) := by
  have hplain : ∀ c ∈ name ++ [' '], (!isDelimiter c) = true := by
    intro c hc
    rcases List.mem_append.1 hc with hc | hc
    · exact List.all_eq_true.1 hname.undelimited c hc
    · simp_all [isDelimiter]
  -- the name holds no delimiter, so that the first one is the equals sign
  have hcut : stating name value = (name ++ [' ']) ++ '=' :: ' ' :: value := by simp [stating]
  have htake : (stating name value).takeWhile (!isDelimiter ·) = name ++ [' '] := by
    rw [hcut, List.takeWhile_append_of_pos hplain, List.takeWhile_cons_of_neg (by decide),
      List.append_nil]
  have hdrop : (stating name value).dropWhile (!isDelimiter ·) = '=' :: ' ' :: value := by
    rw [hcut, List.dropWhile_append_of_pos hplain, List.dropWhile_cons_of_neg (by decide)]
  have hspace : AllBlank [' '] := by simp [AllBlank, isBlank]
  have hkept : trimChars (' ' :: value) = value := by
    simpa [hvalue] using @trimChars_append value [' '] [] hspace (by simp [AllBlank])
  rw [option?, String.toList_ofList, hdrop, htake, trimRight_append hspace, hname.trimmed]
  simp [hname.lowered, hkept]

/-! ## Drafts -/

namespace Draft

variable {d : Draft} {path line : String} {n : Nat} {lines rest : List String}

theorem readLines_cons {d' : Draft} (h : d.readLine path n line = .ok d') :
    readLines path d n (line :: rest) = readLines path d' (n + 1) rest := by
  rw [readLines, h]
  rfl

/-- A line that states an option which its section does not have is read as that option. -/
theorem readLine_stating {s : DraftSection} {others : List DraftSection}
    (hname : IsPlainName name) (hne : value ≠ []) (hvalue : trimChars value = value)
    (hsections : d.sections = s :: others) (hnew : s.has (String.ofList name) = false) :
    d.readLine path n (String.ofList (stating name value ++ ['\n'])) =
      .ok { d with
        sections := ⟨s.name, ⟨String.ofList name, [String.ofList value]⟩ :: s.options⟩ :: others
        option := some (String.ofList name)
        indent := 0 } := by
  have hnonempty : (String.ofList name).isEmpty = false := by
    obtain ⟨c, rest, rfl, -⟩ := hname.start
    simp
  rw [readLine, ofString_stating hname hne (trimRight_of_trimmed hvalue)]
  simp [header?_stating hname, option?_stating hname hvalue, hsections, setOption, hnew,
    hnonempty]

/-- A comment or a blank line. -/
def IsFiller (line : String) : Prop := Line.ofString line = .comment ∨ Line.ofString line = .blank

instance : Decidable (IsFiller line) := inferInstanceAs (Decidable (_ ∨ _))

/-- Before the first section, comments and blank lines add nothing. -/
theorem readLines_fillers_of_no_section (hsections : d.sections = [])
    (h : ∀ line ∈ lines, IsFiller line) :
    readLines path d n (lines ++ rest) = readLines path d (n + lines.length) rest := by
  induction lines generalizing n with
  | nil => rfl
  | cons line lines ih =>
    obtain ⟨hline, hlines⟩ := List.forall_mem_cons.1 h
    have hread : d.readLine path n line = .ok d := by
      cases hline with
      | inl hcomment => rw [readLine, hcomment]
      | inr hblank => rw [readLine, hblank]; simp [continueValue, hsections]
    rw [List.cons_append, readLines_cons hread, ih hlines, List.length_cons]
    congr 1
    omega

/-- After the first option, they add nothing but empty lines to its value. -/
theorem readLines_fillers {heading name : String} {indent : ℕ} {bad : List (ℕ × String)}
    (path : String) (n : ℕ) (values : List String) (h : ∀ line ∈ lines, IsFiller line) :
    ∃ k, readLines path ⟨[⟨heading, [⟨name, values⟩]⟩], some name, indent, bad⟩ n (lines ++ rest) =
      readLines path ⟨[⟨heading, [⟨name, List.replicate k "" ++ values⟩]⟩], some name, indent, bad⟩
        (n + lines.length) rest := by
  induction lines generalizing values n with
  | nil => exact ⟨0, rfl⟩
  | cons line lines ih =>
    obtain ⟨hline, hlines⟩ := List.forall_mem_cons.1 h
    rw [List.cons_append, List.length_cons, Nat.add_comm lines.length, ← Nat.add_assoc]
    cases hline with
    | inl hcomment =>
      obtain ⟨k, hk⟩ := ih (n + 1) values hlines
      exact ⟨k, by rw [readLines_cons (by rw [readLine, hcomment]), hk]⟩
    | inr hblank =>
      obtain ⟨k, hk⟩ := ih (n + 1) ("" :: values) hlines
      refine ⟨k + 1, ?_⟩
      rw [readLines_cons (by rw [readLine, hblank])]
      simpa [continueValue, DraftOption.addLine, List.replicate_succ'] using hk

end Draft

/-! ## Finished values -/

theorem toList_intercalate_replicate (value : String) (k : ℕ) :
    ("\n".intercalate (value :: List.replicate k "")).toList =
      value.toList ++ List.replicate k '\n' := by
  induction k with
  | zero => simp
  | succ k ih =>
    rw [List.replicate_succ', ← List.cons_append,
      String.intercalate_append_of_ne_nil (by simp) (by simp)]
    simp [ih, List.replicate_succ']

/-- The empty lines that were added to a value are taken away in the end. -/
theorem DraftOption.finish_stated {name value : String}
    (hvalue : trimRight value.toList = value.toList) (k : ℕ) :
    DraftOption.finish ⟨name, List.replicate k "" ++ [value]⟩ = (name, value) := by
  have hfeeds : AllBlank (List.replicate k '\n') := by simp [AllBlank, isBlank]
  rw [finish]
  simp only [List.reverse_append, List.reverse_replicate, List.reverse_singleton,
    List.singleton_append]
  rw [toList_intercalate_replicate, trimRight_append hfeeds, hvalue, String.ofList_toList]

end Accrete.Ini
