import Accrete.Text.Blank
import Accrete.Text.Part
import Mathlib.Data.List.TakeWhile

/-!
# Cutting and trimming

What trimming leaves of a text that is put together, and how a text that is put together from lines
is cut into them again.

* `Text.AllBlank`            -- a run of blanks
* `Text.trimRight_cons`      -- trimming the end keeps the front unless all is blank
* `Text.trimChars_append`    -- blanks around a text are trimmed away
* `Text.trimChars_map`       -- only where the blanks are matters
* `Text.ended`               -- lines, each with the line feed that ends it
* `Text.lines_of_ended`      -- a text of such lines is cut into them
* `Text.withLineFeeds_of_ended` -- and it is read as it is
-/

namespace Accrete.Text

/-- A run of blanks. -/
def AllBlank (cs : List Char) : Prop := ∀ c ∈ cs, isBlank c = true

variable {cs before after : List Char} {c : Char}

theorem allBlank_append : AllBlank (before ++ after) ↔ AllBlank before ∧ AllBlank after :=
  List.forall_mem_append

/-! ## The front -/

theorem trimLeft_append (h : AllBlank before) : trimLeft (before ++ cs) = trimLeft cs :=
  List.dropWhile_append_of_pos h

theorem trimLeft_eq_nil_iff : trimLeft cs = [] ↔ AllBlank cs := List.dropWhile_eq_nil_iff

theorem trimLeft_cons (h : isBlank c = false) : trimLeft (c :: cs) = c :: cs := by
  rw [trimLeft, List.dropWhile_cons_of_neg (by simp [h])]

theorem trimLeft_append_of_ne_nil (h : trimLeft cs ≠ []) :
    trimLeft (cs ++ after) = trimLeft cs ++ after := by
  rw [trimLeft, List.dropWhile_append, if_neg (by simpa [trimLeft] using h)]
  rfl

theorem exists_trimLeft (cs : List Char) : ∃ blanks, cs = blanks ++ trimLeft cs ∧ AllBlank blanks :=
  ⟨cs.takeWhile isBlank, List.takeWhile_append_dropWhile.symm, fun _ => List.mem_takeWhile_imp⟩

/-! ## The end -/

theorem trimRight_append (h : AllBlank after) : trimRight (cs ++ after) = trimRight cs := by
  have hreverse : AllBlank after.reverse := fun c hc => h c (List.mem_reverse.1 hc)
  rw [trimRight, List.reverse_append, List.dropWhile_append_of_pos hreverse]
  rfl

theorem trimRight_eq_nil_iff : trimRight cs = [] ↔ AllBlank cs := by
  rw [trimRight, List.reverse_eq_nil_iff, List.dropWhile_eq_nil_iff]
  exact forall_congr' fun c => by rw [List.mem_reverse]

theorem trimRight_concat (h : isBlank c = false) : trimRight (cs ++ [c]) = cs ++ [c] := by
  rw [trimRight, List.reverse_append, List.reverse_singleton, List.singleton_append,
    List.dropWhile_cons_of_neg (by simp [h]), List.reverse_cons, List.reverse_reverse]

/-- The front of a text stays unless all of the text is blank. -/
theorem trimRight_cons (h : ¬AllBlank (c :: cs)) : trimRight (c :: cs) = c :: trimRight cs := by
  rw [trimRight, List.reverse_cons, List.dropWhile_append]
  split
  next hempty =>
    have hcs : AllBlank cs := by simpa [AllBlank] using hempty
    have hc : isBlank c = false := by
      simpa using fun hc => h (List.forall_mem_cons.2 ⟨hc, hcs⟩)
    simp [hc, trimRight_eq_nil_iff.2 hcs]
  · simp [trimRight]

theorem trimRight_append_of_ne_nil (h : trimRight cs ≠ []) :
    trimRight (before ++ cs) = before ++ trimRight cs := by
  rw [trimRight, List.reverse_append, List.dropWhile_append, if_neg, List.reverse_append,
    List.reverse_reverse]
  · rfl
  · simpa [trimRight] using h

theorem exists_trimRight (cs : List Char) :
    ∃ blanks, cs = trimRight cs ++ blanks ∧ AllBlank blanks := by
  refine ⟨(cs.reverse.takeWhile isBlank).reverse, ?_, ?_⟩
  · rw [trimRight, ← List.reverse_append, List.takeWhile_append_dropWhile, List.reverse_reverse]
  · exact fun c hc => List.mem_takeWhile_imp (List.mem_reverse.1 hc)

/-! ## Both ends -/

/-- Blanks around a text are trimmed away. -/
theorem trimChars_append (hbefore : AllBlank before) (hafter : AllBlank after) :
    trimChars (before ++ cs ++ after) = trimChars cs := by
  rw [trimChars, List.append_assoc, trimLeft_append hbefore]
  by_cases h : trimLeft cs = []
  · have hcs := trimLeft_eq_nil_iff.1 h
    rw [trimLeft_append hcs, trimLeft_eq_nil_iff.2 hafter, trimChars, h]
  · rw [trimLeft_append_of_ne_nil h, trimRight_append hafter, trimChars]

/-- A change that keeps the blanks keeps what is trimmed away. -/
theorem trimChars_map {f : Char → Char} (h : ∀ c, isBlank (f c) = isBlank c) :
    trimChars (cs.map f) = (trimChars cs).map f := by
  have hblank : isBlank ∘ f = isBlank := funext h
  simp only [trimChars, trimRight, trimLeft, List.dropWhile_map, hblank, ← List.map_reverse]

theorem mem_of_mem_trimChars (h : c ∈ trimChars cs) : c ∈ cs := by
  obtain ⟨front, hfront, -⟩ := exists_trimLeft cs
  obtain ⟨rear, hrear, -⟩ := exists_trimRight (trimLeft cs)
  rw [hfront, hrear]
  exact List.mem_append_right _ (List.mem_append_left _ h)

theorem trimRight_of_trimmed (h : trimChars cs = cs) : trimRight cs = cs := by
  obtain ⟨front, hfront, -⟩ := exists_trimLeft cs
  obtain ⟨rear, hrear, -⟩ := exists_trimRight (trimLeft cs)
  have hlength : front = [] := by
    have hall := congrArg List.length (hfront.trans (congrArg (front ++ ·) hrear))
    rw [← trimChars, h] at hall
    simp only [List.length_append] at hall
    exact List.length_eq_zero_iff.1 (by omega)
  rw [hlength, List.nil_append] at hfront
  rwa [trimChars, ← hfront] at h

/-! ## Lines -/

/-- A text without an end of a line. -/
def IsLine (cs : List Char) : Prop := '\n' ∉ cs ∧ '\r' ∉ cs

instance (cs : List Char) : Decidable (IsLine cs) := inferInstanceAs (Decidable (_ ∧ _))

/-- Lines, each ended by a line feed. -/
def ended (lines : List (List Char)) : List (List Char) := lines.map (· ++ ['\n'])

theorem charLines_cons {c : Char} {cs : List Char} (h : c ≠ '\n') (h' : c ≠ '\r') :
    charLines (c :: cs) = consLine c (charLines cs) := by
  rw [charLines.eq_3 _ _ fun _ hc => absurd hc h']
  simp [h, h']

theorem charLines_append {cs ds : List Char} (h : IsLine cs) :
    charLines (cs ++ '\n' :: ds) = (cs ++ ['\n']) :: charLines ds := by
  obtain ⟨hfeed, hreturn⟩ := h
  induction cs with
  | nil => simp [charLines]
  | cons c cs ih =>
    rw [List.mem_cons, not_or] at hfeed hreturn
    rw [List.cons_append, charLines_cons (Ne.symm hfeed.1) (Ne.symm hreturn.1),
      ih hfeed.2 hreturn.2]
    rfl

theorem charLines_ended {lines : List (List Char)} (h : ∀ cs ∈ lines, IsLine cs) :
    charLines (ended lines).flatten = ended lines := by
  induction lines with
  | nil => rfl
  | cons cs lines ih =>
    rw [List.forall_mem_cons] at h
    rw [ended, List.map_cons, List.flatten_cons, List.append_assoc, List.singleton_append,
      charLines_append h.1]
    exact congrArg _ (ih h.2)

variable {s : String} {lines : List (List Char)}

theorem lines_of_ended (h : ∀ cs ∈ lines, IsLine cs) (hs : s.toList = (ended lines).flatten) :
    Text.lines s = (ended lines).map String.ofList := by
  rw [Text.lines, hs, charLines_ended h]

theorem withLineFeeds_of_ended (h : ∀ cs ∈ lines, IsLine cs)
    (hs : s.toList = (ended lines).flatten) : withLineFeeds s = s := by
  rw [withLineFeeds, hs, charLines_ended h, ← hs, String.ofList_toList]

end Accrete.Text
