import Accrete.Proofs.Text.Cutting
import Accrete.Text.Case

/-!
# Lowering

Lowering looks at the letters around a capital sigma, so that a text is not lowered character by
character.  A text is lowered part by part where the second part starts with a character that is
neither a letter nor overlooked next to one, and the case of ASCII letters makes no difference.

* `Text.Separates`             -- a character that lowering keeps and that ends a word
* `Text.lowerFrom_append`      -- a text is lowered part by part
* `Text.lowerFrom_map_toLower` -- the case of ASCII letters makes no difference
* `Text.not_mem_lowerFrom`     -- lowering makes no line feed
-/

namespace Accrete.Text

open Case

variable {before cs ds : List Char} {c : Char}

/-! ## Tables -/

/-- The codes of blanks and of parentheses. -/
def separatorRanges : List (Nat × Nat) :=
  [(9, 13), (28, 32), (0x28, 0x29), (0x85, 0x85), (0xa0, 0xa0), (0x1680, 0x1680),
    (0x2000, 0x200a), (0x2028, 0x2029), (0x202f, 0x202f), (0x205f, 0x205f), (0x3000, 0x3000)]

/-- The codes of ASCII letters. -/
def letterRanges : List (Nat × Nat) := [(0x41, 0x5a), (0x61, 0x7a)]

/-- Whether ranges have no code in common. -/
def apart (rs ss : List (Nat × Nat)) : Bool :=
  rs.all fun r => ss.all fun s => decide (r.2 < s.1) || decide (s.2 < r.1)

-- the tables are long, so that all that is used of them is checked at once
theorem tables_checked :
    apart caseIgnorableRanges (separatorRanges ++ letterRanges) = true ∧
      apart casedRanges separatorRanges = true ∧
      apart (lowerRuns.map fun r => (r.1, r.2.1)) separatorRanges = true ∧
      (lowerRuns.all fun r => decide (10 < r.1 + r.2.2.2)) = true := by
  decide +kernel

theorem inRanges_append {rs ss : List (Nat × Nat)} {code : Nat} :
    inRanges (rs ++ ss) code = (inRanges rs code || inRanges ss code) := List.any_append

theorem inRanges_of_apart {rs ss : List (Nat × Nat)} {code : Nat} (h : apart rs ss = true)
    (hcode : inRanges ss code = true) : inRanges rs code = false := by
  rw [inRanges, List.any_eq_true] at hcode
  obtain ⟨s, hs, hin⟩ := hcode
  rw [inRanges, List.any_eq_false]
  intro r hr
  have hrs := List.all_eq_true.1 (List.all_eq_true.1 h r hr) s hs
  simp only [Bool.or_eq_true, Bool.and_eq_true, decide_eq_true_eq] at *
  omega

theorem shifted?_of_separator {code : Nat} (h : inRanges separatorRanges code = true) :
    shifted? lowerRuns code = none := by
  have hout := inRanges_of_apart tables_checked.2.2.1 h
  rw [inRanges, List.any_map, List.any_eq_false] at hout
  rw [shifted?, Option.map_eq_none_iff, List.find?_eq_none]
  intro r hr
  have hr := hout r hr
  simp only [Function.comp_apply, Bool.and_eq_true, decide_eq_true_eq] at hr ⊢
  exact fun hin => hr hin.1

/-! ## Words -/

/-- A character that is not cased, that is not overlooked between cased ones, and that stays as it
    is. -/
structure Separates (c : Char) : Prop where
  notIgnored : inRanges caseIgnorableRanges c.toNat = false
  notCased : inRanges casedRanges c.toNat = false
  notSigma : (c == 'Σ') = false
  isKept : lowerChar c = [c]

theorem toLower_of_not_capital (h : ¬(65 ≤ c.toNat ∧ c.toNat ≤ 90)) : c.toLower = c := by
  delta Char.toLower
  rw [dif_neg]
  rintro ⟨hge, hle⟩
  exact h ⟨UInt32.le_iff_toNat_le.1 hge, UInt32.le_iff_toNat_le.1 hle⟩

theorem separates_of_inRanges (h : inRanges separatorRanges c.toNat = true) : Separates c := by
  have hin : inRanges (separatorRanges ++ letterRanges) c.toNat = true := by
    rw [inRanges_append, h, Bool.true_or]
  have hcode := h
  simp only [inRanges, separatorRanges, List.any_cons, List.any_nil, Bool.or_eq_true,
    Bool.and_eq_true, decide_eq_true_eq, Bool.false_eq_true, or_false] at hcode
  refine ⟨inRanges_of_apart tables_checked.1 hin, inRanges_of_apart tables_checked.2.1 h, ?_, ?_⟩
  · rw [beq_eq_false_iff_ne]
    rintro rfl
    exact absurd h (by decide)
  · -- no capital is a separator, and the table of small letters leaves separators alone
    rw [lowerChar]
    split
    · rw [toLower_of_not_capital (by omega)]
    · have hlookup : lowerExpansions.lookup c.toNat = none := by
        have hne : c.toNat ≠ 0x130 := by omega
        simp [lowerExpansions, List.lookup_cons, beq_eq_false_iff_ne.2 hne]
      rw [mapChar, hlookup, shifted?_of_separator h]
      rfl

theorem separates_of_isBlank (h : isBlank c = true) : Separates c := by
  refine separates_of_inRanges ?_
  simp only [isBlank, Bool.or_eq_true, Bool.and_eq_true, decide_eq_true_eq, beq_iff_eq] at h
  simp only [inRanges, separatorRanges, List.any_cons, List.any_nil, Bool.or_eq_true,
    Bool.and_eq_true, decide_eq_true_eq]
  omega

theorem meetsCased_cons (h : Separates c) : meetsCased (c :: cs) = false := by
  rw [meetsCased, h.notIgnored, h.notCased]
  rfl

/-- What is overlooked may reach the end of a text, so that what follows counts. -/
theorem meetsCased_append (h : meetsCased ds = false) :
    meetsCased (cs ++ ds) = meetsCased cs := by
  induction cs with
  | nil => exact h
  | cons c cs ih => simp only [List.cons_append, meetsCased, ih]

/-- A text is lowered part by part, unless a cased letter that the second part starts with keeps a
    sigma before it from being final. -/
theorem lowerFrom_append (h : meetsCased ds = false) :
    lowerFrom before (cs ++ ds) = lowerFrom before cs ++ lowerFrom (cs.reverse ++ before) ds := by
  induction cs generalizing before with
  | nil => rfl
  | cons c cs ih =>
    simp only [List.cons_append, lowerFrom, meetsCased_append h, ih, List.append_assoc,
      List.reverse_cons, List.nil_append]

theorem lowerFrom_cons (h : Separates c) :
    lowerFrom before (c :: cs) = c :: lowerFrom (c :: before) cs := by
  rw [lowerFrom, h.notSigma, h.isKept]
  rfl

theorem lowerFrom_separating (h : ∀ c ∈ cs, Separates c) :
    lowerFrom before (cs ++ ds) = cs ++ lowerFrom (cs.reverse ++ before) ds := by
  induction cs generalizing before with
  | nil => rfl
  | cons c cs ih =>
    rw [List.cons_append, lowerFrom_cons (h c List.mem_cons_self),
      ih fun c hc => h c (List.mem_cons_of_mem _ hc)]
    simp

/-! ## ASCII letters -/

/-- Two characters that trimming and lowering do not tell apart. -/
structure LowersAlike (c d : Char) : Prop where
  blank : isBlank c = isBlank d
  ignored : inRanges caseIgnorableRanges c.toNat = inRanges caseIgnorableRanges d.toNat
  cased : inRanges casedRanges c.toNat = inRanges casedRanges d.toNat
  sigma : (c == 'Σ') = (d == 'Σ')
  image : lowerChar c = lowerChar d

theorem toNat_toLower (h : 65 ≤ c.toNat) (h' : c.toNat ≤ 90) : c.toLower.toNat = c.toNat + 32 := by
  delta Char.toLower
  rw [dif_pos ⟨UInt32.le_iff_toNat_le.2 h, UInt32.le_iff_toNat_le.2 h'⟩]
  have hval : (c.toNat + 32) % 2 ^ 32 = c.toNat + 32 := Nat.mod_eq_of_lt (by omega)
  exact hval

theorem inRanges_letter {code : Nat} (h : inRanges letterRanges code = true) :
    inRanges caseIgnorableRanges code = false ∧ inRanges casedRanges code = true := by
  have hin : inRanges (separatorRanges ++ letterRanges) code = true := by
    rw [inRanges_append, h, Bool.or_true]
  have hcased : casedRanges = letterRanges ++ casedRanges.drop 2 := rfl
  exact ⟨inRanges_of_apart tables_checked.1 hin, by rw [hcased, inRanges_append, h, Bool.true_or]⟩

theorem isBlank_of_cased (h : inRanges casedRanges c.toNat = true) : isBlank c = false := by
  cases hblank : isBlank c with
  | false => rfl
  | true => exact absurd h (by simp [(separates_of_isBlank hblank).notCased])

theorem lowersAlike_toLower (c : Char) : LowersAlike c.toLower c := by
  by_cases h : 65 ≤ c.toNat ∧ c.toNat ≤ 90
  · have hcode := toNat_toLower h.1 h.2
    have hletter : inRanges letterRanges c.toNat = true := by
      simp [inRanges, letterRanges, h]
    have hlower : inRanges letterRanges c.toLower.toNat = true := by
      simp [inRanges, letterRanges, hcode]
      omega
    obtain ⟨hignored, hcased⟩ := inRanges_letter hletter
    obtain ⟨hignored', hcased'⟩ := inRanges_letter hlower
    refine ⟨?_, hignored'.trans hignored.symm, hcased'.trans hcased.symm, ?_, ?_⟩
    · rw [isBlank_of_cased hcased, isBlank_of_cased hcased']
    · -- neither a capital nor its small letter is a sigma
      have hne : c.toNat ≠ 'Σ'.toNat ∧ c.toLower.toNat ≠ 'Σ'.toNat := by
        have hsigma : 'Σ'.toNat = 0x3a3 := rfl
        omega
      rw [beq_eq_false_iff_ne.2 fun heq => hne.1 (congrArg Char.toNat heq),
        beq_eq_false_iff_ne.2 fun heq => hne.2 (congrArg Char.toNat heq)]
    · rw [lowerChar, lowerChar, if_pos (by omega), if_pos (by omega),
        toLower_of_not_capital (c := c.toLower) (by omega)]
  · rw [toLower_of_not_capital h]
    exact ⟨rfl, rfl, rfl, rfl, rfl⟩

theorem meetsCased_map_toLower : meetsCased (cs.map Char.toLower) = meetsCased cs := by
  induction cs with
  | nil => rfl
  | cons c cs ih =>
    rw [List.map_cons, meetsCased, meetsCased, ih, (lowersAlike_toLower c).ignored,
      (lowersAlike_toLower c).cased]

/-- The case of ASCII letters makes no difference to a text that is lowered. -/
theorem lowerFrom_map_toLower :
    lowerFrom (before.map Char.toLower) (cs.map Char.toLower) = lowerFrom before cs := by
  induction cs generalizing before with
  | nil => rfl
  | cons c cs ih =>
    rw [List.map_cons, lowerFrom, lowerFrom, ← List.map_cons, ih, (lowersAlike_toLower c).sigma,
      (lowersAlike_toLower c).image, meetsCased_map_toLower, meetsCased_map_toLower]

/-- Texts that differ in the case of ASCII letters are lowered to one text, also when they are
    trimmed first. -/
theorem lower_trim_of_asciiLower {s t : String} (h : asciiLower s = asciiLower t) :
    lowerFrom [] (trimChars s.toList) = lowerFrom [] (trimChars t.toList) := by
  have hmap : s.toList.map Char.toLower = t.toList.map Char.toLower := String.ofList_injective h
  have htrim (cs : List Char) :
      lowerFrom [] (trimChars (cs.map Char.toLower)) = lowerFrom [] (trimChars cs) := by
    rw [trimChars_map fun c => (lowersAlike_toLower c).blank]
    exact @lowerFrom_map_toLower [] _
  rw [← htrim s.toList, hmap, htrim]

theorem lowerFrom_ascii {before cs : List Char} (h : ∀ c ∈ cs, c.toNat < 0x80) :
    lowerFrom before cs = cs.map Char.toLower := by
  induction cs generalizing before with
  | nil => rfl
  | cons c cs ih =>
    have hc := h c List.mem_cons_self
    have hsigma : (c == 'Σ') = false := by
      refine beq_eq_false_iff_ne.2 ?_
      rintro rfl
      exact absurd hc (by decide)
    rw [lowerFrom, hsigma, ih fun c hc => h c (List.mem_cons_of_mem _ hc)]
    simp [lowerChar, hc]

theorem lt_of_toLower {c : Char} (h : c.toLower.toNat < 0x80) : c.toNat < 0x80 := by
  delta Char.toLower at h
  split at h
  next hc =>
    have hle : c.val.toNat ≤ 90 := UInt32.le_iff_toNat_le.1 hc.2
    exact Nat.lt_of_le_of_lt hle (by decide)
  · exact h

theorem eq_of_toLower {c : Char} (h : c.toLower = '\n') : c = '\n' := by
  delta Char.toLower at h
  split at h
  next hc =>
    have hge : 65 ≤ c.val.toNat := UInt32.le_iff_toNat_le.1 hc.1
    have hle : c.val.toNat ≤ 90 := UInt32.le_iff_toNat_le.1 hc.2
    have hval : (c.val.toNat + 32) % 2 ^ 32 = 10 := congrArg (fun c : Char => c.val.toNat) h
    omega
  · exact h

/-- A text that lowers to ASCII letters as databases compare names does so in general. -/
theorem lower_of_asciiLower {s w : String} (hw : ∀ c ∈ w.toList, c.toNat < 0x80)
    (h : asciiLower s = w) : lower s = w := by
  subst h
  refine congrArg String.ofList (lowerFrom_ascii fun c hc => lt_of_toLower (hw _ ?_))
  simpa [asciiLower] using ⟨c, hc, rfl⟩

/-! ## Line feeds -/

/-- What a character is mapped to comes from the tables, unless it is the character itself. -/
theorem mem_mapChar {runs : List Run} {expansions : List (Nat × List Nat)} {d : Char}
    (h : d ∈ mapChar runs expansions c) :
    d = c ∨ (∃ e ∈ expansions, ∃ n ∈ e.2, d = Char.ofNat n) ∨
      ∃ r ∈ runs, r.1 ≤ c.toNat ∧ d = Char.ofNat (c.toNat + r.2.2.2).toNat := by
  rw [mapChar] at h
  split at h
  next codes hcodes =>
    obtain ⟨n, hn, rfl⟩ := List.mem_map.1 h
    obtain ⟨before, after, hexpansions, -⟩ := List.lookup_eq_some_iff.1 hcodes
    exact .inr (.inl ⟨(c.toNat, codes), hexpansions ▸ by simp, n, hn, rfl⟩)
  · rw [List.mem_singleton] at h
    cases hshift : shifted? runs c.toNat with
    | none => exact .inl (by rw [h, hshift]; rfl)
    | some n =>
      obtain ⟨r, hr, rfl⟩ := Option.map_eq_some_iff.1 hshift
      refine .inr (.inr ⟨r, List.mem_of_find?_eq_some hr, ?_, by rw [h, hshift]; rfl⟩)
      have hrun := List.find?_some hr
      simp only [Bool.and_eq_true, decide_eq_true_eq] at hrun
      exact hrun.1.1

theorem ofNat_ne_lineFeed {n : Nat} (h : 10 < n) : Char.ofNat n ≠ '\n' := by
  rw [Char.ofNat]
  by_cases hvalid : n.isValidChar
  · rw [dif_pos hvalid]
    intro heq
    have hn : n = 10 := congrArg (fun c : Char => c.val.toNat) heq
    omega
  · rw [dif_neg hvalid]
    decide

theorem eq_of_mem_lowerChar (h : '\n' ∈ lowerChar c) : c = '\n' := by
  rw [lowerChar] at h
  split at h
  · exact eq_of_toLower (List.mem_singleton.1 h).symm
  · obtain heq | ⟨e, he, n, hn, heq⟩ | ⟨r, hr, hfirst, heq⟩ := mem_mapChar h
    · exact heq.symm
    · have hcodes : ∀ e ∈ lowerExpansions, ∀ n ∈ e.2, 10 < n := by decide
      exact absurd heq.symm (ofNat_ne_lineFeed (hcodes e he n hn))
    · have hrun := List.all_eq_true.1 tables_checked.2.2.2 r hr
      rw [decide_eq_true_eq] at hrun
      exact absurd heq.symm (ofNat_ne_lineFeed (by omega))

theorem not_mem_lowerFrom (h : '\n' ∉ cs) : '\n' ∉ lowerFrom before cs := by
  induction cs generalizing before with
  | nil => exact h
  | cons c cs ih =>
    rw [List.mem_cons, not_or] at h
    rw [lowerFrom, List.mem_append, not_or]
    refine ⟨?_, ih h.2⟩
    split
    · split <;> decide
    · exact fun hmem => h.1 (eq_of_mem_lowerChar hmem).symm

end Accrete.Text
