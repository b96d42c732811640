import Accrete.Database.Token
import Accrete.Dialect.Identifier
import Mathlib.Data.List.TakeWhile

/-!
# Tokens of written texts

How a text that was put together from tokens is cut into them again.

* `Token.render`         -- the text of tokens
* `Token.Stands`         -- a token is read as it is before a text
* `Token.scan_render`    -- tokens that stand are read one after the other
* `Token.stands_word`, `Token.stands_quotedName`, `Token.stands_symbol` -- tokens that do
-/

namespace Accrete.Token

def render (ts : List Token) : List Char := ts.flatMap fun t => t.before ++ t.text

@[simp] theorem render_nil : render [] = [] := rfl

@[simp] theorem render_cons (t : Token) (ts : List Token) :
    render (t :: ts) = t.before ++ t.text ++ render ts := rfl

@[simp] theorem render_append (ts us : List Token) : render (ts ++ us) = render ts ++ render us :=
  List.flatMap_append ..

/-- Blanks as they stand before a token: none, or a run that begins as runs do. -/
def IsBlankRun (cs : List Char) : Prop :=
  (∀ c, cs.head? = some c → startsSpace c = true) ∧ ∀ c ∈ cs, isSpace c = true

theorem isBlankRun_nil : IsBlankRun [] := ⟨by simp, by simp⟩

/-- A token is read as it is when a text follows it. -/
structure Stands (t : Token) (rest : List Char) : Prop where
  blanks : IsBlankRun t.before
  starts : ∀ c, (t.text ++ rest).head? = some c → isSpace c = false
  notBlank : blankLength (t.text ++ rest) = 0
  lexed : lexeme (t.text ++ rest) = (t.kind, t.text.length)
  nonempty : t.text ≠ []
  unfinished : t.kind ≠ .finish

/-! ## Scanning -/

theorem blankLength_cons {c : Char} {rest : List Char} (hdash : c ≠ '-') (hslash : c ≠ '/') :
    blankLength (c :: rest) =
      if startsSpace c then runLength isSpace rest + 1 else if c == '\ufeff' then 1 else 0 := by
  unfold blankLength
  split
  · simp_all
  · simp_all
  next heq => rw [(List.cons.inj heq).1, (List.cons.inj heq).2]
  next heq => exact absurd heq (by simp)

theorem runLength_append {p : Char → Bool} {cs rest : List Char} (h : ∀ c ∈ cs, p c = true)
    (hrest : ∀ c, rest.head? = some c → p c = false) : runLength p (cs ++ rest) = cs.length := by
  induction cs with
  | nil =>
    cases rest with
    | nil => rfl
    | cons c rest => simp [runLength, hrest c rfl]
  | cons c cs ih =>
    have ih := ih fun c hc => h c (List.mem_cons_of_mem _ hc)
    simp only [runLength] at ih ⊢
    rw [List.cons_append, List.takeWhile_cons_of_pos (h c List.mem_cons_self), List.length_cons, ih,
      List.length_cons]

theorem blankLength_append {cs rest : List Char} (h : IsBlankRun cs) (hne : cs ≠ [])
    (hrest : ∀ c, rest.head? = some c → isSpace c = false) :
    blankLength (cs ++ rest) = cs.length := by
  cases cs with
  | nil => exact absurd rfl hne
  | cons c cs =>
    have hstarts : startsSpace c = true := h.1 c rfl
    have hdash : c ≠ '-' := by rintro rfl; exact absurd hstarts (by decide)
    have hslash : c ≠ '/' := by rintro rfl; exact absurd hstarts (by decide)
    rw [List.cons_append, blankLength_cons hdash hslash, if_pos hstarts,
      runLength_append (fun c hc => h.2 c (List.mem_cons_of_mem _ hc)) hrest, List.length_cons]

theorem scanFrom_stands {t : Token} {rest : List Char} (h : t.Stands rest) {bound : Nat}
    (hbound : (t.before ++ (t.text ++ rest)).length < bound) :
    ∃ bound', rest.length < bound' ∧
      scanFrom [] bound (t.before ++ (t.text ++ rest)) = t :: scanFrom [] bound' rest := by
  have hpos : 0 < t.text.length := List.length_pos_iff.2 h.nonempty
  have hkind : (t.kind == TokenKind.finish) = false := by simpa using h.unfinished
  -- once the blanks are read, the token is next
  have htoken : ∀ before bound, (t.text ++ rest).length < bound →
      ∃ bound', rest.length < bound' ∧ scanFrom before bound (t.text ++ rest) =
        ⟨t.kind, t.text, before⟩ :: scanFrom [] bound' rest := by
    intro before bound hbound
    obtain ⟨bound, rfl⟩ := Nat.exists_eq_add_of_lt (Nat.zero_lt_of_lt hbound)
    rw [List.length_append] at hbound
    refine ⟨0 + bound, by omega, ?_⟩
    rw [scanFrom, h.notBlank]
    simp [h.lexed, hkind]
  by_cases hnil : t.before = []
  · rw [hnil, List.nil_append] at hbound ⊢
    obtain ⟨bound', hlt, hscan⟩ := htoken [] bound hbound
    exact ⟨bound', hlt, by rw [hscan, ← hnil]⟩
  · have hblank : blankLength (t.before ++ (t.text ++ rest)) = t.before.length :=
      blankLength_append h.blanks hnil h.starts
    have hbefore : 0 < t.before.length := List.length_pos_iff.2 hnil
    obtain ⟨bound, rfl⟩ := Nat.exists_eq_add_of_lt (Nat.zero_lt_of_lt hbound)
    rw [List.length_append] at hbound
    obtain ⟨bound', hlt, hscan⟩ := htoken t.before (0 + bound) (by omega)
    refine ⟨bound', hlt, ?_⟩
    rw [scanFrom, hblank]
    simp only [hbefore, if_true, List.take_left, List.drop_left, List.nil_append]
    exact hscan

/-- All tokens of a list stand where they are, before a text. -/
def StandIn : List Token → List Char → Prop
  | [], _ => True
  | t :: ts, rest => t.Stands (render ts ++ rest) ∧ StandIn ts rest

theorem standIn_append {ts us : List Token} {rest : List Char} :
    StandIn (ts ++ us) rest ↔ StandIn ts (render us ++ rest) ∧ StandIn us rest := by
  induction ts with
  | nil => simp [StandIn]
  | cons t ts ih =>
    rw [List.cons_append, StandIn, StandIn, ih, render_append, List.append_assoc, and_assoc]

/-- Tokens that stand are read one after the other. -/
theorem scan_render {ts : List Token} {rest : List Char} (h : StandIn ts rest) {text : String}
    (htext : text.toList = render ts ++ rest) :
    ∃ bound, rest.length < bound ∧ scan text = ts ++ scanFrom [] bound rest := by
  suffices ∀ bound, (render ts ++ rest).length < bound → ∃ bound', rest.length < bound' ∧
      scanFrom [] bound (render ts ++ rest) = ts ++ scanFrom [] bound' rest by
    rw [scan, htext]
    exact this _ (Nat.lt_succ_self _)
  clear htext
  induction ts with
  | nil => exact fun bound hbound => ⟨bound, hbound, rfl⟩
  | cons t ts ih =>
    intro bound hbound
    rw [render_cons, List.append_assoc, List.append_assoc] at hbound ⊢
    obtain ⟨bound₁, hlt, hscan⟩ := scanFrom_stands h.1 hbound
    obtain ⟨bound', hlt', hrest⟩ := ih h.2 bound₁ hlt
    exact ⟨bound', hlt', by rw [hscan, hrest, List.cons_append]⟩

/-! ## Classes of characters -/

theorem char_eq_iff {c d : Char} : c = d ↔ c.toNat = d.toNat :=
  ⟨congrArg _, fun h => Char.ext (UInt32.toNat_inj.1 h)⟩

theorem isAlpha_iff {c : Char} :
    c.isAlpha = true ↔ 65 ≤ c.toNat ∧ c.toNat ≤ 90 ∨ 97 ≤ c.toNat ∧ c.toNat ≤ 122 := by
  delta Char.isAlpha Char.isUpper Char.isLower
  simp only [Bool.or_eq_true, Bool.and_eq_true, decide_eq_true_eq, ge_iff_le,
    UInt32.le_iff_toNat_le]
  rfl

theorem isDigit_iff {c : Char} : c.isDigit = true ↔ 48 ≤ c.toNat ∧ c.toNat ≤ 57 := by
  simp only [Char.isDigit, Bool.and_eq_true, decide_eq_true_eq, ge_iff_le, UInt32.le_iff_toNat_le]
  rfl

theorem isSpace_iff {c : Char} :
    isSpace c = true ↔ 9 ≤ c.toNat ∧ c.toNat ≤ 13 ∨ c.toNat = 32 := by
  simp [isSpace, char_eq_iff]

theorem startsWord_iff {c : Char} :
    startsWord c = true ↔ 65 ≤ c.toNat ∧ c.toNat ≤ 90 ∨ 97 ≤ c.toNat ∧ c.toNat ≤ 122 ∨
      c.toNat = 95 ∨ 128 ≤ c.toNat := by
  simp only [startsWord, Bool.or_eq_true, isAlpha_iff, beq_iff_eq, decide_eq_true_eq, char_eq_iff]
  simp only [show '_'.toNat = 95 from rfl]
  omega

theorem isWordChar_iff {c : Char} :
    isWordChar c = true ↔ startsWord c = true ∨ c.isDigit = true ∨ c = '$' := by
  simp only [isWordChar, startsWord, Char.isAlphanum, Bool.or_eq_true, decide_eq_true_eq]
  grind

theorem startsSpace_eq_false {c : Char} (h : isSpace c = false) : startsSpace c = false := by
  rw [startsSpace, h, Bool.false_and]

theorem isSpace_of_startsWord {c : Char} (h : startsWord c = true) : isSpace c = false := by
  rw [Bool.eq_false_iff, Ne, isSpace_iff]
  have := startsWord_iff.1 h
  omega

theorem isDigit_of_startsWord {c : Char} (h : startsWord c = true) : c.isDigit = false := by
  rw [Bool.eq_false_iff, Ne, isDigit_iff]
  have := startsWord_iff.1 h
  omega

theorem ne_of_startsWord {c d : Char} (h : startsWord c = true) (hd : startsWord d = false) :
    c ≠ d := by
  rintro rfl
  exact absurd h (by simp [hd])

theorem forall_ne_of_startsWord {c : Char} (h : startsWord c = true) {ds : List Char}
    (hds : ds.all (fun d => !startsWord d) = true) : ∀ d ∈ ds, c ≠ d :=
  fun d hd => ne_of_startsWord h (by simpa using List.all_eq_true.1 hds d hd)

/-! ## Tokens that stand -/

/-- A text that ends a word and a name between double quotes: it is empty, or it begins with a
    character that goes on neither. -/
def Breaks (rest : List Char) : Prop :=
  ∀ c, rest.head? = some c → isWordChar c = false ∧ c ≠ '\'' ∧ c ≠ '"'

theorem breaks_cons {c : Char} {rest : List Char}
    (h : (!isWordChar c && c != '\'' && c != '"') = true) : Breaks (c :: rest) := by
  rintro d hd
  obtain rfl : c = d := by simpa using hd
  simpa [and_assoc] using h

def isOneWord (text : List Char) : Bool :=
  text.head?.any (fun c => startsWord c && c != '\ufeff') && text.all isWordChar

def word (before : List Char) (text : List Char) : Token := ⟨.word, text, before⟩

def symbol (before : List Char) (c : Char) : Token := ⟨.symbol, [c], before⟩

theorem lexeme_of_startsWord {c : Char} {rest : List Char} (hc : startsWord c = true)
    (hnext : rest.head? ≠ some '\'') :
    lexeme (c :: rest) = (.word, runLength isWordChar rest + 1) := by
  have hother : ∀ d ∈ ['\'', '"', '\x60', '[', '.', '?', '$', '@', '#', ':'], c ≠ d :=
    forall_ne_of_startsWord hc (by decide)
  simp only [List.forall_mem_cons] at hother
  -- a letter `x` starts a blob only before a single quote
  simp [lexeme, hother, isDigit_of_startsWord hc, hnext, hc]

theorem stands_word {before text rest : List Char} (hbefore : IsBlankRun before)
    (htext : isOneWord text = true) (hrest : Breaks rest) : (word before text).Stands rest := by
  rw [isOneWord, Bool.and_eq_true, Option.any_eq_true, List.all_eq_true] at htext
  obtain ⟨⟨c, hhead, hc⟩, hword⟩ := htext
  obtain ⟨cs, rfl⟩ := List.head?_eq_some_iff.1 hhead
  obtain ⟨hc, hmark⟩ := Bool.and_eq_true_iff.1 hc
  -- a quote after the first letter would make it a blob
  have hnext : (cs ++ rest).head? ≠ some '\'' := by
    intro hhead
    cases cs with
    | nil => exact (hrest _ hhead).2.1 rfl
    | cons d cs =>
      obtain rfl : d = '\'' := by simpa using hhead
      exact absurd (hword '\'' (by simp)) (by decide)
  have hrun : runLength isWordChar (cs ++ rest) = cs.length :=
    runLength_append (fun d hd => hword d (List.mem_cons_of_mem _ hd)) fun d hd => (hrest d hd).1
  refine ⟨hbefore, ?_, ?_, ?_, List.cons_ne_nil c cs, by simp [word]⟩
  · rintro d hd
    obtain rfl : c = d := by simpa [word] using hd
    exact isSpace_of_startsWord hc
  · rw [word, List.cons_append, blankLength_cons (ne_of_startsWord hc (by decide))
      (ne_of_startsWord hc (by decide)), startsSpace_eq_false (isSpace_of_startsWord hc)]
    simp [bne_iff_ne.1 hmark]
  · rw [word, List.cons_append, lexeme_of_startsWord hc hnext, hrun, List.length_cons]

/-! ## Names between double quotes -/

/-- A name with the blanks before it, between double quotes, which are doubled in it. -/
def quotedName (before name : List Char) : Token :=
  ⟨.quotedName, '"' :: (name.flatMap (Dialect.quotedChar .sqlite) ++ ['"']), before⟩

theorem quotedChar_sqlite (c : Char) :
    Dialect.quotedChar .sqlite c = if c = '"' then ['"', '"'] else [c] := by
  by_cases hc : c = '"'
  · subst hc
    rfl
  · simp [Dialect.quotedChar, Dialect.marks, Dialect.doublesPercent, hc]

theorem quotedLength?_flatMap (name : List Char) {rest : List Char} (hrest : rest.head? ≠ some '"') :
    quotedLength? '"' (name.flatMap (Dialect.quotedChar .sqlite) ++ '"' :: rest) =
      some ((name.flatMap (Dialect.quotedChar .sqlite)).length + 1) := by
  induction name with
  | nil =>
    cases rest with
    | nil => rfl
    | cons d rest =>
      have hd : d ≠ '"' := by simpa using hrest
      simp [quotedLength?, hd]
  | cons c name ih =>
    rw [List.flatMap_cons, quotedChar_sqlite]
    by_cases hc : c = '"'
    · simp [quotedLength?, hc, ih]
    · rw [if_neg hc, List.singleton_append, List.cons_append]
      -- a further character or the closing mark follows
      obtain ⟨d, more, hmore⟩ : ∃ d more,
          name.flatMap (Dialect.quotedChar .sqlite) ++ '"' :: rest = d :: more :=
        List.exists_cons_of_ne_nil (by simp)
      rw [hmore] at ih ⊢
      simp [quotedLength?, hc, ih]

theorem unquoted_flatMap (name : List Char) :
    unquoted '"' (name.flatMap (Dialect.quotedChar .sqlite) ++ ['"']) = name := by
  induction name with
  | nil => rfl
  | cons c name ih =>
    rw [List.flatMap_cons, quotedChar_sqlite]
    by_cases hc : c = '"'
    · simp [unquoted, hc, ih]
    · rw [if_neg hc, List.singleton_append, List.cons_append]
      obtain ⟨d, more, hmore⟩ : ∃ d more,
          name.flatMap (Dialect.quotedChar .sqlite) ++ ['"'] = d :: more :=
        List.exists_cons_of_ne_nil (by simp)
      rw [hmore] at ih ⊢
      simp [unquoted, hc, ih]

theorem stands_quotedName {before name rest : List Char} (hbefore : IsBlankRun before)
    (hrest : Breaks rest) : (quotedName before name).Stands rest := by
  have hnext : rest.head? ≠ some '"' := fun hhead => (hrest _ hhead).2.2 rfl
  refine ⟨hbefore, ?_, ?_, ?_, List.cons_ne_nil _ _, by simp [quotedName]⟩
  · rintro d hd
    obtain rfl : '"' = d := by simpa [quotedName] using hd
    decide
  · rw [quotedName, List.cons_append, blankLength_cons (by decide) (by decide)]
    rfl
  · rw [quotedName, List.cons_append, List.append_assoc, List.singleton_append, lexeme]
    simp [quotedToken, quotedLength?_flatMap name hnext]

/-! ## Symbols -/

theorem stands_symbol {before rest : List Char} (hbefore : IsBlankRun before) {c : Char}
    (hc : c = '(' ∨ c = ',' ∨ c = ')') : (symbol before c).Stands rest := by
  rcases hc with rfl | rfl | rfl
  all_goals
    refine ⟨hbefore, ?_, ?_, ?_, List.cons_ne_nil _ _, by simp [symbol]⟩
    · rintro d hd
      obtain rfl := Option.some.inj hd
      rfl
    · rw [symbol, List.singleton_append, blankLength_cons (by decide) (by decide)]
      rfl
    · rfl

end Accrete.Token
