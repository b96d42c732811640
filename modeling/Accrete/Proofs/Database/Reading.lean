import Accrete.Database.Reader
import Accrete.Proofs.Logged

/-!
# What readers ensure

A reader ensures a statement at a state if the statement holds of all that it yields there.  A
refusal ensures everything, so nothing has to be said about how many parts may be open.

* `Reader.Ensures`           -- partial correctness of a reader at a state
* `Reader.Ensures.bind`      -- readers in sequence
* `Reader.ensures_take`, `Reader.ensures_leave` -- a test on the next token
* `Reader.ensures_repeated`  -- repeated steps keep what each step keeps
-/

namespace Accrete.Reader

variable {α β : Type}

/-- All that a reader yields at a state satisfies a statement. -/
def Ensures (r : Reader α) (s : Reading) (Q : α → Reading → Prop) : Prop :=
  ∀ a s', StateT.run r s = .ok (a, s') → Q a s'

namespace Ensures

variable {r : Reader α} {s : Reading} {Q Q' : α → Reading → Prop}

theorem mono (h : Ensures r s Q) (hQ : ∀ a s', Q a s' → Q' a s') : Ensures r s Q' :=
  fun a s' hrun => hQ a s' (h a s' hrun)

theorem and (h : Ensures r s Q) (h' : Ensures r s Q') :
    Ensures r s fun a s' => Q a s' ∧ Q' a s' :=
  fun a s' hrun => ⟨h a s' hrun, h' a s' hrun⟩

theorem pure {a : α} (h : Q a s) : Ensures (pure a) s Q := by
  intro a' s' hrun
  obtain ⟨rfl, rfl⟩ : a = a' ∧ s = s' := Prod.mk.inj (Except.ok.inj hrun)
  exact h

theorem bind {f : α → Reader β} {Q : β → Reading → Prop}
    (h : Ensures r s fun a s' => Ensures (f a) s' Q) : Ensures (r >>= f) s Q := by
  intro b s' hrun
  rw [StateT.run_bind] at hrun
  cases hr : StateT.run r s with
  | error e => simp [hr, Bind.bind, Except.bind] at hrun
  | ok p =>
    rw [hr] at hrun
    exact h p.1 p.2 hr b s' hrun

/-- What comes first does not matter. -/
theorem seq {f : α → Reader β} {Q : β → Reading → Prop} (h : ∀ a s', Ensures (f a) s' Q) :
    Ensures (r >>= f) s Q := .bind fun a s' _ => h a s'

theorem map {f : α → β} {Q : β → Reading → Prop} (h : Ensures r s fun a s' => Q (f a) s') :
    Ensures (f <$> r) s Q := by
  rw [← bind_pure_comp]
  exact .bind (h.mono fun a s' hQ => .pure hQ)

theorem seqRight {r' : Reader β} {Q : β → Reading → Prop}
    (h : Ensures r s fun _ s' => Ensures r' s' Q) : Ensures (r *> r') s Q := by
  rw [seqRight_eq_bind]
  exact .bind h

theorem get {Q : Reading → Reading → Prop} (h : Q s s) :
    Ensures (MonadState.get : Reader Reading) s Q := by
  intro a s' hrun
  obtain ⟨rfl, rfl⟩ : s = a ∧ s = s' := Prod.mk.inj (Except.ok.inj hrun)
  exact h

theorem set {s₁ : Reading} {Q : Unit → Reading → Prop} (h : Q () s₁) :
    Ensures (MonadStateOf.set s₁ : Reader Unit) s Q := by
  intro a s' hrun
  obtain ⟨-, rfl⟩ : () = a ∧ s₁ = s' := Prod.mk.inj (Except.ok.inj hrun)
  exact h

theorem modifies {f : Reading → Reading} {Q : Unit → Reading → Prop} (h : Q () (f s)) :
    Ensures (modify f : Reader Unit) s Q := by
  intro a s' hrun
  obtain ⟨-, rfl⟩ : () = a ∧ f s = s' := Prod.mk.inj (Except.ok.inj hrun)
  exact h

theorem throw {e : Refusal} : Ensures (throw e : Reader α) s Q := by
  intro a s' hrun
  simp [StateT.run, MonadExcept.throw, throwThe, MonadExceptOf.throw, StateT.lift, Bind.bind,
    Except.bind] at hrun

end Ensures

/-! ## The next token -/

section Tokens

variable {s : Reading} {tokens : List Token} {noted : Option Refusal} {n : Nat}

theorem ensures_peek {Q : Token → Reading → Prop} (h : Q (s.tokens.head?.getD Token.finish) s) :
    Ensures peek s Q := by
  refine .bind (.get ?_)
  split
  next htokens => exact .pure (by simpa [htokens] using h)
  next t rest htokens =>
    split
    · exact .bind .throw
    · exact .pure (by simpa [htokens] using h)

theorem ensures_deepen {Q : Unit → Reading → Prop} (h : ∀ n, Q () { s with depth := n }) :
    Ensures deepen s Q := by
  refine .bind (.get ?_)
  dsimp only
  split
  · exact .bind .throw
  · exact .set (h _)

theorem ensures_skip {Q : Unit → Reading → Prop}
    (h : s.noted = none → ∀ n, Q () ⟨s.tokens.drop 1, none, n⟩) : Ensures skip s Q := by
  refine .bind (ensures_deepen fun n => .bind (.get ?_))
  split
  · exact .bind .throw
  next hnone => exact .set (h (Option.eq_none_iff_forall_ne_some.2 hnone) n)

theorem ensures_closing {r : Reader α} {depth : Nat → Nat} {Q : α → Reading → Prop}
    (h : Ensures r s fun a s' => ∀ n, Q a { s' with depth := n }) :
    Ensures (closing depth r) s Q :=
  .bind (.get (.bind (h.mono fun _ _ hQ => .bind (.modifies (.pure (hQ _))))))

theorem ensures_asOne {r : Reader α} {Q : α → Reading → Prop}
    (h : Ensures r s fun a s' => ∀ n, Q a { s' with depth := n }) : Ensures (asOne r) s Q :=
  ensures_closing h

theorem ensures_intoLast {r : Reader α} {Q : α → Reading → Prop}
    (h : Ensures r s fun a s' => ∀ n, Q a { s' with depth := n }) : Ensures (intoLast r) s Q :=
  ensures_closing h

theorem ensures_note {refusal : Refusal} {Q : Unit → Reading → Prop}
    (h : Q () { s with noted := some refusal }) : Ensures (note refusal) s Q := .modifies h

theorem ensures_orNote {before : α} {x : Except Refusal α} {Q : α → Reading → Prop}
    (hok : ∀ a, x = .ok a → Q a s)
    (herror : ∀ refusal, x = .error refusal → Q before { s with noted := some refusal }) :
    Ensures (orNote before x) s Q := by
  cases x with
  | ok a => exact .pure (hok a rfl)
  | error refusal => exact .bind (ensures_note (.pure (herror refusal rfl)))

/-! ## Tests on the next token -/

theorem ensures_take {t : Token} {test : Token → Bool} {Q : Option Token → Reading → Prop}
    (ht : test t = true) (h : noted = none → ∀ n, Q (some t) ⟨tokens, none, n⟩) :
    Ensures (takeIf test) ⟨t :: tokens, noted, n⟩ Q := by
  refine .bind (ensures_peek ?_)
  simp only [List.head?_cons, Option.getD_some, ht, if_true]
  exact .bind (ensures_skip fun hnone n => .pure (h hnone n))

theorem ensures_leave {t : Token} {test : Token → Bool} {Q : Option Token → Reading → Prop}
    (ht : test t = false) (h : Q none ⟨t :: tokens, noted, n⟩) :
    Ensures (takeIf test) ⟨t :: tokens, noted, n⟩ Q := by
  refine .bind (ensures_peek ?_)
  simp only [List.head?_cons, Option.getD_some, ht]
  exact .pure h

/-- Whatever the next token is, a test either takes it or changes nothing. -/
theorem ensures_takeIf {test : Token → Bool} {Q : Option Token → Reading → Prop}
    (htake : s.noted = none → ∀ t n, Q (some t) ⟨s.tokens.drop 1, none, n⟩) (hleave : Q none s) :
    Ensures (takeIf test) s Q := by
  refine .bind (ensures_peek ?_)
  split
  · exact .bind (ensures_skip fun hnone n => .pure (htake hnone _ n))
  · exact .pure hleave

theorem ensures_expect {t : Token} {test : Token → Bool} {Q : Token → Reading → Prop}
    (h : noted = none → ∀ n, Q t ⟨tokens, none, n⟩) :
    Ensures (expect test) ⟨t :: tokens, noted, n⟩ Q := by
  refine .bind ?_
  by_cases ht : test t = true
  · exact ensures_take ht fun hnone n => .pure (h hnone n)
  · exact ensures_leave (by simpa using ht) (.bind (ensures_peek .throw))

theorem ensures_expect_noted {test : Token → Bool} {Q : Token → Reading → Prop}
    (hs : s.noted ≠ none) : Ensures (expect test) s Q :=
  .bind (ensures_takeIf (fun hnone _ _ => absurd hnone hs) (.bind (ensures_peek .throw)))

theorem ensures_expectWord {t : Token} {word : String} {Q : Unit → Reading → Prop}
    (h : noted = none → ∀ n, Q () ⟨tokens, none, n⟩) :
    Ensures (expectWord word) ⟨t :: tokens, noted, n⟩ Q :=
  .map (ensures_expect h)

theorem ensures_expectSymbol {t : Token} {symbol : String} {Q : Unit → Reading → Prop}
    (h : noted = none → ∀ n, Q () ⟨tokens, none, n⟩) :
    Ensures (expectSymbol symbol) ⟨t :: tokens, noted, n⟩ Q :=
  .map (ensures_expect h)

theorem ensures_takeWord {t : Token} {word : String} {Q : Bool → Reading → Prop}
    (htake : t.isWord word = true → noted = none → ∀ n, Q true ⟨tokens, none, n⟩)
    (hleave : t.isWord word = false → Q false ⟨t :: tokens, noted, n⟩) :
    Ensures (takeWord word) ⟨t :: tokens, noted, n⟩ Q := by
  refine .map ?_
  by_cases ht : t.isWord word = true
  · exact ensures_take ht (htake ht)
  · exact ensures_leave (by simpa using ht) (hleave (by simpa using ht))

theorem ensures_takeSymbol {t : Token} {symbol : String} {Q : Bool → Reading → Prop}
    (htake : t.isSymbol symbol = true → noted = none → ∀ n, Q true ⟨tokens, none, n⟩)
    (hleave : t.isSymbol symbol = false → Q false ⟨t :: tokens, noted, n⟩) :
    Ensures (takeSymbol symbol) ⟨t :: tokens, noted, n⟩ Q := by
  refine .map ?_
  by_cases ht : t.isSymbol symbol = true
  · exact ensures_take ht (htake ht)
  · exact ensures_leave (by simpa using ht) (hleave (by simpa using ht))

end Tokens

theorem ensures_unexpected {s : Reading} {Q : α → Reading → Prop} : Ensures unexpected s Q :=
  .seq fun _ _ => .throw

/-! ## Branches -/

section Branches

variable {s : Reading} {tokens : List Token} {noted : Option Refusal} {n : Nat} {t : Token}
  {word : String} {r k : Reader α} {Q : α → Reading → Prop}

/-- Whatever the next token is, a branch on a word takes it or changes nothing. -/
theorem ensures_ifWord (hr : ∀ s, Ensures r s Q) (hk : Ensures k s Q) :
    Ensures (do if ← takeWord word then r else k) s Q := by
  refine .bind (.map (ensures_takeIf (fun _ t n => ?_) ?_))
  · exact hr _
  · exact hk

theorem ensures_ifSymbol {symbol : String} (hr : ∀ s, Ensures r s Q) (hk : Ensures k s Q) :
    Ensures (do if ← takeSymbol symbol then r else k) s Q := by
  refine .bind (.map (ensures_takeIf (fun _ t n => ?_) ?_))
  · exact hr _
  · exact hk

theorem ensures_ifWord_take (ht : t.isWord word = true)
    (hr : noted = none → ∀ n, Ensures r ⟨tokens, none, n⟩ Q) :
    Ensures (do if ← takeWord word then r else k) ⟨t :: tokens, noted, n⟩ Q :=
  .bind (ensures_takeWord (fun _ hnone n => hr hnone n) fun h => absurd ht (by simp [h]))

theorem ensures_ifWord_leave (ht : t.isWord word = false)
    (hk : Ensures k ⟨t :: tokens, noted, n⟩ Q) :
    Ensures (do if ← takeWord word then r else k) ⟨t :: tokens, noted, n⟩ Q :=
  .bind (ensures_takeWord (fun h => absurd ht (by simp [h])) fun _ => hk)

theorem ensures_ifWord_noted (hs : s.noted ≠ none) (hk : Ensures k s Q) :
    Ensures (do if ← takeWord word then r else k) s Q := by
  refine .bind (.map (ensures_takeIf (fun hnone _ _ => absurd hnone hs) ?_))
  exact hk

theorem ensures_ifAt {words : List String} (hr : Ensures r s Q) (hk : Ensures k s Q) :
    Ensures (do if ← atWord words then r else k) s Q := by
  refine .bind (.bind (ensures_peek (.pure ?_)))
  split
  · exact hr
  · exact hk

theorem ensures_ifSymbol_leave {symbol : String} (ht : t.isSymbol symbol = false)
    (hk : Ensures k ⟨t :: tokens, noted, n⟩ Q) :
    Ensures (do if ← takeSymbol symbol then r else k) ⟨t :: tokens, noted, n⟩ Q :=
  .bind (ensures_takeSymbol (fun h => absurd ht (by simp [h])) fun _ => hk)

theorem ensures_ifAt_leave {words : List String} (ht : words.any t.isWord = false)
    (hk : Ensures k ⟨t :: tokens, noted, n⟩ Q) :
    Ensures (do if ← atWord words then r else k) ⟨t :: tokens, noted, n⟩ Q :=
  .bind (.bind (ensures_peek (.pure (by simpa [ht] using hk))))

end Branches

theorem ensures_finish {s : Reading} : Ensures finish s fun _ _ => s.noted = none := by
  refine .bind (.map (ensures_takeIf (fun hnone _ _ => .bind (.get (.pure hnone))) ?_))
  exact .bind (.bind (ensures_takeIf (fun hnone _ _ => .pure (.pure hnone)) ensures_unexpected))

/-! ## Repetition -/

/-- What each step keeps is kept by all of them. -/
theorem ensures_repeatWithin {step : α → Reader (Option α)} {I : α → Reading → Prop}
    (hstep : ∀ a s, I a s → Ensures (step a) s fun o s' =>
      match o with
      | none => I a s'
      | some b => I b s') (bound : Nat) {a : α} {s : Reading} (h : I a s) :
    Ensures (repeatWithin step bound a) s I := by
  induction bound generalizing a s with
  | zero => exact .pure h
  | succ bound ih =>
    refine .bind ((hstep a s h).mono fun o s' ho => ?_)
    cases o with
    | none => exact .pure ho
    | some b => exact ih ho

theorem ensures_repeatWithin_succ {step : α → Reader (Option α)} {bound : Nat} {a : α} {s : Reading}
    {Q : α → Reading → Prop}
    (h : Ensures (step a) s fun o s' =>
      match o with
      | none => Q a s'
      | some b => Ensures (repeatWithin step bound b) s' Q) :
    Ensures (repeatWithin step (bound + 1) a) s Q := by
  refine .bind (h.mono fun o s' ho => ?_)
  cases o with
  | none => exact .pure ho
  | some b => exact ho

theorem ensures_repeated_none {step : α → Reader (Option α)} {a : α} {s : Reading}
    {Q : α → Reading → Prop} (h : Ensures (step a) s fun o s' => o = none ∧ Q a s') :
    Ensures (repeated step a) s Q := by
  refine .bind (.map (.get (ensures_repeatWithin_succ (h.mono ?_))))
  rintro o s' ⟨rfl, hQ⟩
  exact hQ

theorem ensures_repeated {step : α → Reader (Option α)} {I : α → Reading → Prop}
    (hstep : ∀ a s, I a s → Ensures (step a) s fun o s' =>
      match o with
      | none => I a s'
      | some b => I b s') {a : α} {s : Reading} (h : I a s) :
    Ensures (repeated step a) s I :=
  .bind (.map (.get (ensures_repeatWithin hstep _ h)))

theorem ensures_spanned {r : Reader α} {s : Reading} {Q : α × List Token → Reading → Prop}
    (h : Ensures r s fun a s' =>
      Q (a, s.tokens.take (s.tokens.length - s'.tokens.length)) s') :
    Ensures (spanned r) s Q :=
  .bind (.get (.bind (h.mono fun _ _ hQ => .bind (.bind (.map (.get (.pure (.pure hQ))))))))

theorem of_run {r : Reader α} {text : String} {a : α} {P : α → Prop}
    (h : Ensures r ⟨Token.scan text, none, 0⟩ fun a _ => P a) (hrun : r.run text = .ok a) : P a := by
  obtain ⟨⟨a', s⟩, hr, rfl⟩ := Except.map_eq_ok.1 hrun
  exact h a' s hr

end Accrete.Reader
