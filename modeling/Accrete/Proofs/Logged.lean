import Accrete.Logged
import Accrete.Proofs.Correspondence

/-!
# Outcomes of tasks

How the outcome and the events of a task come from those of its parts.

* `Logged.outcome_bind_eq_ok`, `Logged.events_bind`   -- two tasks in sequence
* `Logged.outcome_mapM_eq_ok`, `Logged.events_mapM`   -- one task for each item of a list
* `Except.mapM_eq_ok`, `Except.mapError_eq_ok`        -- the same without events
* `Except.mapM_eq_error`, `Except.forM_eq_error`      -- which item it is that stops a task
-/

namespace Accrete

namespace Except

variable {ε ε' α β γ : Type}

theorem eq_ok_of_isOk {x : Except ε α} (h : x.isOk = true) : ∃ a, x = .ok a := by
  cases x with
  | ok a => exact ⟨a, rfl⟩
  | error e => exact absurd h (by simp [Except.isOk, Except.toBool])

theorem exists_of_any {x : Except ε α} {p : α → Bool} (h : x.toOption.any p = true) :
    ∃ a, x = .ok a ∧ p a = true := by
  cases x with
  | ok a => exact ⟨a, rfl, h⟩
  | error e => exact absurd h (by simp [Except.toOption])

theorem bind_eq_ok {x : Except ε α} {f : α → Except ε β} {b : β} :
    (x >>= f) = .ok b ↔ ∃ a, x = .ok a ∧ f a = .ok b := by
  cases x with
  | ok a => simp [bind, Except.bind]
  | error e => simp [bind, Except.bind]

theorem bind_eq_error {x : Except ε α} {f : α → Except ε β} {e : ε} :
    (x >>= f) = .error e ↔ x = .error e ∨ ∃ a, x = .ok a ∧ f a = .error e := by
  cases x with
  | ok a => simp [bind, Except.bind]
  | error e => simp [bind, Except.bind]

/-- A refusal under a condition, followed by more. -/
theorem guard_eq_ok {c : Prop} [Decidable c] {e : ε} {f : PUnit → Except ε β} {b : β} :
    (if c then throw e >>= f else f ⟨⟩) = .ok b ↔ ¬c ∧ f ⟨⟩ = .ok b := by
  by_cases hc : c <;> simp [hc, throw, throwThe, MonadExceptOf.throw, bind, Except.bind]

/-- A check under a condition, followed by more. -/
theorem of_check_eq_ok {c : Prop} [Decidable c] {x : Except ε PUnit} {f : PUnit → Except ε β} {b : β}
    (h : (if c then x >>= f else f ⟨⟩) = .ok b) : f ⟨⟩ = .ok b := by
  by_cases hc : c
  · rw [if_pos hc] at h
    obtain ⟨⟨⟩, -, h⟩ := bind_eq_ok.1 h
    exact h
  · rwa [if_neg hc] at h

@[simp] theorem pure_eq_ok {a b : α} : (pure a : Except ε α) = .ok b ↔ a = b :=
  Except.ok.injEq a b ▸ Iff.rfl

@[simp] theorem mapError_eq_ok {x : Except ε α} {f : ε → ε'} {a : α} :
    x.mapError f = .ok a ↔ x = .ok a := by
  cases x with
  | ok a => simp [Except.mapError]
  | error e => simp [Except.mapError]

theorem mapError_eq_error {x : Except ε α} {f : ε → ε'} {e : ε'} :
    x.mapError f = .error e ↔ ∃ cause, x = .error cause ∧ f cause = e := by
  cases x with
  | ok a => simp [Except.mapError]
  | error e => simp [Except.mapError]

theorem map_eq_ok {x : Except ε α} {f : α → β} {b : β} :
    f <$> x = .ok b ↔ ∃ a, x = .ok a ∧ f a = b := by
  cases x <;> simp [Functor.map, Except.map]

theorem mapM_eq_ok {f : α → Except ε β} {xs : List α} {ys : List β} :
    xs.mapM f = .ok ys ↔ List.Forall₂ (fun x y => f x = .ok y) xs ys := by
  induction xs generalizing ys with
  | nil => rw [List.mapM_nil, pure_eq_ok, List.forall₂_nil_left_iff, eq_comm]
  | cons x xs ih =>
    rw [List.mapM_cons, bind_eq_ok, List.forall₂_cons_left_iff]
    constructor
    · rintro ⟨y, hy, h⟩
      obtain ⟨ys', hys, h⟩ := bind_eq_ok.1 h
      exact ⟨y, ys', hy, ih.1 hys, (pure_eq_ok.1 h).symm⟩
    · rintro ⟨y, ys', hy, hys, rfl⟩
      exact ⟨y, hy, bind_eq_ok.2 ⟨ys', ih.2 hys, rfl⟩⟩

/-- Items whose results are all turned into others. -/
theorem mapM_map_eq_ok {f : α → Except ε β} {g : β → γ} {xs : List α} {zs : List γ} :
    (xs.mapM fun x => g <$> f x) = .ok zs ↔ ∃ ys, xs.mapM f = .ok ys ∧ zs = ys.map g := by
  simp only [mapM_eq_ok, map_eq_ok]
  induction xs generalizing zs with
  | nil => simp [List.forall₂_nil_left_iff]
  | cons x xs ih =>
    simp only [List.forall₂_cons_left_iff, ih]
    constructor
    · rintro ⟨_, _, ⟨y, hy, rfl⟩, ⟨ys, hys, rfl⟩, rfl⟩
      exact ⟨y :: ys, ⟨y, ys, hy, hys, rfl⟩, rfl⟩
    · rintro ⟨_, ⟨y, ys, hy, hys, rfl⟩, rfl⟩
      exact ⟨_, _, ⟨y, hy, rfl⟩, ⟨ys, hys, rfl⟩, rfl⟩

/-- Items are turned into others just where each of them is. -/
theorem exists_mapM_and_iff {f : α → Except ε β} {P : β → Prop} {xs : List α} :
    (∃ ys, xs.mapM f = .ok ys ∧ ∀ y ∈ ys, P y) ↔ ∀ x ∈ xs, ∃ y, f x = .ok y ∧ P y := by
  simp only [mapM_eq_ok]
  induction xs with
  | nil => simp
  | cons x xs ih =>
    simp only [List.forall₂_cons_left_iff, List.forall_mem_cons, ← ih]
    constructor
    · rintro ⟨_, ⟨y, ys, hy, hys, rfl⟩, hP⟩
      obtain ⟨hPy, hPys⟩ := List.forall_mem_cons.1 hP
      exact ⟨⟨y, hy, hPy⟩, ys, hys, hPys⟩
    · rintro ⟨⟨y, hy, hPy⟩, ys, hys, hPys⟩
      exact ⟨_, ⟨y, ys, hy, hys, rfl⟩, List.forall_mem_cons.2 ⟨hPy, hPys⟩⟩

theorem exists_mapM_iff {f : α → Except ε β} {xs : List α} :
    (∃ ys, xs.mapM f = .ok ys) ↔ ∀ x ∈ xs, ∃ y, f x = .ok y := by
  simpa using @exists_mapM_and_iff ε α β f (fun _ => True) xs

/-- The first item that is refused decides. -/
theorem mapM_eq_error {f : α → Except ε β} {xs : List α} {e : ε} :
    xs.mapM f = .error e ↔ ∃ before x after, xs = before ++ x :: after ∧
      (∀ y ∈ before, ∃ z, f y = .ok z) ∧ f x = .error e := by
  induction xs with
  | nil => simp [pure, Except.pure]
  | cons x xs ih =>
    -- once an item passes, only the others can be refused
    have hrest : ∀ y, (xs.mapM f >>= fun ys => (pure (y :: ys) : Except ε (List β))) = .error e ↔
        xs.mapM f = .error e := by
      intro y
      simp [bind_eq_error, pure, Except.pure]
    simp only [List.mapM_cons, bind_eq_error, hrest, ih]
    constructor
    · rintro (hx | ⟨y, hy, before, z, after, rfl, hbefore, hz⟩)
      · exact ⟨[], x, xs, rfl, by simp, hx⟩
      · exact ⟨x :: before, z, after, rfl, List.forall_mem_cons.2 ⟨⟨y, hy⟩, hbefore⟩, hz⟩
    · rintro ⟨before, z, after, hxs, hbefore, hz⟩
      cases before with
      | nil =>
        obtain ⟨rfl, -⟩ := List.cons.inj hxs
        exact .inl hz
      | cons w before =>
        obtain ⟨rfl, rfl⟩ := List.cons.inj hxs
        obtain ⟨⟨y, hy⟩, hbefore⟩ := List.forall_mem_cons.1 hbefore
        exact .inr ⟨y, hy, before, z, after, rfl, hbefore, hz⟩

/-- Items before and after one that decides. -/
theorem mapM_append_cons {f : α → Except ε β} {xs ys : List α} {as bs : List β} (x : α)
    (hxs : xs.mapM f = .ok as) (hys : ys.mapM f = .ok bs) :
    (xs ++ x :: ys).mapM f = (fun b => as ++ b :: bs) <$> f x := by
  rw [List.mapM_append, List.mapM_cons, hxs, hys]
  cases f x <;> rfl

theorem mapM_append_cons_eq_ok {f : α → Except ε β} {xs ys : List α} {x : α} {zs : List β} :
    (xs ++ x :: ys).mapM f = .ok zs ↔ ∃ as b bs, xs.mapM f = .ok as ∧ f x = .ok b ∧
      ys.mapM f = .ok bs ∧ zs = as ++ b :: bs := by
  constructor
  · intro h
    rw [List.mapM_append, List.mapM_cons] at h
    obtain ⟨as, has, h⟩ := bind_eq_ok.1 h
    obtain ⟨rest, hrest, h⟩ := bind_eq_ok.1 h
    obtain ⟨b, hb, hrest⟩ := bind_eq_ok.1 hrest
    obtain ⟨bs, hbs, hrest⟩ := bind_eq_ok.1 hrest
    obtain rfl := Except.ok.inj hrest
    exact ⟨as, b, bs, has, hb, hbs, (Except.ok.inj h).symm⟩
  · rintro ⟨as, b, bs, has, hb, hbs, rfl⟩
    rw [mapM_append_cons x has hbs, hb]
    rfl

theorem exists_of_mem_mapM {f : α → Except ε β} {xs : List α} {ys : List β}
    (h : xs.mapM f = .ok ys) {y : β} (hy : y ∈ ys) : ∃ x ∈ xs, f x = .ok y := by
  replace h := mapM_eq_ok.1 h
  induction h with
  | nil => exact absurd hy List.not_mem_nil
  | cons hx _ ih =>
    rcases List.mem_cons.1 hy with rfl | hy
    · exact ⟨_, List.mem_cons_self, hx⟩
    · obtain ⟨x, hmem, hx⟩ := ih hy
      exact ⟨x, List.mem_cons_of_mem _ hmem, hx⟩

theorem forM_eq_ok {f : α → Except ε Unit} {xs : List α} :
    xs.forM f = .ok () ↔ ∀ x ∈ xs, f x = .ok () := by
  induction xs with
  | nil => simp [List.forM, pure, Except.pure]
  | cons x xs ih =>
    rw [List.forM, bind_eq_ok, List.forall_mem_cons, ih]
    exact ⟨fun ⟨(), h⟩ => h, fun h => ⟨(), h⟩⟩

/-- The first item that does not pass decides. -/
theorem forM_eq_error {f : α → Except ε Unit} {xs : List α} {e : ε} :
    xs.forM f = .error e ↔ ∃ before x after, xs = before ++ x :: after ∧
      (∀ y ∈ before, f y = .ok ()) ∧ f x = .error e := by
  induction xs with
  | nil => simp [List.forM, pure, Except.pure]
  | cons x xs ih =>
    rw [List.forM, bind_eq_error, ih]
    constructor
    · rintro (hx | ⟨⟨⟩, hx, before, y, after, rfl, hbefore, hy⟩)
      · exact ⟨[], x, xs, rfl, by simp, hx⟩
      · exact ⟨x :: before, y, after, rfl, List.forall_mem_cons.2 ⟨hx, hbefore⟩, hy⟩
    · rintro ⟨before, y, after, hxs, hbefore, hy⟩
      cases before with
      | nil =>
        obtain ⟨rfl, -⟩ := List.cons.inj hxs
        exact .inl hy
      | cons z before =>
        obtain ⟨rfl, rfl⟩ := List.cons.inj hxs
        obtain ⟨hz, hbefore⟩ := List.forall_mem_cons.1 hbefore
        exact .inr ⟨(), hz, before, y, after, rfl, hbefore, hy⟩

theorem exists_of_forM_eq_error {f : α → Except ε Unit} {xs : List α} {e : ε}
    (h : xs.forM f = .error e) : ∃ x ∈ xs, f x = .error e := by
  obtain ⟨before, x, after, rfl, -, hx⟩ := forM_eq_error.1 h
  exact ⟨x, by simp, hx⟩

/-- Items that are checked one by one, each turned into another. -/
theorem mapM_eq_ok_map {f : α → Except ε β} {p : α → Prop} {g : α → β}
    (h : ∀ x y, f x = .ok y ↔ p x ∧ y = g x) {xs : List α} {ys : List β} :
    xs.mapM f = .ok ys ↔ (∀ x ∈ xs, p x) ∧ ys = xs.map g := by
  rw [mapM_eq_ok]
  simp only [h]
  induction xs generalizing ys with
  | nil => simp [List.forall₂_nil_left_iff]
  | cons x xs ih =>
    simp only [List.forall₂_cons_left_iff, ih, List.forall_mem_cons, List.map_cons]
    constructor
    · rintro ⟨_, _, ⟨hx, rfl⟩, ⟨hxs, rfl⟩, rfl⟩
      exact ⟨⟨hx, hxs⟩, rfl⟩
    · rintro ⟨⟨hx, hxs⟩, rfl⟩
      exact ⟨_, _, ⟨hx, rfl⟩, ⟨hxs, rfl⟩, rfl⟩

/-- Items that are only checked stay as they are. -/
theorem mapM_checked_eq_ok {check : α → Except ε Unit} {xs ys : List α} :
    (xs.mapM fun x => do check x; return x) = .ok ys ↔
      (∀ x ∈ xs, check x = .ok ()) ∧ xs = ys := by
  have h : ∀ x y : α, (do check x; return x : Except ε α) = .ok y ↔ check x = .ok () ∧ y = x := by
    intro x y
    rw [bind_eq_ok]
    exact ⟨fun ⟨(), hcheck, hxy⟩ => ⟨hcheck, (pure_eq_ok.1 hxy).symm⟩,
      fun ⟨hcheck, hxy⟩ => ⟨(), hcheck, pure_eq_ok.2 hxy.symm⟩⟩
  rw [mapM_eq_ok_map h, List.map_id', eq_comm (a := xs)]

end Except

namespace Logged

variable {α β : Type}

instance : LawfulMonad Logged := by
  refine LawfulMonad.mk' _ ?_ ?_ ?_
  · rintro α ⟨events, _ | a⟩ <;> simp [Functor.map, Logged.bind, Logged.pure]
  · intro α β a f
    simp [pure, Logged.pure, bind, Logged.bind]
  · rintro α β γ ⟨events, e | a⟩ f g
    · rfl
    · simp only [bind, Logged.bind]
      cases (f a).outcome <;> simp

@[simp] theorem outcome_pure (a : α) : (pure a : Logged α).outcome = .ok a := rfl

@[simp] theorem events_pure (a : α) : (pure a : Logged α).events = [] := rfl

@[simp] theorem outcome_report (events : List Event) : (report events).outcome = .ok () := rfl

@[simp] theorem events_report (events : List Event) : (report events).events = events := rfl

@[simp] theorem outcome_ofExcept (x : Except Error α) : (ofExcept x).outcome = x := rfl

@[simp] theorem events_ofExcept (x : Except Error α) : (ofExcept x).events = [] := rfl

theorem outcome_bind_eq (x : Logged α) (f : α → Logged β) :
    (x >>= f).outcome = x.outcome >>= fun a => (f a).outcome := by
  obtain ⟨events, e | a⟩ := x <;> rfl

theorem outcome_bind_eq_ok {x : Logged α} {f : α → Logged β} {b : β} :
    (x >>= f).outcome = .ok b ↔ ∃ a, x.outcome = .ok a ∧ (f a).outcome = .ok b := by
  obtain ⟨events, e | a⟩ := x <;> simp

theorem events_bind {x : Logged α} {a : α} (h : x.outcome = .ok a) (f : α → Logged β) :
    (x >>= f).events = x.events ++ (f a).events := by
  obtain ⟨events, outcome⟩ := x
  subst h
  rfl

theorem outcome_bind {x : Logged α} {a : α} (h : x.outcome = .ok a) (f : α → Logged β) :
    (x >>= f).outcome = (f a).outcome := by
  obtain ⟨events, outcome⟩ := x
  subst h
  rfl

theorem outcome_mapM_eq_ok {f : α → Logged β} {xs : List α} {ys : List β} :
    (xs.mapM f).outcome = .ok ys ↔ List.Forall₂ (fun x y => (f x).outcome = .ok y) xs ys := by
  induction xs generalizing ys with
  | nil => simp [List.mapM_nil, List.forall₂_nil_left_iff, eq_comm]
  | cons x xs ih =>
    rw [List.mapM_cons, outcome_bind_eq_ok, List.forall₂_cons_left_iff]
    constructor
    · rintro ⟨y, hy, h⟩
      obtain ⟨ys', hys, h⟩ := outcome_bind_eq_ok.1 h
      exact ⟨y, ys', hy, ih.1 hys, by simpa using h.symm⟩
    · rintro ⟨y, ys', hy, hys, rfl⟩
      exact ⟨y, hy, outcome_bind_eq_ok.2 ⟨ys', ih.2 hys, rfl⟩⟩

theorem events_mapM {f : α → Logged β} {xs : List α} {ys : List β}
    (h : (xs.mapM f).outcome = .ok ys) :
    (xs.mapM f).events = xs.flatMap fun x => (f x).events := by
  induction xs generalizing ys with
  | nil => rfl
  | cons x xs ih =>
    rw [List.mapM_cons] at h ⊢
    obtain ⟨y, hy, h⟩ := outcome_bind_eq_ok.1 h
    obtain ⟨ys', hys, _⟩ := outcome_bind_eq_ok.1 h
    rw [events_bind hy, events_bind hys, ih hys, List.flatMap_cons, events_pure, List.append_nil]

/-- The outcome of tasks, one for each item of a list, comes from their outcomes. -/
theorem outcome_mapM (f : α → Logged β) (xs : List α) :
    (xs.mapM f).outcome = xs.mapM fun x => (f x).outcome := by
  induction xs with
  | nil => rfl
  | cons x xs ih =>
    simp only [List.mapM_cons, outcome_bind_eq, ih, outcome_pure]
    rfl

/-- Tasks that cannot fail, one for each item of a list. -/
theorem outcome_mapM_of_forall {f : α → Logged β} {g : α → β} {xs : List α}
    (h : ∀ x ∈ xs, (f x).outcome = .ok (g x)) : (xs.mapM f).outcome = .ok (xs.map g) := by
  rw [outcome_mapM_eq_ok, List.forall₂_map_right_iff]
  exact List.forall₂_same.2 h

end Logged

end Accrete
