import Accrete.Proofs.Running.Steps
import Mathlib.Logic.Function.Iterate

/-!
# Two runs at a time

Two runs of the same steps that take turns, step by step, on one state.

* `Runner`, `Runner.turn`     -- a run that is under way, and its next step
* `Runner.iterate_turn_eq_sequence` -- turns make up a run
* `Race`, `Race.play`         -- two runners that take turns in any order
* `Race.isOver_play`          -- every race ends
* `Race.play_start`           -- if the first step is refused once it is made, the side that makes it
  runs as if it were alone
-/

namespace Accrete

variable {σ : Type} {b : Backend σ} {planned : Dialect}

/-! ## One runner -/

/-- A run that is under way: the steps that are left, what it has reported, and why it has stopped
    if it has.  A step that fails is left. -/
structure Runner where
  todo : List Step
  events : List Event
  failure : Option Error

namespace Runner

def start (steps : List Step) : Runner := ⟨steps, [], none⟩

def isOver (r : Runner) : Bool := r.todo.isEmpty || r.failure.isSome

/-- A runner that has stopped at the first of its steps. -/
def HasStopped (planned : Dialect) (steps : List Step) (r : Runner) : Prop :=
  ∃ x e, steps.head? = some x ∧
    r = ⟨steps, (x.report planned () e).events, (x.report planned () e).failure⟩

/-- A runner takes its next step, unless it is over. -/
def turn (b : Backend σ) (planned : Dialect) : Runner × σ → Runner × σ
  | (⟨x :: rest, events, none⟩, state) =>
    let r := runStep b planned x state
    (⟨if r.failure.isNone then rest else x :: rest, events ++ r.events, r.failure⟩, r.state)
  | p => p

variable {x : Step} {rest steps : List Step} {events : List Event} {r : Runner} {state : σ} {n : ℕ}

theorem turn_of_none (h : (b.attempt x state).2 = none) :
    turn b planned (⟨x :: rest, events, none⟩, state) =
      (⟨rest, events, none⟩, (b.attempt x state).1) := by
  rw [turn, runStep_of_none h]
  simp [Run.done]

theorem turn_of_some {e : Error} (h : (b.attempt x state).2 = some e) :
    turn b planned (⟨x :: rest, events, none⟩, state) =
      (⟨x :: rest, events ++ (x.report planned () e).events, (x.report planned () e).failure⟩,
        (b.attempt x state).1) := by
  have hfailure : (x.report planned () e).failure.isNone = false := by
    simpa [Option.isSome_iff_ne_none] using failure_report
  rw [turn, runStep_of_some h, report_eq planned x (b.attempt x state).1, hfailure]
  rfl

theorem turn_of_isOver (h : r.isOver = true) : turn b planned (r, state) = (r, state) := by
  obtain ⟨todo, events, failure⟩ := r
  cases todo with
  | nil => rfl
  | cons x rest =>
    cases failure with
    | none => exact absurd h (by simp [isOver])
    | some e => rfl

theorem iterate_turn_of_isOver (h : r.isOver = true) (n : ℕ) :
    (turn b planned)^[n] (r, state) = (r, state) :=
  Function.iterate_fixed (turn_of_isOver h) n

theorem isOver_of_failure_ne_none (h : r.failure ≠ none) : r.isOver = true := by
  rw [isOver, Option.isSome_iff_ne_none.2 h, Bool.or_true]

theorem turn_keeps {I : σ → Prop} (hattempt : ∀ x state, I state → I (b.attempt x state).1)
    {p : Runner × σ} (h : I p.2) : I (turn b planned p).2 := by
  obtain ⟨⟨todo, events, failure⟩, state⟩ := p
  cases todo with
  | nil => exact h
  | cons x rest =>
    cases failure with
    | some e => exact h
    | none =>
      rw [turn, state_runStep]
      exact hattempt x state h

theorem iterate_turn_keeps {I : σ → Prop} (hattempt : ∀ x state, I state → I (b.attempt x state).1)
    (planned : Dialect) (r : Runner) (h : I state) (n : ℕ) :
    I ((turn b planned)^[n] (r, state)).2 := by
  induction n with
  | zero => exact h
  | succ n ih =>
    rw [Function.iterate_succ_apply']
    exact turn_keeps hattempt ih

/-- A runner that takes turns until it is over leaves what a run of its steps leaves. -/
theorem iterate_turn_eq_sequence
    (h : ((turn b planned)^[n] (⟨steps, events, none⟩, state)).1.isOver = true) :
    let p := (turn b planned)^[n] (⟨steps, events, none⟩, state)
    let r := Run.sequence (runStep b planned) steps state
    p.2 = r.state ∧ p.1.events = events ++ r.events ∧ p.1.failure = r.failure := by
  -- a turn that succeeds leaves a runner of the other steps, which goes on in another state
  induction steps generalizing n state with
  | nil =>
    rw [iterate_turn_of_isOver rfl]
    exact ⟨rfl, (List.append_nil _).symm, rfl⟩
  | cons x rest ih =>
    cases n with
    | zero => exact absurd h (by simp [isOver])
    | succ n =>
      rw [Function.iterate_succ_apply] at h ⊢
      cases hx : (b.attempt x state).2 with
      | none =>
        rw [turn_of_none hx] at h ⊢
        rw [Run.sequence, runStep_of_none hx, Run.done_andThen]
        exact ih h
      | some e =>
        rw [turn_of_some hx, iterate_turn_of_isOver (isOver_of_failure_ne_none failure_report),
          Run.sequence, runStep_of_some hx, andThen_report,
          report_eq planned x (b.attempt x state).1]
        exact ⟨rfl, rfl, rfl⟩

/-- A turn brings a runner nearer to its end. -/
theorem isOver_or_length_turn (b : Backend σ) (planned : Dialect) (r : Runner) (state : σ) :
    (turn b planned (r, state)).1.isOver = true ∨
      (turn b planned (r, state)).1.todo.length + 1 = r.todo.length := by
  obtain ⟨_ | ⟨x, rest⟩, events, _ | e⟩ := r
  · exact .inl rfl
  · exact .inl rfl
  · cases hx : (b.attempt x state).2 with
    | none =>
      rw [turn_of_none hx]
      exact .inr rfl
    | some e =>
      rw [turn_of_some hx]
      exact .inl (isOver_of_failure_ne_none failure_report)
  · exact .inl rfl

theorem isOver_iterate_turn (h : steps.length ≤ n) :
    ((turn b planned)^[n] (⟨steps, events, none⟩, state)).1.isOver = true := by
  induction steps generalizing n state with
  | nil =>
    rw [iterate_turn_of_isOver rfl]
    rfl
  | cons x rest ih =>
    obtain ⟨n, rfl⟩ := Nat.exists_eq_add_of_le' (Nat.zero_lt_of_lt h)
    rw [Function.iterate_succ_apply]
    cases hx : (b.attempt x state).2 with
    | none =>
      rw [turn_of_none hx]
      exact ih (Nat.le_of_succ_le_succ h)
    | some e =>
      rw [turn_of_some hx, iterate_turn_of_isOver (isOver_of_failure_ne_none failure_report)]
      exact isOver_of_failure_ne_none failure_report

end Runner

/-! ## Two runners -/

inductive Side where
  | one | two
deriving DecidableEq, Repr

def Side.other : Side → Side
  | .one => .two
  | .two => .one

theorem Side.eq_or_eq_other (side s : Side) : s = side ∨ s = side.other := by
  cases side <;> cases s <;> simp [Side.other]

theorem Side.other_ne (side : Side) : side.other ≠ side := by cases side <;> simp [Side.other]

structure Race (σ : Type) where
  runner : Side → Runner
  state : σ

namespace Race

def start (steps : List Step) (state : σ) : Race σ := ⟨fun _ => .start steps, state⟩

def turn (b : Backend σ) (planned : Dialect) (race : Race σ) (side : Side) : Race σ :=
  let p := Runner.turn b planned (race.runner side, race.state)
  ⟨fun s => if s = side then p.1 else race.runner s, p.2⟩

/-- The sides take turns in a given order. -/
def play (b : Backend σ) (planned : Dialect) (race : Race σ) (schedule : List Side) : Race σ :=
  schedule.foldl (turn b planned) race

def isOver (race : Race σ) : Bool := (race.runner .one).isOver && (race.runner .two).isOver

variable {race : Race σ} {side : Side}

theorem turn_self (b : Backend σ) (planned : Dialect) (race : Race σ) (side : Side) :
    ((race.turn b planned side).runner side, (race.turn b planned side).state) =
      Runner.turn b planned (race.runner side, race.state) := by
  simp [turn]

theorem runner_turn_self : (race.turn b planned side).runner side =
    (Runner.turn b planned (race.runner side, race.state)).1 :=
  congrArg Prod.fst (turn_self ..)

theorem runner_turn_of_ne {s : Side} (h : s ≠ side) :
    (race.turn b planned side).runner s = race.runner s := by
  simp [turn, h]

theorem isOver_runner_play_of_isOver (h : (race.runner side).isOver = true) (schedule : List Side) :
    ((race.play b planned schedule).runner side).isOver = true := by
  induction schedule generalizing race with
  | nil => exact h
  | cons s schedule ih =>
    refine ih ?_
    rcases eq_or_ne side s with rfl | hne
    · rw [runner_turn_self, Runner.turn_of_isOver h]
      exact h
    · rwa [runner_turn_of_ne hne]

/-- A side is over after as many turns as it has steps, whatever the other does. -/
theorem isOver_runner_play {schedule : List Side}
    (h : (race.runner side).todo.length ≤ schedule.count side) :
    ((race.play b planned schedule).runner side).isOver = true := by
  -- the turns of the other side leave it as many steps as it had
  induction schedule generalizing race with
  | nil =>
    have hnil : (race.runner side).todo = [] := List.length_eq_zero_iff.1 (Nat.le_zero.1 h)
    rw [play, List.foldl_nil, Runner.isOver, hnil]
    rfl
  | cons s schedule ih =>
    rcases eq_or_ne side s with rfl | hne
    · rcases Runner.isOver_or_length_turn b planned (race.runner side) race.state with
        hover | hlength
      · exact isOver_runner_play_of_isOver (runner_turn_self ▸ hover) schedule
      · rw [← runner_turn_self] at hlength
        rw [List.count_cons_self] at h
        exact ih (by omega)
    · refine ih ?_
      rwa [runner_turn_of_ne hne, ← List.count_cons_of_ne hne.symm]

/-- Every race ends. -/
theorem isOver_play {steps : List Step} {state : σ} {schedule : List Side}
    (h : ∀ side, steps.length ≤ schedule.count side) :
    ((Race.start steps state).play b planned schedule).isOver = true := by
  rw [isOver, isOver_runner_play (h .one), isOver_runner_play (h .two)]
  rfl

variable {x : Step} {rest : List Step} {state : σ}

/-- A side that has not made its first step stops there if that is refused, and changes nothing. -/
theorem turn_of_refused {e : Error} (hx : b.attempt x race.state = (race.state, some e))
    (h : race.runner side = .start (x :: rest) ∨ (race.runner side).HasStopped planned (x :: rest)) :
    (race.turn b planned side).state = race.state ∧
      ((race.turn b planned side).runner side).HasStopped planned (x :: rest) := by
  have hself := turn_self b planned race side
  rcases h with hstart | hstopped
  · rw [hstart, Runner.start, Runner.turn_of_some (congrArg Prod.snd hx), hx] at hself
    obtain ⟨hrunner, hstate⟩ := Prod.mk.inj hself
    exact ⟨hstate, x, e, rfl, hrunner⟩
  · obtain ⟨y, e', -, heq⟩ := id hstopped
    have hover : (race.runner side).isOver = true :=
      heq ▸ Runner.isOver_of_failure_ne_none failure_report
    rw [Runner.turn_of_isOver hover] at hself
    obtain ⟨hrunner, hstate⟩ := Prod.mk.inj hself
    exact ⟨hstate, hrunner ▸ hstopped⟩

/-- One side is where it would be if it were alone, and the other is still at its first step. -/
structure IsLed (b : Backend σ) (planned : Dialect) (steps : List Step) (state : σ) (side : Side)
    (n : ℕ) (race : Race σ) : Prop where
  leads : (race.runner side, race.state) = (Runner.turn b planned)^[n] (.start steps, state)
  other : race.runner side.other = .start steps ∨
    (race.runner side.other).HasStopped planned steps

theorem isLed_turn_start (steps : List Step) (state : σ) (side : Side) :
    ((Race.start steps state).turn b planned side).IsLed b planned steps state side 1 :=
  ⟨turn_self .., .inl (runner_turn_of_ne side.other_ne)⟩

/-- From its first turn on, a runner that is alone leaves its first step refused. -/
def LeavesRefused (b : Backend σ) (planned : Dialect) (x : Step) (rest : List Step) (state : σ) :
    Prop :=
  ∀ n, ∃ e, let state' := ((Runner.turn b planned)^[n + 1] (.start (x :: rest), state)).2
    b.attempt x state' = (state', some e)

theorem IsLed.turn (hrefused : LeavesRefused b planned x rest state) {n : ℕ}
    (h : race.IsLed b planned (x :: rest) state side (n + 1)) (s : Side) :
    (race.turn b planned s).IsLed b planned (x :: rest) state side
      (n + 1 + if s = side then 1 else 0) := by
  rcases side.eq_or_eq_other s with rfl | rfl
  · refine ⟨?_, ?_⟩
    · rw [turn_self, h.leads, if_pos rfl]
      exact (Function.iterate_succ_apply' ..).symm
    · rw [runner_turn_of_ne s.other_ne]
      exact h.other
  · -- the state is one that the first side leaves alone, so the step is refused in it
    obtain ⟨e, hx⟩ := hrefused n
    dsimp only at hx
    rw [← h.leads] at hx
    obtain ⟨hstate, hstopped⟩ := turn_of_refused hx h.other
    refine ⟨?_, .inr hstopped⟩
    rw [runner_turn_of_ne side.other_ne.symm, hstate, h.leads, if_neg side.other_ne]

/-- The side that starts runs as if it were alone, in whatever order the sides take turns. -/
theorem IsLed.play (hrefused : LeavesRefused b planned x rest state) {n : ℕ}
    (h : race.IsLed b planned (x :: rest) state side (n + 1)) (schedule : List Side) :
    (race.play b planned schedule).IsLed b planned (x :: rest) state side
      (n + 1 + schedule.count side) := by
  induction schedule generalizing race n with
  | nil => exact h
  | cons s schedule ih =>
    have hnext := h.turn hrefused s
    rw [List.count_cons]
    rw [show n + 1 + (schedule.count side + if (s == side) = true then 1 else 0) =
      (n + if s = side then 1 else 0) + 1 + schedule.count side by simp only [beq_iff_eq]; omega]
    refine ih ?_
    rwa [Nat.add_right_comm] at hnext

/-- A race in which the first step is refused once it is made: the side that makes it leaves what it
    would leave alone, and the other stops at its first step and changes nothing. -/
theorem play_start (hrefused : LeavesRefused b planned x rest state) (side : Side)
    (schedule : List Side) :
    let race := (Race.start (x :: rest) state).play b planned (side :: schedule)
    (race.runner side, race.state) =
        (Runner.turn b planned)^[schedule.count side + 1] (.start (x :: rest), state) ∧
      (race.runner side.other = .start (x :: rest) ∨
        (race.runner side.other).HasStopped planned (x :: rest)) := by
  have h := (isLed_turn_start (b := b) (x :: rest) state side).play hrefused schedule
  rw [Nat.add_comm] at h
  exact ⟨h.leads, h.other⟩

theorem isOver_runner (h : race.isOver = true) (side : Side) : (race.runner side).isOver = true := by
  rw [isOver, Bool.and_eq_true] at h
  cases side
  · exact h.1
  · exact h.2

/-- When such a race is over, one side has made a run of the steps, and the other none of them. -/
theorem play_eq_sequence (hrefused : LeavesRefused b planned x rest state) (side : Side)
    (schedule : List Side) :
    let race := (Race.start (x :: rest) state).play b planned (side :: schedule)
    let r := Run.sequence (runStep b planned) (x :: rest) state
    race.isOver = true → race.state = r.state ∧ (race.runner side).events = r.events ∧
      (race.runner side).failure = r.failure ∧
      (race.runner side.other).HasStopped planned (x :: rest) := by
  intro race r hover
  obtain ⟨hleads, hother⟩ := play_start hrefused side schedule
  have hrunner : race.runner side = _ := congrArg Prod.fst hleads
  have hstate : race.state = _ := congrArg Prod.snd hleads
  have hleader := isOver_runner hover side
  rw [hrunner] at hleader
  obtain ⟨hend, hevents, hfailure⟩ := Runner.iterate_turn_eq_sequence hleader
  refine ⟨hstate.trans hend, hrunner ▸ hevents, hrunner ▸ hfailure, hother.resolve_left ?_⟩
  -- it has taken its first turn, as it is over
  intro hstart
  have hloser := isOver_runner hover side.other
  rw [hstart] at hloser
  exact absurd hloser (by simp [Runner.start, Runner.isOver])

theorem LeavesRefused.attempt_sequence (hrefused : LeavesRefused b planned x rest state) :
    ∃ e, let final := (Run.sequence (runStep b planned) (x :: rest) state).state
      b.attempt x final = (final, some e) := by
  obtain ⟨e, he⟩ := hrefused rest.length
  have hover : ((Runner.turn b planned)^[rest.length + 1]
      (.start (x :: rest), state)).1.isOver = true :=
    Runner.isOver_iterate_turn (Nat.le_refl (rest.length + 1))
  exact ⟨e, (Runner.iterate_turn_eq_sequence hover).1 ▸ he⟩

theorem play_other (hrefused : LeavesRefused b planned x rest state) (side : Side)
    (schedule : List Side) :
    ((Race.start (x :: rest) state).play b planned (side :: (schedule ++ [side.other]))).state =
      ((Race.start (x :: rest) state).play b planned (side :: schedule)).state := by
  have hcount : (schedule ++ [side.other]).count side = schedule.count side := by
    rw [List.count_append, List.count_eq_zero_of_not_mem (l := [side.other])
      (by simpa using side.other_ne.symm), Nat.add_zero]
  have hbefore := congrArg Prod.snd (play_start hrefused side schedule).1
  have hafter := congrArg Prod.snd (play_start hrefused side (schedule ++ [side.other])).1
  rw [hcount] at hafter
  exact hafter.trans hbefore.symm

end Race

end Accrete
