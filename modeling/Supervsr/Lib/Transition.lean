import Mathlib.Tactic.Common

/-
# Supervsr.Lib.Transition — states reached by a partial step function

A system is a step function that may refuse an action.  `Reaches step allowed start` is what can be
reached while every action taken is allowed in the state it is taken in.  Invariants are proved through
`Reaches.invariant`; a concrete run is put into that form by `reaches_of_exec`, or by `reaches_of_follow`
where its actions are worked out on the way.
-/

namespace Transition

variable {σ α : Type*} {check : σ → α → Bool}

/-- The states reached from `start` by actions that `allowed` permits where they are taken. -/
inductive Reaches (step : σ → α → Option σ) (allowed : σ → α → Prop) (start : σ) : σ → Prop where
  | refl : Reaches step allowed start start
  | step {state next : σ} {action : α} (reached : Reaches step allowed start state)
      (permitted : allowed state action) (taken : step state action = some next) :
      Reaches step allowed start next

/-- Carry out a list of actions. -/
def exec (step : σ → α → Option σ) : σ → List α → Option σ
  | state, [] => some state
  | state, action :: rest => (step state action).bind fun next => exec step next rest

variable {step : σ → α → Option σ} {allowed : σ → α → Prop} {start last : σ}

/-- What holds at the start and is kept by every allowed step holds wherever such steps lead. -/
theorem Reaches.invariant {holds : σ → Prop} (init : holds start)
    (preserved : ∀ {state next action}, holds state → allowed state action →
      step state action = some next → holds next) :
    ∀ {state}, Reaches step allowed start state → holds state := by
  intro state reached
  induction reached with
  | refl => exact init
  | step _ permitted taken ih => exact preserved ih permitted taken

/-- Fewer restrictions reach more. -/
theorem Reaches.mono {allowed' : σ → α → Prop} (weaker : ∀ state action, allowed state action →
    allowed' state action) {state : σ} (reached : Reaches step allowed start state) :
    Reaches step allowed' start state := by
  induction reached with
  | refl => exact .refl
  | step _ permitted taken ih => exact ih.step (weaker _ _ permitted) taken

theorem Reaches.trans {middle : σ} (first : Reaches step allowed start middle)
    (second : Reaches step allowed middle last) : Reaches step allowed start last := by
  induction second with
  | refl => exact first
  | step _ permitted taken ih => exact ih.step permitted taken

/-- Every state a run passes through, the one before each action with that action. -/
def passes (step : σ → α → Option σ) (check : σ → α → Bool) : σ → List α → Bool
  | _, [] => true
  | state, action :: rest =>
    check state action && (step state action).all fun next => passes step check next rest

theorem reaches_of_exec (sound : ∀ state action, check state action = true → allowed state action)
    {actions : List α} (passed : passes step check start actions = true)
    (ran : exec step start actions = some last) : Reaches step allowed start last := by
  induction actions generalizing start with
  | nil =>
    simp only [exec, Option.some.injEq] at ran
    exact ran ▸ .refl
  | cons action rest ih =>
    simp only [exec] at ran
    obtain ⟨next, taken, ran⟩ := Option.bind_eq_some_iff.mp ran
    simp only [passes, taken, Option.all_some, Bool.and_eq_true] at passed
    exact (Reaches.refl.step (sound _ _ passed.1) taken).trans (ih passed.2 ran)

/-- Follow directions: each stands for actions that depend on the state it is given in. -/
def follow {δ : Type*} (step : σ → α → Option σ) (check : σ → α → Bool) (choose : σ → δ → List α) :
    σ → List δ → Option σ
  | state, [] => some state
  | state, direction :: rest =>
    let actions := choose state direction
    if passes step check state actions then
      (exec step state actions).bind fun next => follow step check choose next rest
    else none

theorem reaches_of_follow {δ : Type*} {choose : σ → δ → List α}
    (sound : ∀ state action, check state action = true → allowed state action) {directions : List δ}
    (followed : follow step check choose start directions = some last) : Reaches step allowed start last := by
  induction directions generalizing start with
  | nil =>
    simp only [follow, Option.some.injEq] at followed
    exact followed ▸ .refl
  | cons direction rest ih =>
    simp only [follow] at followed
    split at followed
    · rename_i hpassed
      obtain ⟨next, hran, hrest⟩ := Option.bind_eq_some_iff.mp followed
      exact (reaches_of_exec sound hpassed hran).trans (ih hrest)
    · cases followed

end Transition
