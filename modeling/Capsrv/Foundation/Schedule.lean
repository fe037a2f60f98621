import Mathlib.Tactic.Common

/-! # Schedules of atomic steps

A step is taken where it is enabled. A schedule lists the steps in the order in
which they are taken, whoever takes them, so that what is shown for every
schedule is shown for every interleaving.
-/

namespace Capsrv.Schedule

variable {σ ι : Type} (step : σ → ι → Option σ)

def run : List ι → σ → Option σ
  | [], state => some state
  | action :: actions, state => (step state action).bind (run actions)

/-- Every step meets a condition in the state in which it is taken. -/
def Meets (condition : σ → ι → Prop) : List ι → σ → Prop
  | [], _ => True
  | action :: actions, state =>
      condition state action ∧ ∀ next ∈ step state action, Meets condition actions next

variable {step} {condition : σ → ι → Prop} {action : ι} {actions : List ι} {state final : σ}

/-- The first step of a schedule, and the rest of it. -/
theorem run_cons (ran : run step (action :: actions) state = some final) :
    ∃ next, step state action = some next ∧ run step actions next = some final :=
  Option.bind_eq_some_iff.mp ran

/-- What every step keeps, a schedule keeps. -/
theorem invariant_of_run (invariant : σ → Prop)
    (keeps : ∀ state action next, invariant state → step state action = some next →
      invariant next)
    (holds : invariant state) (ran : run step actions state = some final) : invariant final := by
  induction actions generalizing state with
  | nil =>
      cases ran
      exact holds
  | cons action actions induction =>
      rcases run_cons ran with ⟨next, taken, rest⟩
      exact induction (keeps state action next holds taken) rest

/-- An invariant that may speak of the steps taken so far, kept by every step
under a condition. -/
theorem history_of_meets (invariant : List ι → σ → Prop)
    (keeps : ∀ past state action next, invariant past state → condition state action →
      step state action = some next → invariant (past ++ [action]) next)
    {past : List ι} (holds : invariant past state) (meets : Meets step condition actions state)
    (ran : run step actions state = some final) : invariant (past ++ actions) final := by
  induction actions generalizing past state with
  | nil =>
      cases ran
      rw [List.append_nil]
      exact holds
  | cons action actions induction =>
      rcases run_cons ran with ⟨next, taken, rest⟩
      rw [List.append_cons]
      exact induction (keeps past state action next holds meets.1 taken) (meets.2 next taken) rest

/-- The first step that does not meet the condition. -/
structure FirstFailure (step : σ → ι → Option σ) (condition : σ → ι → Prop) (actions : List ι)
    (state final : σ) (before after : List ι) (action : ι) (middle next : σ) : Prop where
  actions : actions = before ++ action :: after
  earlier : run step before state = some middle
  meets : Meets step condition before state
  fails : ¬ condition middle action
  taken : step middle action = some next
  later : run step after next = some final

theorem exists_firstFailure (ran : run step actions state = some final)
    (fails : ¬ Meets step condition actions state) :
    ∃ before after action middle next,
      FirstFailure step condition actions state final before after action middle next := by
  induction actions generalizing state with
  | nil => exact absurd trivial fails
  | cons action actions induction =>
      rcases run_cons ran with ⟨next, taken, rest⟩
      by_cases holds : condition state action
      · have later : ¬ Meets step condition actions next := by
          intro meets
          apply fails
          refine ⟨holds, fun other found => ?_⟩
          cases taken.symm.trans found
          exact meets
        rcases induction rest later with ⟨before, after, failing, middle, behind, first⟩
        refine ⟨action :: before, after, failing, middle, behind, ?_⟩
        exact {
          actions := congrArg (action :: ·) first.actions
          earlier := Option.bind_eq_some_iff.mpr ⟨next, taken, first.earlier⟩
          meets := by
            refine ⟨holds, fun other found => ?_⟩
            cases taken.symm.trans found
            exact first.meets
          fails := first.fails
          taken := first.taken
          later := first.later }
      · exact ⟨[], actions, action, state, next, rfl, rfl, trivial, holds, taken, rest⟩

end Capsrv.Schedule
