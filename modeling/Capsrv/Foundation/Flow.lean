import Mathlib.Tactic.Common

/-! # Loops that can be left

A loop body goes on to the next item or leaves the loops around it with a value.
-/

namespace Capsrv

inductive Flow (ρ σ : Type) where
  | next (state : σ)
  | leave (value : ρ) (state : σ)

namespace Flow

variable {α ρ σ : Type}

def state : Flow ρ σ → σ
  | next state => state
  | leave _ state => state

def forEach (body : α → σ → Flow ρ σ) : List α → σ → Flow ρ σ
  | [], state => next state
  | item :: items, state =>
      match body item state with
      | next state => forEach body items state
      | leave value state => leave value state

/-- What the body preserves on every item of the list, the loop preserves. -/
theorem forEach_preserves_of_mem {invariant : σ → Prop} {body : α → σ → Flow ρ σ}
    {items : List α}
    (step : ∀ item ∈ items, ∀ state, invariant state → invariant (body item state).state)
    (state : σ) (holds : invariant state) : invariant (forEach body items state).state := by
  induction items generalizing state with
  | nil => exact holds
  | cons item items induction =>
      have after := step item List.mem_cons_self state holds
      have later : ∀ next ∈ items, ∀ state, invariant state → invariant (body next state).state :=
        fun next member => step next (List.mem_cons_of_mem item member)
      rw [forEach]
      revert after
      cases body item state with
      | next middle => exact fun after => induction later middle after
      | leave value final => exact fun after => after

/-- What the body preserves, the loop preserves. -/
theorem forEach_preserves {invariant : σ → Prop} {body : α → σ → Flow ρ σ}
    (step : ∀ item state, invariant state → invariant (body item state).state)
    (items : List α) (state : σ) (holds : invariant state) :
    invariant (forEach body items state).state :=
  forEach_preserves_of_mem (fun item _ => step item) state holds

/-- What the first turn brings about and every turn preserves, the loop ends with. -/
theorem forEach_of_first {invariant : σ → Prop} {body : α → σ → Flow ρ σ} {item : α}
    {items : List α} {state : σ}
    (step : ∀ item state, invariant state → invariant (body item state).state)
    (first : invariant (body item state).state) :
    invariant (forEach body (item :: items) state).state := by
  rw [forEach]
  revert first
  cases body item state with
  | next middle => exact forEach_preserves step items middle
  | leave value final => exact fun first => first

theorem forEach_append (body : α → σ → Flow ρ σ) (first second : List α) (state : σ) :
    forEach body (first ++ second) state =
      match forEach body first state with
      | next middle => forEach body second middle
      | leave value final => leave value final := by
  induction first generalizing state with
  | nil => rfl
  | cons item items induction =>
      rw [List.cons_append, forEach, forEach]
      cases body item state with
      | next middle => exact induction middle
      | leave value final => rfl

/-! ## Callbacks -/

/-- The body that calls back with each item, and leaves when it is told to. -/
def call (callback : α → σ → σ × Bool) (item : α) (state : σ) : Flow Unit σ :=
  let called := callback item state
  if called.2 then leave () called.1 else next called.1

theorem call_of_continue {callback : α → σ → σ × Bool} {item : α} {state : σ}
    (goesOn : (callback item state).2 = false) :
    call callback item state = next (callback item state).1 := by
  simp [call, goesOn]

theorem call_of_stop {callback : α → σ → σ × Bool} {item : α} {state : σ}
    (stops : (callback item state).2 = true) :
    call callback item state = leave () (callback item state).1 := by
  simp [call, stops]

/-! ## A loop that follows another -/

/-- One flow follows a second one: they go on and leave together, in related
states, or the first one has ended before. -/
inductive Follows {υ : Type} (related : σ → υ → Prop) (ended : ρ → σ → υ → Prop) :
    Flow ρ σ → Flow ρ υ → Prop where
  | next {state : σ} {leader : υ} (holds : related state leader) :
      Follows related ended (next state) (next leader)
  | leave {value : ρ} {state : σ} {leader : υ} (holds : related state leader) :
      Follows related ended (leave value state) (leave value leader)
  | ended {value : ρ} {state : σ} {leading : Flow ρ υ} (before : ended value state leading.state) :
      Follows related ended (leave value state) leading

/-- Bodies that follow each other make loops that do, when what has ended stays
so while the second body goes on. -/
theorem forEach_follows {υ : Type} {related : σ → υ → Prop} {ended : ρ → σ → υ → Prop}
    {body : α → σ → Flow ρ σ} {leading : α → υ → Flow ρ υ}
    (step : ∀ item state leader, related state leader →
      Follows related ended (body item state) (leading item leader))
    (stays : ∀ value state item leader, ended value state leader →
      ended value state (leading item leader).state)
    (items : List α) (state : σ) (leader : υ) (holds : related state leader) :
    Follows related ended (forEach body items state) (forEach leading items leader) := by
  induction items generalizing state leader with
  | nil => exact .next holds
  | cons item items induction =>
      have follows := step item state leader holds
      rw [forEach, forEach]
      generalize body item state = after at follows
      generalize leading item leader = ahead at follows
      cases follows with
      | next related => exact induction _ _ related
      | leave related => exact .leave related
      | ended before =>
          refine .ended ?_
          cases ahead with
          | next middle => exact forEach_preserves (stays _ _) items middle before
          | leave other last => exact before

end Flow

end Capsrv
