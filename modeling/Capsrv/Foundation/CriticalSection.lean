import Mathlib.Data.List.Induction
import Capsrv.Foundation.Follows

/-! # Critical sections

Programs cut into steps that other threads can come between, the regions of a
state that they work on, and runs with what they answer.
-/

namespace Capsrv

/-! ## Programs in steps -/

/-- A program cut into steps: each step looks at the state and changes it, and
other threads come in between. -/
inductive Steps (σ α : Type) where
  | returns (value : α)
  | aborts
  | step (change : σ → σ) (next : σ → Steps σ α)

namespace Steps

variable {σ α : Type}

/-- The program, if nobody comes in between. -/
def perform : Steps σ α → Process σ α
  | returns value => pure value
  | aborts => Process.abort
  | step change next => fun state => (next state).perform (change state)

def ended : Option α → Steps σ α
  | some value => returns value
  | none => aborts

theorem perform_ended (value : Option α) (state : σ) :
    (ended value : Steps σ α).perform state = (value, state) := by
  cases value <;> rfl

/-- A program in a single step. -/
def once (process : Process σ α) : Steps σ α :=
  step (fun state => (process state).2) fun state => ended (process state).1

@[simp] theorem perform_once (process : Process σ α) : (once process).perform = process := by
  funext state
  exact perform_ended (process state).1 (process state).2

end Steps

/-! ## Runs with answers -/

/-- Requests that are performed one after the other, with what they answer. -/
inductive Answered {σ ι α : Type} (perform : ι → Process σ α) (start : σ) :
    List (ι × α) → σ → Prop
  | nil : Answered perform start [] start
  | snoc {history : List (ι × α)} {state next : σ} {request : ι} {answer : α}
      (earlier : Answered perform start history state)
      (answered : perform request state = (some answer, next)) :
      Answered perform start (history ++ [(request, answer)]) next

namespace Answered

variable {σ ι α : Type} {perform other : ι → Process σ α} {start state : σ}
  {history : List (ι × α)}

theorem run (answered : Answered perform start history state) :
    Process.run perform (history.map (·.1)) start = (some (), state) := by
  induction answered with
  | nil => rfl
  | @snoc history state next request answer earlier answered induction =>
      rw [List.map_append, Process.run_append, Process.bind_of_eq_some induction]
      exact Process.bind_of_eq_some answered fun _ => pure ()

/-- What the requests preserve holds at the end. -/
theorem preserves {invariant : σ → Prop}
    (answered : Answered perform start history state)
    (kept : ∀ entry ∈ history, (perform entry.1).Preserves invariant)
    (holds : invariant start) : invariant state := by
  induction answered with
  | nil => exact holds
  | @snoc history state next request answer earlier answered induction =>
      have before := induction fun entry member => kept entry (List.mem_append_left _ member)
      have step := kept (request, answer) (List.mem_append_right _ (List.mem_singleton_self _))
      have after := step state before
      rwa [answered] at after

/-- Programs that agree where an invariant holds answer alike. -/
theorem congr {invariant : σ → Prop} (answered : Answered perform start history state)
    (agree : ∀ entry ∈ history, ∀ state, invariant state →
      perform entry.1 state = other entry.1 state)
    (kept : ∀ entry ∈ history, (other entry.1).Preserves invariant)
    (holds : invariant start) : Answered other start history state := by
  induction answered with
  | nil => exact .nil
  | @snoc history state next request answer earlier answered induction =>
      have first := induction (fun entry member => agree entry (List.mem_append_left _ member))
        fun entry member => kept entry (List.mem_append_left _ member)
      have reached := first.preserves
        (fun entry member => kept entry (List.mem_append_left _ member)) holds
      have same := agree (request, answer)
        (List.mem_append_right _ (List.mem_singleton_self _)) state reached
      exact first.snoc (same.symm.trans answered)

/-- A run that returns has answered every request. -/
theorem exists_of_run {requests : List ι}
    (returned : (Process.run perform requests start).1 = some ()) :
    ∃ history, history.map (·.1) = requests ∧
      Answered perform start history (Process.run perform requests start).2 := by
  induction requests using List.reverseRecOn with
  | nil => exact ⟨[], rfl, .nil⟩
  | append_singleton earlier request induction =>
      rw [Process.run_append] at returned ⊢
      rcases begun : Process.run perform earlier start with ⟨_ | value, middle⟩
      · rw [Process.bind_of_eq_none begun] at returned
        cases returned
      · rw [begun] at induction
        rcases induction rfl with ⟨history, asked, answered⟩
        rw [Process.bind_of_eq_some begun, Process.run] at returned ⊢
        rcases ended : perform request middle with ⟨_ | answer, next⟩
        · rw [Process.bind_of_eq_none ended] at returned
          cases returned
        · rw [Process.bind_of_eq_some ended]
          refine ⟨history ++ [(request, answer)], ?_, answered.snoc ended⟩
          rw [List.map_append, asked, List.map_singleton]

end Answered

/-! ## The shared state -/

/-- A state in regions that are independent of each other. -/
structure Layout (State Region : Type) where
  Cell : Region → Type
  part : ∀ region, Part State (Cell region)
  independent : ∀ region other, region ≠ other → (part region).Independent (part other)

/-- The locks of a call in the order in which it takes them, its region and its
steps on it. -/
structure CriticalSection (Lock : Type) {State Region : Type} (layout : Layout State Region)
    (Answer : Type) where
  locks : List Lock
  region : Region
  body : Steps (layout.Cell region) Answer

/-- The call, if nobody comes in between. -/
def CriticalSection.perform {Lock State Region Answer : Type} {layout : Layout State Region}
    (criticalSection : CriticalSection Lock layout Answer) : Process State Answer :=
  (layout.part criticalSection.region).focus criticalSection.body.perform

end Capsrv
