import Capsrv.Foundation.Process

/-! # Classes of programs

What holds of single calls and is passed on by sequencing holds of every program
made of them.
-/

namespace Capsrv

/-- A class of programs that is closed under sequencing. -/
structure ProgramClass (σ : Type) where
  Contains : ∀ {α : Type}, Process σ α → Prop
  contains_pure : ∀ {α : Type} (value : α), Contains (pure value : Process σ α)
  contains_abort : ∀ {α : Type}, Contains (Process.abort : Process σ α)
  contains_get : Contains (Process.get : Process σ σ)
  contains_bind : ∀ {α β : Type} {process : Process σ α} {continuation : α → Process σ β},
    Contains process → (∀ value, Contains (continuation value)) →
    Contains (process >>= continuation)

namespace ProgramClass

variable {σ α β ι : Type} (programs : ProgramClass σ)

theorem contains_ite {condition : Prop} [Decidable condition] {process other : Process σ α}
    (holds : programs.Contains process) (fails : programs.Contains other) :
    programs.Contains (if condition then process else other) := by
  split
  · exact holds
  · exact fails

/-- A program that leaves the state alone is made of nothing. -/
theorem contains_of_unchanged {process : Process σ α}
    (unchanged : ∀ state, (process state).2 = state) : programs.Contains process := by
  have same : process = Process.get >>= fun state =>
      match (process state).1 with
      | none => Process.abort
      | some value => pure value := by
    funext state
    have next := unchanged state
    rw [Process.bind_apply, Process.get_apply]
    dsimp only
    cases outcome : (process state).1 with
    | none => exact Prod.ext outcome next
    | some value => exact Prod.ext outcome next
  rw [same]
  apply programs.contains_bind programs.contains_get
  intro state
  cases (process state).1 with
  | none => exact programs.contains_abort
  | some value => exact programs.contains_pure value

theorem contains_run {perform : ι → Process σ α} {requests : List ι}
    (each : ∀ request ∈ requests, programs.Contains (perform request)) :
    programs.Contains (Process.run perform requests) := by
  induction requests with
  | nil => exact programs.contains_pure ()
  | cons request requests induction =>
      rw [List.forall_mem_cons] at each
      exact programs.contains_bind each.1 fun _ => induction each.2

/-- The programs that preserve a property of the state. -/
def preserving (invariant : σ → Prop) : ProgramClass σ where
  Contains := Process.Preserves invariant
  contains_pure := Process.preserves_pure invariant
  contains_abort := Process.preserves_abort invariant
  contains_get := Process.preserves_get invariant
  contains_bind := Process.Preserves.bind

end ProgramClass

end Capsrv
