import Capsrv.Foundation.Part

/-! # When a program aborts

The states in which a program ends the process, and the runs that are not ended.
-/

namespace Capsrv

namespace Process

variable {σ τ α β ι : Type}

/-- The program ends the process in this state. -/
def Aborts (process : Process σ α) (state : σ) : Prop :=
  (process state).1 = none

/-- A composed program that has returned: both parts have. -/
theorem exists_of_bind {process : Process σ α} {continuation : α → Process σ β} {state final : σ}
    {value : β} (returned : (process >>= continuation) state = (some value, final)) :
    ∃ first middle, process state = (some first, middle) ∧
      continuation first middle = (some value, final) := by
  rw [bind_apply] at returned
  cases outcome : process state with
  | mk first middle =>
      rw [outcome] at returned
      cases first with
      | none => cases returned
      | some first => exact ⟨first, middle, rfl, returned⟩

theorem modify_bind_apply (transform : σ → σ) (continuation : Unit → Process σ β) (state : σ) :
    (modify transform >>= continuation) state = continuation () (transform state) := rfl

/-- The program returns from every state. -/
def Total (process : Process σ α) : Prop :=
  ∀ state, ¬ process.Aborts state

section

variable {process other : Process σ α} {continuation : α → Process σ β} {state : σ}

theorem total_pure (value : α) : Total (pure value : Process σ α) :=
  fun _ aborts => by cases aborts

theorem total_get : Total (get : Process σ σ) :=
  fun _ aborts => by cases aborts

theorem total_modify (transform : σ → σ) : Total (modify transform) :=
  fun _ aborts => by cases aborts

theorem total_returning (function : σ → α × σ) : Total (returning function) :=
  fun _ aborts => by cases aborts

theorem Total.ite {condition : Prop} [Decidable condition] (holds : process.Total)
    (fails : other.Total) : Total (if condition then process else other) := by
  split
  · exact holds
  · exact fails

@[simp] theorem not_aborts_pure (value : α) : ¬ (pure value : Process σ α).Aborts state :=
  total_pure value state

@[simp] theorem aborts_abort : (abort : Process σ α).Aborts state := rfl

@[simp] theorem aborts_get_bind {continuation : σ → Process σ β} :
    (get >>= continuation).Aborts state ↔ (continuation state).Aborts state := Iff.rfl

theorem aborts_ite {condition : Prop} [Decidable condition] :
    (if condition then process else other).Aborts state ↔
      condition ∧ process.Aborts state ∨ ¬ condition ∧ other.Aborts state := by
  split
  case isTrue holds => simp [holds]
  case isFalse fails => simp [fails]

theorem aborts_bind : (process >>= continuation).Aborts state ↔
    process.Aborts state ∨
      ∃ value next, process state = (some value, next) ∧ (continuation value).Aborts next := by
  rw [Aborts, Aborts, bind_apply]
  rcases process state with ⟨_ | value, next⟩
  · simp
  · constructor
    · intro aborts
      exact .inr ⟨value, next, rfl, aborts⟩
    · rintro (aborts | ⟨_, _, equal, aborts⟩)
      · cases aborts
      · cases equal
        exact aborts

/-- Before a part that always returns, only the first program can abort. -/
theorem aborts_bind_of_total (later : ∀ value, (continuation value).Total) :
    (process >>= continuation).Aborts state ↔ process.Aborts state := by
  rw [aborts_bind]
  constructor
  · rintro (aborts | ⟨value, next, -, aborts⟩)
    · exact aborts
    · exact absurd aborts (later value next)
  · exact .inl

theorem Total.bind (first : process.Total) (later : ∀ value, (continuation value).Total) :
    Total (process >>= continuation) := by
  intro state aborts
  exact first state ((aborts_bind_of_total later).mp aborts)

theorem aborts_discard : process.discard.Aborts state ↔ process.Aborts state :=
  aborts_bind_of_total fun _ => total_pure ()

end

@[simp] theorem aborts_focus (part : Part σ τ) {process : Process τ α} {state : σ} :
    (part.focus process).Aborts state ↔ process.Aborts (part.get state) := Iff.rfl

theorem Total.focus (part : Part σ τ) {process : Process τ α} (total : process.Total) :
    (part.focus process).Total :=
  fun state => total (part.get state)

/-- A run is not ended when no request ends the process in the state it finds. -/
theorem run_returns_iff {perform : ι → Process σ α} {requests : List ι} {state : σ} :
    (run perform requests state).1 = some () ↔
      Meets perform (fun state request => ¬ (perform request).Aborts state) requests state := by
  induction requests generalizing state with
  | nil => exact iff_of_true rfl trivial
  | cons request requests induction =>
      rw [run, Meets, bind_apply, Aborts]
      rcases perform request state with ⟨_ | value, next⟩
      · simp
      · simpa using induction

end Process

end Capsrv
