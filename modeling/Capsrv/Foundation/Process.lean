import Mathlib.Tactic.Common

/-! # Programs that can abort the process

A program over a state either returns a value or aborts; the state it was in at
that moment is kept in both cases. A run performs requests one after the other
and ends with the first abort.
-/

namespace Capsrv

def Process (σ α : Type) := σ → Option α × σ

namespace Process

variable {σ α β ι : Type}

protected def pure (value : α) : Process σ α := fun state => (some value, state)

protected def bind (process : Process σ α) (continuation : α → Process σ β) : Process σ β :=
  fun state =>
    match process state with
    | (some value, next) => continuation value next
    | (none, next) => (none, next)

instance : Monad (Process σ) where
  pure := Process.pure
  bind := Process.bind

def abort : Process σ α := fun state => (none, state)

def get : Process σ σ := fun state => (some state, state)

def modify (transform : σ → σ) : Process σ Unit := fun state => (some (), transform state)

@[simp] theorem pure_apply (value : α) (state : σ) :
    (pure value : Process σ α) state = (some value, state) := rfl

@[simp] theorem abort_apply (state : σ) : (abort : Process σ α) state = (none, state) := rfl

@[simp] theorem get_apply (state : σ) : (get : Process σ σ) state = (some state, state) := rfl

@[simp] theorem modify_apply (transform : σ → σ) (state : σ) :
    modify transform state = (some (), transform state) := rfl

theorem bind_apply (process : Process σ α) (continuation : α → Process σ β) (state : σ) :
    (process >>= continuation) state =
      match process state with
      | (some value, next) => continuation value next
      | (none, next) => (none, next) := rfl

/-- A program that has returned goes on in the state it has left. -/
theorem bind_of_eq_some {process : Process σ α} {state next : σ} {value : α}
    (returned : process state = (some value, next)) (continuation : α → Process σ β) :
    (process >>= continuation) state = continuation value next := by
  rw [bind_apply, returned]

theorem bind_of_eq_none {process : Process σ α} {state next : σ}
    (aborted : process state = (none, next)) (continuation : α → Process σ β) :
    (process >>= continuation) state = (none, next) := by
  rw [bind_apply, aborted]

instance : LawfulMonad (Process σ) := LawfulMonad.mk' (Process σ)
  (by
    intro _ process
    funext state
    change (process >>= fun value => pure (id value)) state = process state
    rw [bind_apply]
    rcases process state with ⟨_ | value, next⟩ <;> rfl)
  (fun _ _ => rfl)
  (by
    intro _ _ _ process first second
    funext state
    simp only [bind_apply]
    rcases process state with ⟨_ | value, next⟩ <;> rfl)

/-! ## Invariants -/

/-- A property of the state that holds before the program holds after it. -/
def Preserves (invariant : σ → Prop) (process : Process σ α) : Prop :=
  ∀ state, invariant state → invariant (process state).2

theorem Preserves.bind {invariant : σ → Prop} {process : Process σ α}
    {continuation : α → Process σ β} (first : Preserves invariant process)
    (rest : ∀ value, Preserves invariant (continuation value)) :
    Preserves invariant (process >>= continuation) := by
  intro state holds
  have after := first state holds
  rw [bind_apply]
  revert after
  rcases process state with ⟨_ | value, next⟩
  · exact fun after => after
  · exact fun after => rest value next after

theorem preserves_pure (invariant : σ → Prop) (value : α) :
    Preserves invariant (pure value : Process σ α) :=
  fun _ holds => holds

theorem preserves_abort (invariant : σ → Prop) :
    Preserves invariant (abort : Process σ α) :=
  fun _ holds => holds

theorem preserves_get (invariant : σ → Prop) : Preserves invariant (get : Process σ σ) :=
  fun _ holds => holds

/-- Of a pair only the first part is returned. -/
theorem Preserves.first {invariant : σ → Prop} {process : Process σ (α × β)}
    (kept : Preserves invariant process) :
    Preserves invariant (process >>= fun outcome => pure outcome.1) :=
  kept.bind fun outcome => preserves_pure invariant outcome.1

theorem Preserves.ite {invariant : σ → Prop} {condition : Prop} [Decidable condition]
    {process other : Process σ α} (holds : Preserves invariant process)
    (fails : Preserves invariant other) :
    Preserves invariant (if condition then process else other) := by
  split
  · exact holds
  · exact fails

/-! ## Runs -/

variable (perform : ι → Process σ α)

def run : List ι → Process σ Unit
  | [] => pure ()
  | request :: requests => perform request >>= fun _ => run requests

theorem run_singleton (request : ι) (state : σ) :
    (run perform [request] state).2 = (perform request state).2 := by
  rw [run, bind_apply]
  rcases perform request state with ⟨_ | value, next⟩ <;> rfl

/-- What every request preserves, a whole run preserves. -/
theorem preserves_run {invariant : σ → Prop}
    (step : ∀ request, Preserves invariant (perform request)) (requests : List ι) :
    Preserves invariant (run perform requests) := by
  induction requests with
  | nil => exact preserves_pure invariant ()
  | cons request requests induction => exact (step request).bind fun _ => induction

/-- Every request that a run performs meets a condition in the state it finds. -/
def Meets (condition : σ → ι → Prop) : List ι → σ → Prop
  | [], _ => True
  | request :: requests, state =>
      condition state request ∧
        ((perform request state).1.isSome → Meets condition requests (perform request state).2)

variable {perform}

theorem Meets.take {condition : σ → ι → Prop} {requests : List ι} {state : σ}
    (meets : Meets perform condition requests state) (count : Nat) :
    Meets perform condition (requests.take count) state := by
  induction requests generalizing state count with
  | nil => simp [Meets]
  | cons request requests induction =>
      cases count with
      | zero => exact trivial
      | succ count => exact ⟨meets.1, fun returned => induction (meets.2 returned) count⟩

/-- What a request preserves under a condition, a run preserves whose requests
all meet it. -/
theorem run_of_meets {invariant : σ → Prop} {condition : σ → ι → Prop}
    (step : ∀ state request, invariant state → condition state request →
      invariant (perform request state).2)
    {requests : List ι} {state : σ} (holds : invariant state)
    (meets : Meets perform condition requests state) :
    invariant (run perform requests state).2 := by
  induction requests generalizing state with
  | nil => exact holds
  | cons request requests induction =>
      have after := step state request holds meets.1
      have rest := fun returned => induction after (meets.2 returned)
      rw [run, bind_apply]
      revert after rest
      rcases perform request state with ⟨_ | value, next⟩
      · exact fun after _ => after
      · exact fun _ rest => rest rfl

/-- A run returns whose requests all return under the condition they meet. -/
theorem run_returns_of_meets {invariant : σ → Prop} {condition : σ → ι → Prop}
    (step : ∀ state request, invariant state → condition state request →
      (perform request state).1.isSome ∧ invariant (perform request state).2)
    {requests : List ι} {state : σ} (holds : invariant state)
    (meets : Meets perform condition requests state) :
    (run perform requests state).1 = some () := by
  induction requests generalizing state with
  | nil => rfl
  | cons request requests induction =>
      rcases step state request holds meets.1 with ⟨returned, after⟩
      rcases Option.isSome_iff_exists.mp returned with ⟨value, equal⟩
      rw [run, bind_of_eq_some (Prod.ext equal rfl)]
      exact induction after (meets.2 returned)

/-- Conditions that agree in every state with the invariant are met by the same
runs. -/
theorem meets_iff_of_agree {invariant : σ → Prop} {first second : σ → ι → Prop}
    (agree : ∀ state request, invariant state → (first state request ↔ second state request))
    (step : ∀ state request, invariant state → second state request →
      invariant (perform request state).2)
    {requests : List ι} {state : σ} (holds : invariant state) :
    Meets perform first requests state ↔ Meets perform second requests state := by
  induction requests generalizing state with
  | nil => exact Iff.rfl
  | cons request requests induction =>
      rw [Meets, Meets, agree state request holds]
      refine and_congr_right fun condition => imp_congr_right fun _ => ?_
      exact induction (step state request holds condition)

/-- A property holds in every state of a run when it holds at first and after
every request. -/
theorem forall_run_take_iff {property : σ → Prop} {requests : List ι} {state : σ} :
    (∀ count, property (run perform (requests.take count) state).2) ↔
      property state ∧
        Meets perform (fun state request => property (perform request state).2) requests
          state := by
  induction requests generalizing state with
  | nil =>
      simp only [List.take_nil, Meets, and_true]
      exact ⟨fun always => always 0, fun holds _ => holds⟩
  | cons request requests induction =>
      rw [Meets]
      cases outcome : perform request state with
      | mk value next =>
      have later : ∀ count, (run perform ((request :: requests).take (count + 1)) state).2 =
          if value.isSome then (run perform (requests.take count) next).2 else next := by
        intro count
        rw [List.take_succ_cons, run, bind_apply, outcome]
        cases value <;> rfl
      cases value with
      | none =>
          simp only [Option.isSome_none, Bool.false_eq_true, if_false] at later
          constructor
          · intro always
            have after := always 1
            rw [later] at after
            exact ⟨always 0, after, fun returned => absurd returned (by simp)⟩
          · rintro ⟨holds, after, -⟩ count
            cases count with
            | zero => exact holds
            | succ count => rwa [later]
      | some value =>
          simp only [Option.isSome_some, if_true] at later
          constructor
          · intro always
            have rest := induction.mp fun count => later count ▸ always (count + 1)
            exact ⟨always 0, rest.1, fun _ => rest.2⟩
          · rintro ⟨holds, after, rest⟩ count
            cases count with
            | zero => exact holds
            | succ count =>
                rw [later]
                exact induction.mpr ⟨after, rest rfl⟩ count

/-- A run of requests that all return is answered. -/
theorem isSome_mapM (returns : ∀ request state, (perform request state).1.isSome)
    (requests : List ι) (state : σ) : ((requests.mapM perform) state).1.isSome := by
  induction requests generalizing state with
  | nil => rfl
  | cons request requests induction =>
      rcases Option.isSome_iff_exists.mp (returns request state) with ⟨value, answer⟩
      rcases Option.isSome_iff_exists.mp (induction (perform request state).2) with
        ⟨values, answers⟩
      rw [List.mapM_cons, bind_of_eq_some (Prod.ext answer rfl),
        bind_of_eq_some (Prod.ext answers rfl)]
      rfl

/-! ## Refinement -/

section

variable {τ : Type} {related : σ → τ → Prop}

variable (related) in
/-- A program answers as another one does on what is seen of its state. -/
def Refines (process : Process σ α) (abstract : Process τ α) : Prop :=
  ∀ state view, related state view →
    (process state).1 = (abstract view).1 ∧ related (process state).2 (abstract view).2

theorem refines_pure (value : α) :
    Refines related (pure value : Process σ α) (pure value : Process τ α) :=
  fun _ _ holds => ⟨rfl, holds⟩

theorem Refines.bind {process : Process σ α} {abstract : Process τ α}
    {continuation : α → Process σ β} {rest : α → Process τ β}
    (first : Refines related process abstract)
    (later : ∀ value, Refines related (continuation value) (rest value)) :
    Refines related (process >>= continuation) (abstract >>= rest) := by
  intro state view holds
  rcases first state view holds with ⟨answer, after⟩
  rw [bind_apply, bind_apply]
  revert answer after
  rcases process state with ⟨value, next⟩
  rcases abstract view with ⟨other, nextView⟩
  rintro ⟨rfl⟩ after
  cases value with
  | none => exact ⟨rfl, after⟩
  | some value => exact later value next nextView after

/-- Request by request, the answers of a run are the same. -/
theorem refines_mapM {first : ι → Process σ α} {second : ι → Process τ α}
    (each : ∀ request, Refines related (first request) (second request)) (requests : List ι) :
    Refines related (requests.mapM first) (requests.mapM second) := by
  induction requests with
  | nil => exact refines_pure []
  | cons request requests induction =>
      rw [List.mapM_cons, List.mapM_cons]
      exact (each request).bind fun _ => induction.bind fun _ => refines_pure _

end

end Process

end Capsrv
