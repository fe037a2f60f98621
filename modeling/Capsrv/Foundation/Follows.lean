import Capsrv.Foundation.Part
import Capsrv.Foundation.ProgramClass

/-! # Programs that follow runs of requests

A program on a whole state follows the requests on a part when all it does to the
part could have been done by a run of these requests. What is known of every run
of the requests is then known of the program.
-/

namespace Capsrv

namespace Process

variable {σ α ι : Type} {perform : ι → Process σ α}

theorem run_append (first second : List ι) :
    run perform (first ++ second) = run perform first >>= fun _ => run perform second := by
  induction first with
  | nil => rfl
  | cons request requests induction => rw [List.cons_append, run, run, induction, bind_assoc]

theorem run_eq_discard (request : ι) : run perform [request] = (perform request).discard := rfl

end Process

namespace Part

variable {σ τ υ α β γ ι : Type}

/-- Every run of the program does to the part what some run of permitted requests
does, and when the program returns, so does the run of requests. -/
def Follows (part : Part σ τ) (perform : ι → Process τ γ) (permitted : ι → Prop)
    (process : Process σ α) : Prop :=
  ∀ state, ∃ requests : List ι, (∀ request ∈ requests, permitted request) ∧
    part.get (process state).2 = (Process.run perform requests (part.get state)).2 ∧
      ((process state).1.isSome →
        (Process.run perform requests (part.get state)).1 = some ())

variable {part : Part σ τ} {perform : ι → Process τ γ} {permitted : ι → Prop}
  {process : Process σ α}

/-- A program that leaves the part alone follows the run without requests. -/
theorem follows_of_keeps (keeps : ∀ state, part.get (process state).2 = part.get state) :
    part.Follows perform permitted process := fun state =>
  ⟨[], fun _ member => absurd member List.not_mem_nil, keeps state, fun _ => rfl⟩

theorem Follows.bind {continuation : α → Process σ β}
    (first : part.Follows perform permitted process)
    (rest : ∀ value, part.Follows perform permitted (continuation value)) :
    part.Follows perform permitted (process >>= continuation) := by
  intro state
  rcases first state with ⟨requests, allowed, reached, returns⟩
  rw [Process.bind_apply]
  revert reached returns
  rcases process state with ⟨_ | value, next⟩
  · exact fun reached _ => ⟨requests, allowed, reached, fun returned => by cases returned⟩
  · intro reached returns
    rcases rest value next with ⟨later, laterAllowed, arrived, laterReturns⟩
    have begun : Process.run perform requests (part.get state) = (some (), part.get next) :=
      Prod.ext (returns rfl) reached.symm
    refine ⟨requests ++ later, ?_, ?_, ?_⟩
    · intro request member
      rcases List.mem_append.mp member with member | member
      · exact allowed request member
      · exact laterAllowed request member
    · rw [Process.run_append, Process.bind_of_eq_some begun]
      exact arrived
    · rw [Process.run_append, Process.bind_of_eq_some begun]
      exact laterReturns

/-- A program on the part that does what one request does. -/
theorem follows_focus {program : Process τ α} (request : ι) (allowed : permitted request)
    (same : program.discard = (perform request).discard) :
    part.Follows perform permitted (part.focus program) := by
  intro state
  refine ⟨[request], ?_, ?_, fun returned => ?_⟩
  · intro other member
    rw [List.mem_singleton.mp member]
    exact allowed
  · rw [get_focus, Process.run_eq_discard, ← same, Process.discard_snd]
  · rw [focus_fst, ← Process.discard_isSome, same] at returned
    rw [Process.run_eq_discard]
    rcases Option.isSome_iff_exists.mp returned with ⟨⟨⟩, outcome⟩
    exact outcome

/-- A program on an independent part leaves the part alone. -/
theorem Independent.follows_focus {other : Part σ υ} (independent : other.Independent part)
    (program : Process υ α) : part.Follows perform permitted (other.focus program) :=
  follows_of_keeps fun state => independent.get_focus program state

/-- The programs that follow the permitted requests. -/
def following (part : Part σ τ) (perform : ι → Process τ γ) (permitted : ι → Prop) :
    ProgramClass σ where
  Contains := part.Follows perform permitted
  contains_pure _ := follows_of_keeps fun _ => rfl
  contains_abort := follows_of_keeps fun _ => rfl
  contains_get := follows_of_keeps fun _ => rfl
  contains_bind := Follows.bind

/-- What every permitted request preserves of the part, the program preserves. -/
theorem Follows.preserves {invariant : τ → Prop}
    (follows : part.Follows perform permitted process)
    (kept : ∀ request, permitted request → Process.Preserves invariant (perform request)) :
    process.Preserves fun state => invariant (part.get state) := by
  intro state holds
  rcases follows state with ⟨requests, allowed, reached, -⟩
  rw [reached]
  have run := (ProgramClass.preserving invariant).contains_run fun request member =>
    kept request (allowed request member)
  exact run _ holds

end Part

end Capsrv
