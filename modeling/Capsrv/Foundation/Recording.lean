import Capsrv.Foundation.Process

/-! # Recorded programs

A program that keeps a log of events beside its state. Erasing the log gives the
program without it, and a bound on the events of the parts is one on the events
of the whole.
-/

namespace Capsrv

/-! ## Logs -/

/-- A list that has grown by allowed items only. -/
def Extends {ε : Type} (allowed : ε → Prop) (before after : List ε) : Prop :=
  ∃ more, after = before ++ more ∧ ∀ item ∈ more, allowed item

namespace Extends

variable {ε : Type} {allowed : ε → Prop} {before after final : List ε}

theorem refl (before : List ε) : Extends allowed before before :=
  ⟨[], (List.append_nil before).symm, by simp⟩

theorem append {more : List ε} (permitted : ∀ item ∈ more, allowed item) :
    Extends allowed before (before ++ more) :=
  ⟨more, rfl, permitted⟩

theorem trans (first : Extends allowed before after) (second : Extends allowed after final) :
    Extends allowed before final := by
  rcases first with ⟨more, rfl, permitted⟩
  rcases second with ⟨rest, rfl, permittedRest⟩
  refine ⟨more ++ rest, List.append_assoc before more rest, ?_⟩
  intro item member
  rcases List.mem_append.mp member with earlier | later
  · exact permitted item earlier
  · exact permittedRest item later

end Extends

structure Recorded (σ ε : Type) where
  state : σ
  events : List ε

namespace Recorded

variable {σ ε α β ι : Type}

/-! ## Programs over the log -/

/-- A program that records nothing. -/
def lift (process : Process σ α) : Process (Recorded σ ε) α := fun recorded =>
  ((process recorded.state).1, { recorded with state := (process recorded.state).2 })

def record (events : List ε) : Process (Recorded σ ε) Unit :=
  Process.modify fun recorded => { recorded with events := recorded.events ++ events }

/-- The state beside the log. -/
def current : Process (Recorded σ ε) σ :=
  lift Process.get

/-! ## Erasing the log -/

/-- Without its log, the recording is the program. -/
def Erases (recording : Process (Recorded σ ε) α) (process : Process σ α) : Prop :=
  ∀ recorded, (recording recorded).1 = (process recorded.state).1 ∧
    (recording recorded).2.state = (process recorded.state).2

theorem erases_lift (process : Process σ α) :
    Erases (lift process : Process (Recorded σ ε) α) process :=
  fun _ => ⟨rfl, rfl⟩

theorem erases_pure (value : α) :
    Erases (pure value : Process (Recorded σ ε) α) (pure value) :=
  fun _ => ⟨rfl, rfl⟩

theorem Erases.bind {recording : Process (Recorded σ ε) α} {process : Process σ α}
    {next : α → Process (Recorded σ ε) β} {rest : α → Process σ β}
    (first : Erases recording process) (erases : ∀ value, Erases (next value) (rest value)) :
    Erases (recording >>= next) (process >>= rest) := by
  intro recorded
  rcases first recorded with ⟨value, state⟩
  have same : process recorded.state =
      ((recording recorded).1, (recording recorded).2.state) := Prod.ext value.symm state.symm
  rw [Process.bind_apply, Process.bind_apply, same]
  rcases recording recorded with ⟨_ | produced, middle⟩
  · exact ⟨rfl, rfl⟩
  · exact erases produced middle

/-- Events in front of a program. -/
theorem Erases.record_bind {next : Unit → Process (Recorded σ ε) α} {process : Process σ α}
    {events : List ε} (erases : Erases (next ()) process) :
    Erases (record events >>= next) process :=
  fun recorded => erases { recorded with events := recorded.events ++ events }

theorem Erases.ite {condition : Prop} [Decidable condition]
    {recording otherRecording : Process (Recorded σ ε) α} {process other : Process σ α}
    (holds : Erases recording process) (fails : Erases otherRecording other) :
    Erases (if condition then recording else otherRecording)
      (if condition then process else other) := by
  split
  · exact holds
  · exact fails

theorem erases_run {recording : ι → Process (Recorded σ ε) α} {perform : ι → Process σ α}
    (each : ∀ request, Erases (recording request) (perform request)) (requests : List ι) :
    Erases (Process.run recording requests) (Process.run perform requests) := by
  induction requests with
  | nil => exact erases_pure ()
  | cons request requests induction => exact (each request).bind fun _ => induction

/-! ## Bounding the events -/

/-- The program keeps the invariant and adds allowed events only. -/
def Emits (invariant : σ → Prop) (allowed : ε → Prop) (process : Process (Recorded σ ε) α) :
    Prop :=
  ∀ recorded, invariant recorded.state →
    invariant (process recorded).2.state ∧
      Extends allowed recorded.events (process recorded).2.events

section

variable {invariant : σ → Prop} {allowed : ε → Prop}

theorem emits_pure (value : α) : Emits invariant allowed (pure value : Process (Recorded σ ε) α) :=
  fun recorded holds => ⟨holds, .refl recorded.events⟩

theorem emits_lift {process : Process σ α} (preserves : Process.Preserves invariant process) :
    Emits invariant allowed (lift process : Process (Recorded σ ε) α) :=
  fun recorded holds => ⟨preserves recorded.state holds, .refl recorded.events⟩

theorem emits_current : Emits invariant allowed (current : Process (Recorded σ ε) σ) :=
  emits_lift fun _ holds => holds

theorem emits_record {events : List ε} (permitted : ∀ event ∈ events, allowed event) :
    Emits invariant allowed (record events : Process (Recorded σ ε) Unit) :=
  fun _ holds => ⟨holds, .append permitted⟩

theorem Emits.ite {condition : Prop} [Decidable condition]
    {process other : Process (Recorded σ ε) α}
    (holds : condition → Emits invariant allowed process)
    (fails : ¬ condition → Emits invariant allowed other) :
    Emits invariant allowed (if condition then process else other) := by
  split
  case isTrue met => exact holds met
  case isFalse unmet => exact fails unmet

/-- What the first program may return is known to the second one. -/
theorem Emits.bind_of_returns {process : Process (Recorded σ ε) α}
    {next : α → Process (Recorded σ ε) β} {returned : α → Prop}
    (first : Emits invariant allowed process)
    (returns : ∀ recorded value, invariant recorded.state → (process recorded).1 = some value →
      returned value)
    (rest : ∀ value, returned value → Emits invariant allowed (next value)) :
    Emits invariant allowed (process >>= next) := by
  intro recorded holds
  rcases first recorded holds with ⟨middleHolds, added⟩
  have known := fun value => returns recorded value holds
  rw [Process.bind_apply]
  revert middleHolds added known
  rcases process recorded with ⟨_ | value, middle⟩
  · intro middleHolds added _
    exact ⟨middleHolds, added⟩
  · intro middleHolds added known
    rcases rest value (known value rfl) middle middleHolds with ⟨finalHolds, addedMore⟩
    exact ⟨finalHolds, added.trans addedMore⟩

theorem Emits.bind {process : Process (Recorded σ ε) α} {next : α → Process (Recorded σ ε) β}
    (first : Emits invariant allowed process)
    (rest : ∀ value, Emits invariant allowed (next value)) :
    Emits invariant allowed (process >>= next) :=
  first.bind_of_returns (fun _ _ _ _ => trivial) fun value _ => rest value

theorem emits_run {perform : ι → Process (Recorded σ ε) α} {requests : List ι}
    (each : ∀ request ∈ requests, Emits invariant allowed (perform request)) :
    Emits invariant allowed (Process.run perform requests) := by
  induction requests with
  | nil => exact emits_pure ()
  | cons request requests induction =>
      refine (each request List.mem_cons_self).bind fun _ => induction ?_
      intro later member
      exact each later (List.mem_cons_of_mem request member)

end

end Recorded

end Capsrv
