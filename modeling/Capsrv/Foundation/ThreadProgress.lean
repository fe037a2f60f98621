import Capsrv.Foundation.Threads
import Mathlib.Data.DFinsupp.WellFounded
import Mathlib.Data.Fintype.Lattice
import Mathlib.SetTheory.Cardinal.Order

/-! # Threads that come to an end

Threads that take their locks in one order never wait for each other, and they do
not go on for ever: every system can only end at rest or with the process.
-/

namespace Capsrv.Threads

variable {Thread Lock State Region Call Answer : Type} {layout : Layout State Region}
  {plan : Call → CriticalSection Lock layout Answer}

/-! ## No deadlock -/

/-- Every call takes its locks in the order of their ranks. -/
def Ranked (plan : Call → CriticalSection Lock layout Answer) (rank : Lock → Nat) : Prop :=
  ∀ call, (plan call).locks.Pairwise fun first second => rank first < rank second

/-- A thread whose next lock has an owner. -/
structure Waits (system : System Thread plan) (thread : Thread) (lock : Lock) : Prop where
  owned : system.owner lock ≠ none
  wants : ∃ call held wanted, system.phase thread = .acquiring call held (lock :: wanted)

section

variable {system : System Thread plan} {thread : Thread}

/-- A lock that a thread waits for is wanted later than the ones it has. -/
theorem Waits.rank_lt {rank : Lock → Nat} (locks : LocksHeld system) (ranked : Ranked plan rank)
    {lock other : Lock} (waits : Waits system thread lock)
    (held : other ∈ (system.phase thread).held) : rank other < rank lock := by
  rcases waits.wants with ⟨call, before, wanted, waiting⟩
  have ordered := ranked call
  rw [← locks.order thread call before (lock :: wanted) waiting, List.pairwise_append] at ordered
  rw [waiting] at held
  exact ordered.2.2 other (List.mem_reverse.mpr held) lock List.mem_cons_self

variable [DecidableEq Thread] [DecidableEq Lock]

/-- A thread that cannot go on is at rest or waits for a lock. -/
theorem rests_or_waits (running : system.aborted = none)
    (stuck : ∀ next, ¬ Step thread system next) :
    (system.phase thread = .idle ∧ system.queue thread = []) ∨ ∃ lock, Waits system thread lock := by
  cases phase : system.phase thread with
  | idle =>
      cases queue : system.queue thread with
      | nil => exact .inl ⟨rfl, rfl⟩
      | cons call later => exact absurd (.take call later phase queue running) (stuck _)
  | acquiring call held wanted =>
      cases wanted with
      | nil => exact absurd (.enter call held phase running) (stuck _)
      | cons lock wanted =>
          refine .inr ⟨lock, fun free => ?_, call, held, wanted, phase⟩
          exact stuck _ (.acquire call held lock wanted phase free running)
  | inside call rest =>
      cases rest with
      | returns answer => exact absurd (.commit call answer phase running) (stuck _)
      | aborts => exact absurd (.abort call phase running) (stuck _)
      | step change next => exact absurd (.work call change next phase running) (stuck _)
  | leaving held =>
      cases held with
      | nil => exact absurd (.leave phase running) (stuck _)
      | cons lock held => exact absurd (.release lock held phase running) (stuck _)

/-- Threads that take their locks in one order do not wait for each other. -/
theorem finished_of_stuck [Finite Thread] {rank : Lock → Nat} (locks : LocksHeld system)
    (ranked : Ranked plan rank) (running : system.aborted = none)
    (stuck : ∀ thread next, ¬ Step thread system next) : Finished system := by
  intro thread
  rcases rests_or_waits running (stuck thread) with rests | ⟨lock, waits⟩
  · exact rests
  · exfalso
    -- among the threads that wait, one wants the lock with the highest rank
    have waiting : Nonempty { thread // ∃ lock, Waits system thread lock } :=
      ⟨⟨thread, lock, waits⟩⟩
    rcases Finite.exists_max fun waiting : { thread // ∃ lock, Waits system thread lock } =>
      rank waiting.2.choose with ⟨⟨last, lastWaits⟩, highest⟩
    rcases Option.ne_none_iff_exists'.mp lastWaits.choose_spec.owned with ⟨holder, owner⟩
    have held := (locks.owner _ holder).mp owner
    rcases rests_or_waits running (stuck holder) with ⟨idle, -⟩ | holderWaits
    · rw [idle] at held
      cases held
    · have lower := holderWaits.choose_spec.rank_lt locks ranked held
      exact absurd (highest ⟨holder, holderWaits⟩) (Nat.not_le.mpr lower)

end

/-! ## No endless run -/

namespace Phase

/-- A later phase of the same call, or the end of it. -/
inductive Later : Phase plan → Phase plan → Prop
  | acquire (call : Call) (held : List Lock) (lock : Lock) (wanted : List Lock) :
      Later (.acquiring call (lock :: held) wanted) (.acquiring call held (lock :: wanted))
  | enter (call : Call) (held : List Lock)
      (rest : Steps (layout.Cell (plan call).region) Answer) :
      Later (.inside call rest) (.acquiring call held [])
  | work (call : Call) (change : layout.Cell (plan call).region → layout.Cell (plan call).region)
      (next : layout.Cell (plan call).region → Steps (layout.Cell (plan call).region) Answer)
      (value : layout.Cell (plan call).region) :
      Later (.inside call (next value)) (.inside call (.step change next))
  | commit (call : Call) (answer : Answer) (held : List Lock) :
      Later (.leaving held) (.inside call (.returns answer))
  | release (lock : Lock) (held : List Lock) :
      Later (.leaving held) (.leaving (lock :: held))
  | leave : Later .idle (.leaving [])

theorem acc_leaving (held : List Lock) :
    Acc Later (.leaving held : Phase plan) := by
  induction held with
  | nil =>
      constructor
      intro phase later
      cases later
      exact ⟨_, fun phase later => by cases later⟩
  | cons lock held induction =>
      constructor
      intro phase later
      cases later
      exact induction

theorem acc_inside (call : Call) (rest : Steps (layout.Cell (plan call).region) Answer) :
    Acc Later (.inside call rest : Phase plan) := by
  induction rest with
  | returns answer =>
      constructor
      intro phase later
      cases later
      exact acc_leaving _
  | aborts => exact ⟨_, fun phase later => by cases later⟩
  | step change next induction =>
      constructor
      intro phase later
      cases later
      exact induction _

theorem acc_acquiring (call : Call) (held wanted : List Lock) :
    Acc Later (.acquiring call held wanted : Phase plan) := by
  induction wanted generalizing held with
  | nil =>
      constructor
      intro phase later
      cases later
      exact acc_inside call _
  | cons lock wanted induction =>
      constructor
      intro phase later
      cases later
      exact induction _

theorem wellFounded_later : WellFounded (Later : Phase plan → Phase plan → Prop) := by
  constructor
  intro phase
  cases phase with
  | idle => exact ⟨_, fun phase later => by cases later⟩
  | acquiring call held wanted => exact acc_acquiring call held wanted
  | inside call rest => exact acc_inside call rest
  | leaving held => exact acc_leaving held

end Phase

/-- What a thread still has to do: the calls in its queue, and the rest of its call. -/
def remaining (system : System Thread plan) (thread : Thread) : Nat × Phase plan :=
  ((system.queue thread).length, system.phase thread)

/-- Less to do. -/
def Less : Nat × Phase plan → Nat × Phase plan → Prop :=
  Prod.Lex (· < ·) Phase.Later

theorem wellFounded_less : WellFounded (Less : Nat × Phase plan → Nat × Phase plan → Prop) :=
  WellFounded.prod_lex Nat.lt_wfRel.wf Phase.wellFounded_later

section

variable [DecidableEq Thread] {system next : System Thread plan} {thread : Thread}

/-- A thread that moves on with its call has less to do, and nobody else notices. -/
theorem less_of_move {phase : Phase plan} (later : Phase.Later phase (system.phase thread))
    (moved : next.phase = (system.move thread phase).phase) (queue : next.queue = system.queue) :
    Less (remaining next thread) (remaining system thread) ∧
      ∀ other, other ≠ thread → remaining next other = remaining system other := by
  constructor
  · rw [remaining, remaining, moved, queue, System.move_phase_self]
    exact .right _ later
  · intro other different
    rw [remaining, remaining, moved, queue, System.move_phase_of_ne different]

variable [DecidableEq Lock]

/-- A step that does not end the process leaves its thread with less to do. -/
theorem Step.less (step : Step thread system next) (running : next.aborted = none) :
    Less (remaining next thread) (remaining system thread) ∧
      ∀ other, other ≠ thread → remaining next other = remaining system other := by
  cases step with
  | take call later idle first running =>
      constructor
      · apply Prod.Lex.left
        change (Function.update system.queue thread later thread).length < _
        rw [Function.update_self, first]
        exact Nat.lt_succ_self _
      · intro other different
        change ((Function.update system.queue thread later other).length, _) = _
        rw [Function.update_of_ne different, System.move_phase_of_ne different]
        rfl
  | acquire call held lock wanted waiting free running =>
      exact less_of_move (by rw [waiting]; exact .acquire call held lock wanted) rfl rfl
  | enter call held ready running =>
      exact less_of_move (by rw [ready]; exact .enter call held _) rfl rfl
  | work call change later busy running =>
      exact less_of_move (by rw [busy]; exact .work call change later _) rfl rfl
  | commit call answer done running =>
      exact less_of_move (by rw [done]; exact .commit call answer _) rfl rfl
  | abort call failed => cases running
  | release lock held finished running =>
      exact less_of_move (by rw [finished]; exact .release lock held) rfl rfl
  | leave finished running => exact less_of_move (by rw [finished]; exact .leave) rfl rfl

theorem Step.running (step : Step thread system next) : system.aborted = none := by
  cases step <;> assumption

/-- No system goes on for ever. -/
theorem wellFounded_step [Finite Thread] :
    WellFounded fun next system : System Thread plan => ∃ thread, Step thread system next := by
  have less : WellFounded (Pi.Lex WellOrderingRel fun {_ : Thread} =>
      (Less : Nat × Phase plan → Nat × Phase plan → Prop)) :=
    Pi.Lex.wellFounded WellOrderingRel fun _ => wellFounded_less
  constructor
  intro system
  induction system using (InvImage.wf remaining less).induction with
  | _ system induction =>
    constructor
    rintro next ⟨thread, step⟩
    cases aborted : next.aborted with
    | none =>
        rcases step.less aborted with ⟨smaller, others⟩
        apply induction next
        refine ⟨thread, fun other before => others other ?_, smaller⟩
        rintro rfl
        exact irrefl other before
    | some culprit =>
        constructor
        rintro after ⟨thread, step⟩
        rw [step.running] at aborted
        cases aborted

theorem Reachable.trans {middle : System Thread plan} (first : Reachable system middle)
    (second : Reachable middle next) : Reachable system next := by
  induction second with
  | start => exact first
  | step earlier thread step induction => exact .step induction thread step

/-- Every system gets to its end, whatever it has done so far. -/
theorem ends_of_ranked [Finite Thread] {rank : Lock → Nat} (ranked : Ranked plan rank)
    (locks : LocksHeld system) :
    ∃ final, Reachable system final ∧ (final.aborted ≠ none ∨ Finished final) := by
  have finite : WellFounded fun next system : System Thread plan =>
      ∃ thread, Step thread system next := wellFounded_step
  induction system using finite.induction with
  | _ system induction =>
    by_cases running : system.aborted = none
    · by_cases taken : ∃ next thread, Step thread system next
      · rcases taken with ⟨next, thread, step⟩
        rcases induction next ⟨thread, step⟩ (locks.step step) with ⟨final, reachable, ended⟩
        exact ⟨final, Reachable.trans (.step .start thread step) reachable, ended⟩
      · have finished := finished_of_stuck locks ranked running
          fun thread next step => taken ⟨next, thread, step⟩
        exact ⟨system, .start, .inr finished⟩
    · exact ⟨system, .start, .inl running⟩

end

end Capsrv.Threads
