import Capsrv.Foundation.Aborts
import Capsrv.Foundation.CriticalSection
import Mathlib.Data.List.Nodup
import Mathlib.Logic.Function.Basic

/-! # Threads and locks

Threads that answer calls one after the other and share a state. A call takes its
locks, works on its region in steps that other threads can come between, answers,
and gives the locks back.
-/

namespace Capsrv

namespace Threads

variable {Thread Lock State Region Call Answer : Type} {layout : Layout State Region}

/-- Where a thread is. The locks it holds are listed with the latest one first. -/
inductive Phase (plan : Call → CriticalSection Lock layout Answer) where
  | idle
  | acquiring (call : Call) (held wanted : List Lock)
  | inside (call : Call) (rest : Steps (layout.Cell (plan call).region) Answer)
  | leaving (held : List Lock)

namespace Phase

variable {plan : Call → CriticalSection Lock layout Answer}

def held : Phase plan → List Lock
  | idle => []
  | acquiring _ held _ => held
  | inside call _ => (plan call).locks.reverse
  | leaving held => held

/-- The call that is not answered yet. -/
def pending : Phase plan → List Call
  | idle => []
  | acquiring call _ _ => [call]
  | inside call _ => [call]
  | leaving _ => []

end Phase

variable (Thread) in
structure System (plan : Call → CriticalSection Lock layout Answer) where
  shared : State
  owner : Lock → Option Thread
  phase : Thread → Phase plan
  queue : Thread → List Call
  history : List (Thread × Call × Answer)
  aborted : Option Thread

namespace System

variable {plan : Call → CriticalSection Lock layout Answer}

/-- Nobody has begun. -/
def start (plan : Call → CriticalSection Lock layout Answer) (shared : State)
    (calls : Thread → List Call) : System Thread plan where
  shared
  owner _ := none
  phase _ := .idle
  queue := calls
  history := []
  aborted := none

variable [DecidableEq Thread]

def move (thread : Thread) (phase : Phase plan) (system : System Thread plan) :
    System Thread plan :=
  { system with phase := Function.update system.phase thread phase }

@[simp] theorem move_phase_self (thread : Thread) (phase : Phase plan)
    (system : System Thread plan) : (system.move thread phase).phase thread = phase := by
  simp [move]

theorem move_phase_of_ne {thread other : Thread} (different : other ≠ thread)
    (phase : Phase plan) (system : System Thread plan) :
    (system.move thread phase).phase other = system.phase other := by
  simp [move, different]

end System

section

variable [DecidableEq Thread]

/-- The calls of a thread that a history has answers for. -/
def callsOf (thread : Thread) (history : List (Thread × Call × Answer)) : List Call :=
  (history.filter fun entry => entry.1 = thread).map (·.2.1)

theorem callsOf_snoc_self (thread : Thread) (history : List (Thread × Call × Answer))
    (call : Call) (answer : Answer) :
    callsOf thread (history ++ [(thread, call, answer)]) = callsOf thread history ++ [call] := by
  simp [callsOf]

theorem callsOf_snoc_of_ne {thread other : Thread} (different : thread ≠ other)
    (history : List (Thread × Call × Answer)) (call : Call) (answer : Answer) :
    callsOf other (history ++ [(thread, call, answer)]) = callsOf other history := by
  simp [callsOf, different]

end

/-! ## Steps of the system -/

section

variable [DecidableEq Thread] {plan : Call → CriticalSection Lock layout Answer}

section

variable [DecidableEq Lock]

/-- A step of one thread. After an abort there are none. -/
inductive Step (thread : Thread) (system : System Thread plan) : System Thread plan → Prop
  | take (call : Call) (later : List Call) (idle : system.phase thread = .idle)
      (first : system.queue thread = call :: later) (running : system.aborted = none) :
      Step thread system { system.move thread (.acquiring call [] (plan call).locks) with
        queue := Function.update system.queue thread later }
  | acquire (call : Call) (held : List Lock) (lock : Lock) (wanted : List Lock)
      (waiting : system.phase thread = .acquiring call held (lock :: wanted))
      (free : system.owner lock = none) (running : system.aborted = none) :
      Step thread system { system.move thread (.acquiring call (lock :: held) wanted) with
        owner := Function.update system.owner lock (some thread) }
  | enter (call : Call) (held : List Lock)
      (ready : system.phase thread = .acquiring call held [])
      (running : system.aborted = none) :
      Step thread system (system.move thread (.inside call (plan call).body))
  | work (call : Call) (change : layout.Cell (plan call).region → layout.Cell (plan call).region)
      (next : layout.Cell (plan call).region → Steps (layout.Cell (plan call).region) Answer)
      (busy : system.phase thread = .inside call (.step change next))
      (running : system.aborted = none) :
      Step thread system
        { system.move thread
            (.inside call (next ((layout.part (plan call).region).get system.shared))) with
          shared := (layout.part (plan call).region).set
            (change ((layout.part (plan call).region).get system.shared)) system.shared }
  | commit (call : Call) (answer : Answer)
      (done : system.phase thread = .inside call (.returns answer))
      (running : system.aborted = none) :
      Step thread system { system.move thread (.leaving (plan call).locks.reverse) with
        history := system.history ++ [(thread, call, answer)] }
  | abort (call : Call) (failed : system.phase thread = .inside call .aborts)
      (running : system.aborted = none) :
      Step thread system { system with aborted := some thread }
  | release (lock : Lock) (held : List Lock)
      (finished : system.phase thread = .leaving (lock :: held))
      (running : system.aborted = none) :
      Step thread system { system.move thread (.leaving held) with
        owner := Function.update system.owner lock none }
  | leave (finished : system.phase thread = .leaving []) (running : system.aborted = none) :
      Step thread system (system.move thread .idle)

/-- What the threads can get to from the start, in whatever order they go on. -/
inductive Reachable (start : System Thread plan) : System Thread plan → Prop
  | start : Reachable start start
  | step {system next : System Thread plan} (earlier : Reachable start system)
      (thread : Thread) (step : Step thread system next) : Reachable start next

end

/-! ## Who holds the locks -/

/-- A lock is held by its owner, and a thread that waits has taken the first ones of
its locks. -/
structure LocksHeld (system : System Thread plan) : Prop where
  owner : ∀ lock thread,
    system.owner lock = some thread ↔ lock ∈ (system.phase thread).held
  nodup : ∀ thread, (system.phase thread).held.Nodup
  order : ∀ thread call held wanted, system.phase thread = .acquiring call held wanted →
    held.reverse ++ wanted = (plan call).locks

namespace LocksHeld

variable {system next : System Thread plan} {thread : Thread}

/-- A thread that moves on with the locks it has. -/
theorem move (holds : LocksHeld system) {phase : Phase plan}
    (same : phase.held = (system.phase thread).held)
    (order : ∀ call held wanted, phase = .acquiring call held wanted →
      held.reverse ++ wanted = (plan call).locks) :
    LocksHeld (system.move thread phase) where
  owner lock other := by
    refine (holds.owner lock other).trans ?_
    by_cases moved : other = thread
    · rw [moved, System.move_phase_self, same]
    · rw [System.move_phase_of_ne moved]
  nodup other := by
    by_cases moved : other = thread
    · rw [moved, System.move_phase_self, same]
      exact holds.nodup thread
    · rw [System.move_phase_of_ne moved]
      exact holds.nodup other
  order other call held wanted waiting := by
    by_cases moved : other = thread
    · rw [moved, System.move_phase_self] at waiting
      exact order call held wanted waiting
    · rw [System.move_phase_of_ne moved] at waiting
      exact holds.order other call held wanted waiting

variable [DecidableEq Lock]

/-- A thread that takes a lock nobody has. -/
theorem acquire (holds : LocksHeld system) {call : Call} {held : List Lock} {lock : Lock}
    {wanted : List Lock} (waiting : system.phase thread = .acquiring call held (lock :: wanted))
    (free : system.owner lock = none) :
    LocksHeld { system.move thread (.acquiring call (lock :: held) wanted) with
      owner := Function.update system.owner lock (some thread) } where
  owner other holder := by
    change Function.update system.owner lock (some thread) other = some holder ↔
      other ∈ ((system.move thread _).phase holder).held
    have before := holds.owner other holder
    by_cases taken : other = lock
    · subst taken
      rw [Function.update_self, Option.some.injEq]
      constructor
      · rintro rfl
        rw [System.move_phase_self]
        exact List.mem_cons_self
      · intro holding
        by_contra different
        rw [System.move_phase_of_ne (Ne.symm different), ← before, free] at holding
        cases holding
    · rw [Function.update_of_ne taken, before]
      by_cases moved : holder = thread
      · subst moved
        rw [System.move_phase_self, waiting]
        exact (List.mem_cons.trans (or_iff_right taken)).symm
      · rw [System.move_phase_of_ne moved]
  nodup other := by
    change ((system.move thread _).phase other).held.Nodup
    by_cases moved : other = thread
    · subst moved
      rw [System.move_phase_self]
      have fresh : lock ∉ (system.phase other).held := by
        rw [← holds.owner, free]
        exact nofun
      have distinct := holds.nodup other
      rw [waiting] at fresh distinct
      exact List.nodup_cons.mpr ⟨fresh, distinct⟩
    · rw [System.move_phase_of_ne moved]
      exact holds.nodup other
  order other otherCall otherHeld otherWanted phase := by
    change (system.move thread _).phase other = _ at phase
    by_cases moved : other = thread
    · subst moved
      rw [System.move_phase_self] at phase
      cases phase
      rw [← holds.order other call held (lock :: wanted) waiting, List.reverse_cons,
        List.append_assoc]
      rfl
    · rw [System.move_phase_of_ne moved] at phase
      exact holds.order other otherCall otherHeld otherWanted phase

/-- A thread that gives its latest lock back. -/
theorem release (holds : LocksHeld system) {lock : Lock} {held : List Lock}
    (finished : system.phase thread = .leaving (lock :: held)) :
    LocksHeld { system.move thread (.leaving held) with
      owner := Function.update system.owner lock none } where
  owner other holder := by
    change Function.update system.owner lock none other = some holder ↔
      other ∈ ((system.move thread _).phase holder).held
    have before := holds.owner other holder
    have distinct := holds.nodup thread
    have owned := holds.owner lock thread
    rw [finished] at distinct owned
    by_cases given : other = lock
    · subst given
      rw [Function.update_self]
      refine iff_of_false nofun ?_
      by_cases moved : holder = thread
      · subst moved
        rw [System.move_phase_self]
        exact (List.nodup_cons.mp distinct).1
      · rw [System.move_phase_of_ne moved, ← before, owned.mpr List.mem_cons_self]
        intro same
        exact moved (Option.some.inj same).symm
    · rw [Function.update_of_ne given, before]
      by_cases moved : holder = thread
      · subst moved
        rw [System.move_phase_self, finished]
        exact List.mem_cons.trans (or_iff_right given)
      · rw [System.move_phase_of_ne moved]
  nodup other := by
    change ((system.move thread _).phase other).held.Nodup
    by_cases moved : other = thread
    · subst moved
      rw [System.move_phase_self]
      have distinct := holds.nodup other
      rw [finished] at distinct
      exact (List.nodup_cons.mp distinct).2
    · rw [System.move_phase_of_ne moved]
      exact holds.nodup other
  order other otherCall otherHeld otherWanted phase := by
    change (system.move thread _).phase other = _ at phase
    by_cases moved : other = thread
    · subst moved
      rw [System.move_phase_self] at phase
      cases phase
    · rw [System.move_phase_of_ne moved] at phase
      exact holds.order other otherCall otherHeld otherWanted phase

theorem step (holds : LocksHeld system) (step : Step thread system next) : LocksHeld next := by
  cases step with
  | take call later idle first running =>
      have moved : LocksHeld (system.move thread (.acquiring call [] (plan call).locks)) := by
        apply holds.move
        · rw [idle]
          rfl
        · intro other held wanted same
          cases same
          rfl
      exact ⟨moved.owner, moved.nodup, moved.order⟩
  | acquire call held lock wanted waiting free running => exact holds.acquire waiting free
  | enter call held ready running =>
      apply holds.move
      · have order := holds.order thread call held [] ready
        rw [List.append_nil] at order
        rw [ready]
        change (plan call).locks.reverse = held
        rw [← order, List.reverse_reverse]
      · exact nofun
  | work call change next busy running =>
      have moved : LocksHeld (system.move thread (.inside call
          (next ((layout.part (plan call).region).get system.shared)))) := by
        apply holds.move
        · rw [busy]
          rfl
        · exact nofun
      exact ⟨moved.owner, moved.nodup, moved.order⟩
  | commit call answer done running =>
      have moved : LocksHeld (system.move thread (.leaving (plan call).locks.reverse)) := by
        apply holds.move
        · rw [done]
          rfl
        · exact nofun
      exact ⟨moved.owner, moved.nodup, moved.order⟩
  | abort call failed running => exact ⟨holds.owner, holds.nodup, holds.order⟩
  | release lock held finished running => exact holds.release finished
  | leave finished running =>
      apply holds.move
      · rw [finished]
        rfl
      · exact nofun

theorem of_reachable {shared : State} {calls : Thread → List Call}
    (reachable : Reachable (.start plan shared calls) system) : LocksHeld system := by
  induction reachable with
  | start => exact ⟨fun _ _ => iff_of_false nofun nofun, fun _ => List.nodup_nil, nofun⟩
  | step earlier thread step induction => exact induction.step step

end LocksHeld

/-! ## Where the calls are -/

/-- Every call is answered, pending or in the queue, in the order in which it came. -/
def CallsKept (calls : Thread → List Call) (system : System Thread plan) : Prop :=
  ∀ thread, callsOf thread system.history ++ (system.phase thread).pending ++
    system.queue thread = calls thread

namespace CallsKept

variable {system next : System Thread plan} {thread : Thread} {calls : Thread → List Call}

/-- A thread that moves on with its call. -/
theorem move (holds : CallsKept calls system) (phase : Phase plan)
    (same : phase.pending = (system.phase thread).pending) :
    CallsKept calls (system.move thread phase) := by
  intro other
  rw [← holds other]
  by_cases moved : other = thread
  · subst moved
    rw [System.move_phase_self, same]
    rfl
  · rw [System.move_phase_of_ne moved]
    rfl

/-- A thread that begins with its next call. -/
theorem take (holds : CallsKept calls system) {call : Call} {later : List Call}
    (idle : system.phase thread = .idle) (first : system.queue thread = call :: later) :
    CallsKept calls { system.move thread (.acquiring call [] (plan call).locks) with
      queue := Function.update system.queue thread later } := by
  intro other
  rw [← holds other]
  change callsOf other system.history ++ ((system.move thread _).phase other).pending ++
    Function.update system.queue thread later other = _
  by_cases moved : other = thread
  · subst moved
    rw [System.move_phase_self, Function.update_self, idle, first, List.append_assoc,
      List.append_assoc]
    rfl
  · rw [System.move_phase_of_ne moved, Function.update_of_ne moved]

/-- A thread that answers. -/
theorem commit (holds : CallsKept calls system) {call : Call} {answer : Answer}
    {rest : Steps (layout.Cell (plan call).region) Answer}
    (done : system.phase thread = .inside call rest) (held : List Lock) :
    CallsKept calls { system.move thread (.leaving held) with
      history := system.history ++ [(thread, call, answer)] } := by
  intro other
  rw [← holds other]
  change callsOf other (system.history ++ [(thread, call, answer)]) ++
    ((system.move thread _).phase other).pending ++ system.queue other = _
  by_cases moved : other = thread
  · subst moved
    rw [System.move_phase_self, done, callsOf_snoc_self]
    exact congrArg (· ++ _) (List.append_nil _)
  · rw [System.move_phase_of_ne moved, callsOf_snoc_of_ne (Ne.symm moved)]

/-- A call that is worked on came from the queue. -/
theorem mem_of_pending (holds : CallsKept calls system) {call : Call}
    (pending : call ∈ (system.phase thread).pending) : call ∈ calls thread := by
  rw [← holds thread]
  exact List.mem_append_left _ (List.mem_append_right _ pending)

variable [DecidableEq Lock]

theorem step (holds : CallsKept calls system) (step : Step thread system next) :
    CallsKept calls next := by
  cases step with
  | take call later idle first running => exact holds.take idle first
  | acquire call held lock wanted waiting free running =>
      exact holds.move (.acquiring call (lock :: held) wanted) (by rw [waiting]; rfl)
  | enter call held ready running => exact holds.move _ (by rw [ready]; rfl)
  | work call change next busy running =>
      exact holds.move (.inside call (next _)) (by rw [busy]; rfl)
  | commit call answer done running => exact holds.commit done _
  | abort call failed running => exact holds
  | release lock held finished running =>
      exact holds.move (.leaving held) (by rw [finished]; rfl)
  | leave finished running => exact holds.move _ (by rw [finished]; rfl)

theorem of_reachable {shared : State} (reachable : Reachable (.start plan shared calls) system) :
    CallsKept calls system := by
  induction reachable with
  | start => exact fun _ => rfl
  | step earlier thread step induction => exact induction.step step

end CallsKept

/-! ## One thread in a region -/

/-- Calls of two threads on one region have a lock in common. -/
def Guarded (plan : Call → CriticalSection Lock layout Answer) (calls : Thread → List Call) :
    Prop :=
  ∀ thread other, thread ≠ other → ∀ call ∈ calls thread, ∀ otherCall ∈ calls other,
    (plan call).region = (plan otherCall).region →
    ∃ lock ∈ (plan call).locks, lock ∈ (plan otherCall).locks

section

variable {system next : System Thread plan} {thread : Thread} {calls : Thread → List Call}

/-- No other thread is in the region. -/
def Alone (system : System Thread plan) (thread : Thread) (region : Region) : Prop :=
  ∀ other call rest, system.phase other = .inside call rest → (plan call).region = region →
    other = thread

/-- A thread with all locks of a call is alone in its region. -/
theorem alone_of_held (locks : LocksHeld system) (kept : CallsKept calls system)
    (guarded : Guarded plan calls) {call : Call}
    (pending : call ∈ (system.phase thread).pending)
    (held : ∀ lock ∈ (plan call).locks, lock ∈ (system.phase thread).held) :
    Alone system thread (plan call).region := by
  intro other otherCall rest inside same
  by_contra different
  have otherPending : otherCall ∈ (system.phase other).pending := by
    rw [inside]
    exact List.mem_singleton_self otherCall
  rcases guarded other thread different otherCall (kept.mem_of_pending otherPending) call
    (kept.mem_of_pending pending) same with ⟨lock, otherTakes, takes⟩
  have otherHolds : lock ∈ (system.phase other).held := by
    rw [inside]
    exact List.mem_reverse.mpr otherTakes
  have owner := (locks.owner lock other).mpr otherHolds
  rw [(locks.owner lock thread).mpr (held lock takes)] at owner
  exact different (Option.some.inj owner).symm

theorem alone_of_inside (locks : LocksHeld system) (kept : CallsKept calls system)
    (guarded : Guarded plan calls) {call : Call}
    {rest : Steps (layout.Cell (plan call).region) Answer}
    (inside : system.phase thread = .inside call rest) :
    Alone system thread (plan call).region := by
  apply alone_of_held locks kept guarded
  · rw [inside]
    exact List.mem_singleton_self call
  · intro lock takes
    rw [inside]
    exact List.mem_reverse.mpr takes

theorem alone_of_ready (locks : LocksHeld system) (kept : CallsKept calls system)
    (guarded : Guarded plan calls) {call : Call} {held : List Lock}
    (ready : system.phase thread = .acquiring call held []) :
    Alone system thread (plan call).region := by
  have order := locks.order thread call held [] ready
  rw [List.append_nil] at order
  apply alone_of_held locks kept guarded
  · rw [ready]
    exact List.mem_singleton_self call
  · intro lock takes
    rw [ready]
    rw [← order] at takes
    exact List.mem_reverse.mp takes

/-! ## The answered calls alone -/

/-- The state after the answered calls alone: it has every region that nobody is in,
and a thread in its region ends as from there. -/
structure Committed (system : System Thread plan) (state : State) : Prop where
  inside : ∀ thread call rest, system.phase thread = .inside call rest →
    (plan call).body.perform ((layout.part (plan call).region).get state) =
      rest.perform ((layout.part (plan call).region).get system.shared)
  outside : ∀ region,
    (∀ thread call rest, system.phase thread = .inside call rest → (plan call).region ≠ region) →
    (layout.part region).get system.shared = (layout.part region).get state

namespace Committed

variable {state : State}

/-- A thread that moves on outside of its region. -/
theorem move (committed : Committed system state)
    (before : ∀ call rest, system.phase thread ≠ .inside call rest) (phase : Phase plan)
    (after : ∀ call rest, phase ≠ .inside call rest) :
    Committed (system.move thread phase) state where
  inside other call rest inside := by
    by_cases moved : other = thread
    · subst moved
      rw [System.move_phase_self] at inside
      exact absurd inside (after call rest)
    · rw [System.move_phase_of_ne moved] at inside
      exact committed.inside other call rest inside
  outside region free := by
    apply committed.outside
    intro other call rest inside
    have moved : other ≠ thread := by
      rintro rfl
      exact before call rest inside
    apply free other call rest
    rw [System.move_phase_of_ne moved]
    exact inside

/-- A thread that enters its region alone. -/
theorem enter (committed : Committed system state) {call : Call}
    (before : ∀ call rest, system.phase thread ≠ .inside call rest)
    (alone : Alone system thread (plan call).region) :
    Committed (system.move thread (.inside call (plan call).body)) state where
  inside other otherCall rest inside := by
    by_cases moved : other = thread
    · subst moved
      rw [System.move_phase_self] at inside
      cases inside
      have same := committed.outside (plan call).region fun holder holderCall rest inside same => by
        rw [alone holder holderCall rest inside same] at inside
        exact before holderCall rest inside
      exact congrArg (plan call).body.perform same.symm
    · rw [System.move_phase_of_ne moved] at inside
      exact committed.inside other otherCall rest inside
  outside region free := by
    apply committed.outside
    intro other otherCall rest inside
    have moved : other ≠ thread := by
      rintro rfl
      exact before otherCall rest inside
    apply free other otherCall rest
    rw [System.move_phase_of_ne moved]
    exact inside

/-- A step of a thread alone in its region. -/
theorem work (committed : Committed system state) {call : Call}
    {change : layout.Cell (plan call).region → layout.Cell (plan call).region}
    {later : layout.Cell (plan call).region → Steps (layout.Cell (plan call).region) Answer}
    (busy : system.phase thread = .inside call (.step change later))
    (alone : Alone system thread (plan call).region) :
    Committed { system.move thread
        (.inside call (later ((layout.part (plan call).region).get system.shared))) with
      shared := (layout.part (plan call).region).set
        (change ((layout.part (plan call).region).get system.shared)) system.shared } state where
  inside other otherCall rest inside := by
    change (system.move thread _).phase other = _ at inside
    by_cases moved : other = thread
    · subst moved
      rw [System.move_phase_self] at inside
      cases inside
      rw [committed.inside other call _ busy, (layout.part (plan call).region).get_set]
      rfl
    · rw [System.move_phase_of_ne moved] at inside
      have different : (plan call).region ≠ (plan otherCall).region :=
        fun same => moved (alone other otherCall rest inside same.symm)
      rw [committed.inside other otherCall rest inside,
        (layout.independent _ _ different).get_set]
  outside region free := by
    change ∀ other otherCall rest, (system.move thread _).phase other = _ → _ at free
    have different : (plan call).region ≠ region := by
      apply free thread call
      rw [System.move_phase_self]
    rw [(layout.independent _ _ different).get_set]
    apply committed.outside
    intro other otherCall rest inside
    by_cases moved : other = thread
    · subst moved
      rw [busy] at inside
      cases inside
      exact different
    · apply free other otherCall rest
      rw [System.move_phase_of_ne moved]
      exact inside

/-- An answer: the call is performed where its thread has entered. -/
theorem commit (committed : Committed system state) {call : Call} {answer : Answer}
    (done : system.phase thread = .inside call (.returns answer))
    (alone : Alone system thread (plan call).region) (held : List Lock)
    (history : List (Thread × Call × Answer)) :
    ∃ later, (plan call).perform state = (some answer, later) ∧
      Committed { system.move thread (.leaving held) with history } later := by
  have ended := committed.inside thread call _ done
  refine ⟨(layout.part (plan call).region).set
    ((layout.part (plan call).region).get system.shared) state, ?_, ?_, ?_⟩
  · rw [CriticalSection.perform, Part.focus, ended]
    rfl
  · intro other otherCall rest inside
    change (system.move thread _).phase other = _ at inside
    by_cases moved : other = thread
    · subst moved
      rw [System.move_phase_self] at inside
      cases inside
    · rw [System.move_phase_of_ne moved] at inside
      have different : (plan call).region ≠ (plan otherCall).region :=
        fun same => moved (alone other otherCall rest inside same.symm)
      rw [(layout.independent _ _ different).get_set]
      exact committed.inside other otherCall rest inside
  · intro region free
    change ∀ other otherCall rest, (system.move thread _).phase other = _ → _ at free
    by_cases same : (plan call).region = region
    · subst same
      exact ((layout.part (plan call).region).get_set _ _).symm
    · rw [(layout.independent _ _ same).get_set]
      apply committed.outside
      intro other otherCall rest inside
      by_cases moved : other = thread
      · subst moved
        rw [done] at inside
        cases inside
        exact same
      · apply free other otherCall rest
        rw [System.move_phase_of_ne moved]
        exact inside

end Committed

/-! ## Threads at rest -/

/-- Every call is answered, and all locks are given back. -/
def Finished (system : System Thread plan) : Prop :=
  ∀ thread, system.phase thread = .idle ∧ system.queue thread = []

theorem Finished.callsOf (finished : Finished system) (kept : CallsKept calls system)
    (thread : Thread) : Threads.callsOf thread system.history = calls thread := by
  rw [← kept thread, (finished thread).1, (finished thread).2]
  exact ((List.append_nil _).trans (List.append_nil _)).symm

omit [DecidableEq Thread] in
theorem Committed.shared_of_finished {state : State} (committed : Committed system state)
    (finished : Finished system) (region : Region) :
    (layout.part region).get system.shared = (layout.part region).get state := by
  apply committed.outside
  intro thread call rest inside
  rw [(finished thread).1] at inside
  cases inside

omit [DecidableEq Thread] in
theorem Committed.aborts {state : State} (committed : Committed system state) {call : Call}
    (failed : system.phase thread = .inside call .aborts) :
    Process.Aborts (plan call).perform state := by
  rw [CriticalSection.perform, Process.aborts_focus, Process.Aborts,
    committed.inside thread call _ failed]
  rfl

/-! ## Any order of the steps -/

variable [DecidableEq Lock]

/-- The answered calls one after the other, and what they leave. -/
def Serial (start : State) (system : System Thread plan) : Prop :=
  ∃ state, Answered (fun call => (plan call).perform) start (system.history.map (·.2)) state ∧
    Committed system state

theorem Serial.step {start : State} (serial : Serial start system) (locks : LocksHeld system)
    (kept : CallsKept calls system) (guarded : Guarded plan calls)
    (step : Step thread system next) : Serial start next := by
  rcases serial with ⟨state, answered, committed⟩
  cases step with
  | take call later idle first running =>
      have moved := committed.move (by rw [idle]; exact nofun)
        (.acquiring call [] (plan call).locks) nofun
      exact ⟨state, answered, moved.inside, moved.outside⟩
  | acquire call held lock wanted waiting free running =>
      have moved := committed.move (by rw [waiting]; exact nofun)
        (.acquiring call (lock :: held) wanted) nofun
      exact ⟨state, answered, moved.inside, moved.outside⟩
  | enter call held ready running =>
      have alone := alone_of_ready locks kept guarded ready
      exact ⟨state, answered, committed.enter (by rw [ready]; exact nofun) alone⟩
  | work call change later busy running =>
      exact ⟨state, answered, committed.work busy (alone_of_inside locks kept guarded busy)⟩
  | commit call answer done running =>
      rcases committed.commit done (alone_of_inside locks kept guarded done)
        (plan call).locks.reverse (system.history ++ [(thread, call, answer)]) with
        ⟨later, performed, after⟩
      refine ⟨later, ?_, after⟩
      change Answered _ _ ((system.history ++ [(thread, call, answer)]).map (·.2)) _
      rw [List.map_append]
      exact answered.snoc performed
  | abort call failed running => exact ⟨state, answered, committed.inside, committed.outside⟩
  | release lock held finished running =>
      have moved := committed.move (by rw [finished]; exact nofun) (.leaving held) nofun
      exact ⟨state, answered, moved.inside, moved.outside⟩
  | leave finished running =>
      exact ⟨state, answered, committed.move (by rw [finished]; exact nofun) .idle nofun⟩

/-- Whatever the order of the steps: the calls that are answered have been performed
as if one after the other. -/
theorem serial_of_reachable {start : State} (guarded : Guarded plan calls)
    (reachable : Reachable (.start plan start calls) system) : Serial start system := by
  induction reachable with
  | start => exact ⟨start, .nil, nofun, fun _ _ => rfl⟩
  | step earlier thread step induction =>
      exact induction.step (.of_reachable earlier) (.of_reachable earlier) guarded step

/-! ## The end of the process -/

/-- A thread that has ended the process is in a call that aborts. -/
theorem inside_of_aborted {start : State}
    (reachable : Reachable (.start plan start calls) system)
    (aborted : system.aborted = some thread) :
    ∃ call, system.phase thread = .inside call .aborts := by
  cases reachable with
  | start => cases aborted
  | step earlier other step =>
      cases step with
      | abort call failed running =>
          cases aborted
          exact ⟨call, failed⟩
      | take _ _ _ _ running => cases running.symm.trans aborted
      | acquire _ _ _ _ _ _ running => cases running.symm.trans aborted
      | enter _ _ _ running => cases running.symm.trans aborted
      | work _ _ _ _ running => cases running.symm.trans aborted
      | commit _ _ _ running => cases running.symm.trans aborted
      | release _ _ _ running => cases running.symm.trans aborted
      | leave _ running => cases running.symm.trans aborted

end

end

end Threads

end Capsrv
