import Mathlib.Logic.Function.Basic
import Mathlib.Data.List.Count
import Capsrv.Foundation.Schedule

/-! # Stream ids

`StreamIdGenerator`, whose counter is loaded and stored by two atomic steps.
The sessions that share it can get in between, and then two calls return the
same id.
-/

namespace Capsrv

structure StreamId where
  c : UInt64
deriving DecidableEq, Repr

structure StreamIdGenerator where
  counter : UInt64
deriving DecidableEq, Repr

/-- `StreamIdGenerator::Initialize`. -/
def streamIdGeneratorInitialize : StreamIdGenerator := ⟨1⟩

namespace StreamIdGenerator

def invalidStreamId : StreamId := ⟨0⟩

/-- How far a call of `GenerateStreamId` has come. -/
inductive Progress where
  | waiting
  | loaded (value : UInt64)
  | returned (id : StreamId)
deriving DecidableEq, Repr

/-- The generator with the calls that are made of it. -/
structure Calls (Call : Type) where
  generator : StreamIdGenerator
  progress : Call → Progress

/-- The two atomic steps of `GenerateStreamId`. -/
inductive Access (Call : Type) where
  | load (call : Call)
  | store (call : Call)
deriving DecidableEq, Repr

namespace Access

variable {Call : Type}

def isLoad : Access Call → Bool
  | load _ => true
  | store _ => false

/-- The number of calls that a schedule begins. -/
def loads (accesses : List (Access Call)) : Nat :=
  accesses.countP isLoad

@[simp] theorem loads_nil : loads ([] : List (Access Call)) = 0 := rfl

@[simp] theorem loads_append_load (past : List (Access Call)) (call : Call) :
    loads (past ++ [load call]) = loads past + 1 := by
  rw [loads, List.countP_append]
  rfl

@[simp] theorem loads_append_store (past : List (Access Call)) (call : Call) :
    loads (past ++ [store call]) = loads past := by
  rw [loads, List.countP_append]
  rfl

end Access

namespace Calls

variable {Call : Type}

/-- After `Initialize`, before the first call. -/
def start : Calls Call where
  generator := streamIdGeneratorInitialize
  progress := fun _ => .waiting

/-- One step of `GenerateStreamId`. -/
def step [DecidableEq Call] (calls : Calls Call) : Access Call → Option (Calls Call)
  | .load call =>
      match calls.progress call with
      | .waiting => some { calls with
          progress := Function.update calls.progress call (.loaded calls.generator.counter) }
      | _ => none
  | .store call =>
      match calls.progress call with
      | .loaded value => some {
          generator := ⟨value + 1⟩
          progress := Function.update calls.progress call (.returned ⟨value⟩) }
      | _ => none

/-! ## What a step does -/

/-- A load notes the counter down. -/
structure Load (calls next : Calls Call) (call : Call) : Prop where
  waiting : calls.progress call = .waiting
  generator : next.generator = calls.generator
  loads : next.progress call = .loaded calls.generator.counter
  others : ∀ other, other ≠ call → next.progress other = calls.progress other

/-- A store moves the counter behind the value that was loaded, and the call
returns it. -/
structure Store (calls next : Calls Call) (call : Call) (value : UInt64) : Prop where
  loaded : calls.progress call = .loaded value
  counter : next.generator.counter = value + 1
  returns : next.progress call = .returned ⟨value⟩
  others : ∀ other, other ≠ call → next.progress other = calls.progress other

variable {calls next : Calls Call} {call : Call}

theorem load_of_step [DecidableEq Call] (taken : step calls (.load call) = some next) :
    Load calls next call := by
  rw [step] at taken
  split at taken
  · rename_i waiting
    cases taken
    exact ⟨waiting, rfl, Function.update_self .., fun other different =>
      Function.update_of_ne different ..⟩
  · cases taken

theorem store_of_step [DecidableEq Call] (taken : step calls (.store call) = some next) :
    ∃ value, Store calls next call value := by
  rw [step] at taken
  split at taken
  · rename_i value loaded
    cases taken
    exact ⟨value, loaded, rfl, Function.update_self .., fun other different =>
      Function.update_of_ne different ..⟩
  · cases taken

section

variable {other : Call} {value otherValue : UInt64} {id : StreamId}

theorem Load.loaded_cases (load : Load calls next call)
    (loaded : next.progress other = .loaded value) :
    other = call ∧ value = calls.generator.counter ∨ calls.progress other = .loaded value := by
  by_cases same : other = call
  · subst same
    cases load.loads.symm.trans loaded
    exact .inl ⟨rfl, rfl⟩
  · rw [load.others other same] at loaded
    exact .inr loaded

theorem Load.returned (load : Load calls next call)
    (returned : next.progress other = .returned id) : calls.progress other = .returned id := by
  by_cases same : other = call
  · subst same
    cases load.loads.symm.trans returned
  · rw [load.others other same] at returned
    exact returned

theorem Store.loaded_other (store : Store calls next call value)
    (loaded : next.progress other = .loaded otherValue) :
    other ≠ call ∧ calls.progress other = .loaded otherValue := by
  by_cases same : other = call
  · subst same
    cases store.returns.symm.trans loaded
  · rw [store.others other same] at loaded
    exact ⟨same, loaded⟩

theorem Store.returned_cases (store : Store calls next call value)
    (returned : next.progress other = .returned id) :
    other = call ∧ id = ⟨value⟩ ∨ calls.progress other = .returned id := by
  by_cases same : other = call
  · subst same
    cases store.returns.symm.trans returned
    exact .inl ⟨rfl, rfl⟩
  · rw [store.others other same] at returned
    exact .inr returned

end

/-! ## Calls one after the other -/

/-- A call does not load while another one is between its load and its store. -/
def LoadsAlone (calls : Calls Call) (access : Access Call) : Prop :=
  ∀ call, access = .load call → ∀ other value, calls.progress other ≠ .loaded value

/-- The ids returned so far are pairwise different, and none is the invalid one. -/
structure ValidIds (calls : Calls Call) : Prop where
  distinct : ∀ first second id, calls.progress first = .returned id →
    calls.progress second = .returned id → first = second
  valid : ∀ call, calls.progress call ≠ .returned invalidStreamId

/-- The ids returned so far are below the counter. At most one call has loaded
it, and the counter is still what this call has loaded. -/
structure Counted (past : List (Access Call)) (calls : Calls Call) : Prop where
  first : 1 ≤ calls.generator.counter.toNat
  last : calls.generator.counter.toNat ≤ Access.loads past + 1
  current : ∀ call value, calls.progress call = .loaded value →
    value = calls.generator.counter ∧ value.toNat ≤ Access.loads past
  single : ∀ call other value otherValue, calls.progress call = .loaded value →
    calls.progress other = .loaded otherValue → call = other
  returned : ∀ call id, calls.progress call = .returned id →
    1 ≤ id.c.toNat ∧ id.c.toNat < calls.generator.counter.toNat
  distinct : ∀ call other id, calls.progress call = .returned id →
    calls.progress other = .returned id → call = other

theorem counted_start : Counted [] (start : Calls Call) where
  first := Nat.le_refl 1
  last := Nat.le_refl 1
  current call value loaded := by cases loaded
  single call other value otherValue loaded := by cases loaded
  returned call id returned := by cases returned
  distinct call other id returned := by cases returned

theorem Counted.validIds {past : List (Access Call)} (counted : Counted past calls) :
    ValidIds calls where
  distinct := counted.distinct
  valid call returned := absurd (counted.returned call _ returned).1 (by decide)

section

variable {past : List (Access Call)} {value : UInt64}

/-- A load that is alone. -/
theorem Counted.load (counted : Counted past calls)
    (alone : ∀ other value, calls.progress other ≠ .loaded value) (load : Load calls next call) :
    Counted (past ++ [.load call]) next := by
  have only : ∀ other value, next.progress other = .loaded value →
      other = call ∧ value = calls.generator.counter := fun other value loaded =>
    (load.loaded_cases loaded).resolve_right (alone other value)
  constructor
  · rw [load.generator]
    exact counted.first
  · rw [load.generator, Access.loads_append_load]
    exact Nat.le_succ_of_le counted.last
  · intro other value loaded
    rcases only other value loaded with ⟨rfl, rfl⟩
    rw [load.generator, Access.loads_append_load]
    exact ⟨rfl, counted.last⟩
  · intro first second value otherValue loaded otherLoaded
    rw [(only first value loaded).1, (only second otherValue otherLoaded).1]
  · intro other id returned
    rw [load.generator]
    exact counted.returned other id (load.returned returned)
  · intro first second id returned otherReturned
    exact counted.distinct first second id (load.returned returned) (load.returned otherReturned)

/-- A store, as long as the counter does not wrap around. -/
theorem Counted.store (counted : Counted past calls)
    (few : Access.loads past < UInt64.size - 1) (store : Store calls next call value) :
    Counted (past ++ [.store call]) next := by
  rcases counted.current call value store.loaded with ⟨current, bound⟩
  have counter : next.generator.counter.toNat = value.toNat + 1 := by
    have below : value.toNat + 1 < UInt64.size := by omega
    rw [store.counter, UInt64.toNat_add]
    exact Nat.mod_eq_of_lt below
  have none : ∀ other value, next.progress other ≠ .loaded value := by
    intro other otherValue loaded
    rcases store.loaded_other loaded with ⟨different, earlier⟩
    exact different (counted.single other call otherValue value earlier store.loaded)
  -- The id is the counter so far, and the earlier ones are below it.
  have fresh : ∀ other id, calls.progress other = .returned id → id ≠ ⟨value⟩ := by
    intro other id returned same
    have below := (counted.returned other id returned).2
    rw [same, current] at below
    exact Nat.lt_irrefl _ below
  have least := counted.first
  rw [← current] at least
  constructor
  · omega
  · rw [counter, Access.loads_append_store]
    omega
  · intro other otherValue loaded
    exact absurd loaded (none other otherValue)
  · intro first second firstValue secondValue loaded
    exact absurd loaded (none first firstValue)
  · intro other id returned
    rw [counter]
    rcases store.returned_cases returned with ⟨rfl, rfl⟩ | earlier
    · exact ⟨least, Nat.lt_succ_self _⟩
    · have bounds := counted.returned other id earlier
      rw [← current] at bounds
      exact ⟨bounds.1, Nat.lt_succ_of_lt bounds.2⟩
  · intro first second id returned otherReturned
    rcases store.returned_cases returned with ⟨rfl, rfl⟩ | earlier
    · rcases store.returned_cases otherReturned with ⟨rfl, -⟩ | otherEarlier
      · rfl
      · exact absurd rfl (fresh second _ otherEarlier)
    · rcases store.returned_cases otherReturned with ⟨rfl, rfl⟩ | otherEarlier
      · exact absurd rfl (fresh first _ earlier)
      · exact counted.distinct first second id earlier otherEarlier

end

/-- One step of a call that does not load while another one has loaded. -/
theorem Counted.step [DecidableEq Call] {past : List (Access Call)} {access : Access Call}
    (counted : Access.loads past < UInt64.size - 1 → Counted past calls)
    (alone : LoadsAlone calls access) (taken : step calls access = some next)
    (few : Access.loads (past ++ [access]) < UInt64.size - 1) :
    Counted (past ++ [access]) next := by
  cases access with
  | load call =>
      rw [Access.loads_append_load] at few
      exact (counted (by omega)).load (alone call rfl) (load_of_step taken)
  | store call =>
      rw [Access.loads_append_store] at few
      rcases store_of_step taken with ⟨value, store⟩
      exact (counted few).store few store

/-- Calls one after the other keep the counter ahead of their ids. -/
theorem counted_of_meets [DecidableEq Call] {accesses : List (Access Call)}
    (meets : Schedule.Meets step LoadsAlone accesses start)
    (ran : Schedule.run step accesses start = some calls)
    (few : Access.loads accesses < UInt64.size - 1) : Counted accesses calls :=
  Schedule.history_of_meets
    (fun past calls => Access.loads past < UInt64.size - 1 → Counted past calls)
    (fun _ _ _ _ counted alone taken => Counted.step counted alone taken)
    (fun _ => counted_start) meets ran few

/-! ## Calls that overlap -/

/-- A call that has loaded a value and may have returned it. -/
def Holds (value : UInt64) (call : Call) (calls : Calls Call) : Prop :=
  calls.progress call = .loaded value ∨ calls.progress call = .returned ⟨value⟩

/-- A call keeps its value whatever is done next. -/
theorem Holds.step [DecidableEq Call] {value : UInt64} {access : Access Call}
    (holds : Holds value call calls) (taken : step calls access = some next) :
    Holds value call next := by
  cases access with
  | load other =>
      have load := load_of_step taken
      have different : call ≠ other := by
        rintro rfl
        rcases holds with loaded | returned
        · cases load.waiting.symm.trans loaded
        · cases load.waiting.symm.trans returned
      rw [Holds, load.others call different]
      exact holds
  | store other =>
      rcases store_of_step taken with ⟨otherValue, store⟩
      by_cases same : call = other
      · subst same
        rcases holds with loaded | returned
        · cases store.loaded.symm.trans loaded
          exact .inr store.returns
        · cases store.loaded.symm.trans returned
      · rw [Holds, store.others call same]
        exact holds

/-- No call is between its load and its store. -/
def Finished (calls : Calls Call) : Prop :=
  ∀ call value, calls.progress call ≠ .loaded value

theorem Holds.returned {value : UInt64} (holds : Holds value call calls)
    (finished : Finished calls) : calls.progress call = .returned ⟨value⟩ :=
  holds.resolve_left (finished call value)

/-- Two calls that have loaded one value return one id. -/
theorem not_validIds_of_holds {value : UInt64} {other : Call} (different : call ≠ other)
    (holds : Holds value call calls) (otherHolds : Holds value other calls)
    (finished : Finished calls) : ¬ ValidIds calls := by
  intro valid
  apply different
  exact valid.distinct call other ⟨value⟩ (holds.returned finished) (otherHolds.returned finished)

/-- The first call that overlaps another one loads what that one has loaded. -/
theorem meets_of_validIds [DecidableEq Call] {accesses : List (Access Call)}
    (ran : Schedule.run step accesses start = some calls)
    (few : Access.loads accesses < UInt64.size - 1) (finished : Finished calls)
    (valid : ValidIds calls) : Schedule.Meets step LoadsAlone accesses start := by
  by_contra overlaps
  rcases Schedule.exists_firstFailure ran overlaps with
    ⟨before, after, access, middle, next, first⟩
  have fewBefore : Access.loads before < UInt64.size - 1 := by
    have parts := congrArg Access.loads first.actions
    rw [Access.loads, Access.loads, List.countP_append] at parts
    unfold Access.loads at few ⊢
    omega
  have counted := counted_of_meets first.meets first.earlier fewBefore
  have failing : ∃ call, access = .load call ∧ ∃ other value,
      middle.progress other = .loaded value := by
    by_contra none
    apply first.fails
    intro call isLoad other value loaded
    exact none ⟨call, isLoad, other, value, loaded⟩
  rcases failing with ⟨call, rfl, other, value, loaded⟩
  have load := load_of_step first.taken
  have different : other ≠ call := by
    rintro rfl
    cases load.waiting.symm.trans loaded
  have current := (counted.current other value loaded).1
  have holds : Holds value call next := by
    rw [current]
    exact .inl load.loads
  have otherHolds : Holds value other next := by
    rw [Holds, load.others other different]
    exact .inl loaded
  have kept : ∀ call, Holds value call next → Holds value call calls := fun call holds =>
    Schedule.invariant_of_run (Holds value call)
      (fun _ _ _ holds taken => Holds.step holds taken) holds first.later
  exact not_validIds_of_holds different (kept other otherHolds) (kept call holds) finished valid

end Calls

/-- In every schedule of fewer than 2 ^ 64 - 1 calls the ids are valid as long as
no call loads between the load and the store of another one; and when all calls
have returned, the ids are valid only then. -/
theorem validIds_iff {Call : Type} [DecidableEq Call] (accesses : List (Access Call))
    (calls : Calls Call) (ran : Schedule.run Calls.step accesses Calls.start = some calls)
    (few : Access.loads accesses < UInt64.size - 1) :
    (Schedule.Meets Calls.step Calls.LoadsAlone accesses Calls.start → calls.ValidIds) ∧
      (calls.Finished → calls.ValidIds →
        Schedule.Meets Calls.step Calls.LoadsAlone accesses Calls.start) :=
  ⟨fun alone => (Calls.counted_of_meets alone ran few).validIds,
    fun finished valid => Calls.meets_of_validIds ran few finished valid⟩

/-- Two calls, the second of which loads before the first one stores. -/
def overlappingCalls : List (Access Bool) :=
  [.load false, .load true, .store false, .store true]

/-- Both calls return the id 1. -/
theorem not_validIds_overlappingCalls :
    ¬ (∀ (accesses : List (Access Bool)) (calls : Calls Bool),
      Schedule.run Calls.step accesses Calls.start = some calls →
      Access.loads accesses < UInt64.size - 1 → calls.ValidIds) := by
  intro always
  have valid := always overlappingCalls _ rfl (by decide)
  exact absurd (valid.distinct false true ⟨1⟩ rfl rfl) (by decide)

/-- Two calls, one after the other. -/
def consecutiveCalls : List (Access Bool) :=
  [.load false, .store false, .load true, .store true]

theorem loadsAlone_consecutiveCalls :
    Schedule.Meets Calls.step Calls.LoadsAlone consecutiveCalls Calls.start := by
  have store : ∀ (calls : Calls Bool) call, Calls.LoadsAlone calls (.store call) := by
    intro calls call other isLoad
    cases isLoad
  refine ⟨?_, ?_⟩
  · intro call _ other value loaded
    cases loaded
  rintro _ ⟨⟩
  refine ⟨store _ _, ?_⟩
  rintro _ ⟨⟩
  refine ⟨?_, ?_⟩
  · intro call _ other value loaded
    cases other <;> cases loaded
  rintro _ ⟨⟩
  refine ⟨store _ _, ?_⟩
  rintro _ ⟨⟩
  trivial

theorem validIds_iff_consecutiveCalls :
    ∃ calls, Schedule.run Calls.step consecutiveCalls Calls.start = some calls ∧
      calls.ValidIds :=
  ⟨_, rfl, (validIds_iff consecutiveCalls _ rfl (by decide)).1 loadsAlone_consecutiveCalls⟩

end StreamIdGenerator

end Capsrv
