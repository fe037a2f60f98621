import Capsrv.Foundation.Process

/-! # Parts of a state

A state made of parts that are read and replaced one by one. A program on a part
is a program on the whole state that leaves the parts independent of it alone.
-/

namespace Capsrv

structure Part (σ τ : Type) where
  get : σ → τ
  set : τ → σ → σ
  get_set : ∀ value state, get (set value state) = value
  set_get : ∀ state, set (get state) state = state
  set_set : ∀ first second state, set second (set first state) = set second state

namespace Part

variable {σ τ υ α β : Type}

attribute [simp] get_set set_get set_set

/-- Neither part is seen from the other one. -/
structure Independent (part : Part σ τ) (other : Part σ υ) : Prop where
  get_set : ∀ value state, other.get (part.set value state) = other.get state
  set_comm : ∀ value otherValue state,
    other.set otherValue (part.set value state) = part.set value (other.set otherValue state)

theorem Independent.symm {part : Part σ τ} {other : Part σ υ}
    (independent : part.Independent other) : other.Independent part where
  get_set value state := by
    have read := part.get_set (part.get state) (other.set value state)
    rwa [← independent.set_comm, part.set_get] at read
  set_comm value otherValue state := (independent.set_comm otherValue value state).symm

def first : Part (τ × υ) τ where
  get := Prod.fst
  set value pair := (value, pair.2)
  get_set _ _ := rfl
  set_get _ := rfl
  set_set _ _ _ := rfl

def second : Part (τ × υ) υ where
  get := Prod.snd
  set value pair := (pair.1, value)
  get_set _ _ := rfl
  set_get _ := rfl
  set_set _ _ _ := rfl

/-- A program on the part. -/
def focus (part : Part σ τ) (process : Process τ α) : Process σ α := fun state =>
  ((process (part.get state)).1, part.set (process (part.get state)).2 state)

variable (part : Part σ τ)

@[simp] theorem focus_fst (process : Process τ α) (state : σ) :
    (part.focus process state).1 = (process (part.get state)).1 := rfl

@[simp] theorem get_focus (process : Process τ α) (state : σ) :
    part.get (part.focus process state).2 = (process (part.get state)).2 :=
  part.get_set _ _

/-- A program on the part that has returned has done so from what was there. -/
theorem exists_of_focus {process : Process τ α} {state next : σ} {value : α}
    (returned : part.focus process state = (some value, next)) :
    ∃ reached, process (part.get state) = (some value, reached) ∧
      next = part.set reached state :=
  ⟨_, Prod.ext (Prod.mk.inj returned).1 rfl, (Prod.mk.inj returned).2.symm⟩

theorem Independent.get_focus {part : Part σ τ} {other : Part σ υ}
    (independent : part.Independent other) (process : Process τ α) (state : σ) :
    other.get (part.focus process state).2 = other.get state :=
  independent.get_set _ _

@[simp] theorem focus_pure (value : α) : part.focus (pure value) = pure value := by
  funext state
  exact Prod.ext rfl (part.set_get state)

theorem focus_bind (process : Process τ α) (continuation : α → Process τ β) :
    part.focus (process >>= continuation) =
      part.focus process >>= fun value => part.focus (continuation value) := by
  funext state
  simp only [focus, Process.bind_apply]
  rcases process (part.get state) with ⟨_ | value, next⟩
  · rfl
  · simp

/-- What the program preserves of the part, it preserves of the state. -/
theorem preserves_focus {invariant : τ → Prop} {process : Process τ α}
    (kept : process.Preserves invariant) :
    (part.focus process).Preserves fun state => invariant (part.get state) := by
  intro state holds
  rw [get_focus]
  exact kept _ holds

/-- What holds of an independent part is none of the program's business. -/
theorem Independent.preserves_focus {part : Part σ τ} {other : Part σ υ}
    (independent : part.Independent other) (property : υ → Prop) (process : Process τ α) :
    (part.focus process).Preserves fun state => property (other.get state) := by
  intro state holds
  rw [independent.get_focus]
  exact holds

end Part

namespace Process

variable {σ α : Type}

/-- A function that returns a value and the next state. -/
def returning (function : σ → α × σ) : Process σ α := fun state =>
  (some (function state).1, (function state).2)

@[simp] theorem returning_apply (function : σ → α × σ) (state : σ) :
    returning function state = (some (function state).1, (function state).2) := rfl

/-- What a program does, without the value it returns. -/
def discard (process : Process σ α) : Process σ Unit :=
  process >>= fun _ => pure ()

theorem discard_snd (process : Process σ α) (state : σ) :
    (process.discard state).2 = (process state).2 := by
  rw [discard, bind_apply]
  rcases process state with ⟨_ | value, next⟩ <;> rfl

theorem discard_isSome (process : Process σ α) (state : σ) :
    (process.discard state).1.isSome = (process state).1.isSome := by
  rw [discard, bind_apply]
  rcases process state with ⟨_ | value, next⟩ <;> rfl

end Process

end Capsrv
