import Mathlib.Logic.Function.Basic
import Mathlib.Data.List.Basic

/-! # Programs over a table

A program over a table of slots, with every access explicit: it is done, or it
reads a slot and continues with what is found there, or it writes one. Slots are
numbered without a bound, so that an access behind the end of a table is an
access like any other.
-/

namespace Capsrv

inductive TableProgram (σ α : Type) where
  | done (value : α)
  | read (index : Nat) (next : σ → TableProgram σ α)
  | write (index : Nat) (item : σ) (next : TableProgram σ α)

namespace TableProgram

variable {σ α β ι : Type}

def run : TableProgram σ α → (Nat → σ) → α × (Nat → σ)
  | .done value, table => (value, table)
  | .read index next, table => (next (table index)).run table
  | .write index item next, table => next.run (Function.update table index item)

/-- The slots accessed, in order. -/
def accesses : TableProgram σ α → (Nat → σ) → List Nat
  | .done _, _ => []
  | .read index next, table => index :: (next (table index)).accesses table
  | .write index item next, table => index :: next.accesses (Function.update table index item)

protected def bind : TableProgram σ α → (α → TableProgram σ β) → TableProgram σ β
  | .done value, continuation => continuation value
  | .read index next, continuation => .read index fun item => (next item).bind continuation
  | .write index item next, continuation => .write index item (next.bind continuation)

instance : Monad (TableProgram σ) where
  pure := .done
  bind := TableProgram.bind

def get (index : Nat) : TableProgram σ σ :=
  .read index .done

def set (index : Nat) (item : σ) : TableProgram σ Unit :=
  .write index item (.done ())

variable {table : Nat → σ}

@[simp] theorem run_pure (value : α) :
    (pure value : TableProgram σ α).run table = (value, table) := rfl

@[simp] theorem run_get (index : Nat) : (get index).run table = (table index, table) := rfl

@[simp] theorem run_set (index : Nat) (item : σ) :
    (set index item).run table = ((), Function.update table index item) := rfl

@[simp] theorem run_bind (program : TableProgram σ α) (continuation : α → TableProgram σ β) :
    (program >>= continuation).run table =
      (continuation (program.run table).1).run (program.run table).2 := by
  induction program generalizing table with
  | done value => rfl
  | read index next induction => exact induction (table index)
  | write index item next induction => exact induction

@[simp] theorem run_ite (condition : Prop) [Decidable condition]
    (first second : TableProgram σ α) :
    (if condition then first else second).run table =
      if condition then first.run table else second.run table := by
  split <;> rfl

theorem accesses_bind (program : TableProgram σ α) (continuation : α → TableProgram σ β) :
    (program >>= continuation).accesses table =
      program.accesses table ++
        (continuation (program.run table).1).accesses (program.run table).2 := by
  induction program generalizing table with
  | done value => rfl
  | read index next induction => exact congrArg (index :: ·) (induction (table index))
  | write index item next induction => exact congrArg (index :: ·) induction

/-! ## Accesses inside the table -/

/-- Only the first `count` slots are accessed. -/
def Inside (program : TableProgram σ α) (table : Nat → σ) (count : Nat) : Prop :=
  ∀ index ∈ program.accesses table, index < count

variable {count : Nat}

@[simp] theorem inside_pure (value : α) :
    (pure value : TableProgram σ α).Inside table count := by
  intro index accessed
  cases accessed

@[simp] theorem inside_get (index : Nat) : (get index).Inside table count ↔ index < count :=
  List.forall_mem_singleton

@[simp] theorem inside_set (index : Nat) (item : σ) :
    (set index item).Inside table count ↔ index < count :=
  List.forall_mem_singleton

@[simp] theorem inside_bind (program : TableProgram σ α) (continuation : α → TableProgram σ β) :
    (program >>= continuation).Inside table count ↔
      program.Inside table count ∧
        (continuation (program.run table).1).Inside (program.run table).2 count := by
  rw [Inside, accesses_bind, List.forall_mem_append]
  rfl

@[simp] theorem inside_ite (condition : Prop) [Decidable condition]
    (first second : TableProgram σ α) :
    (if condition then first else second).Inside table count ↔
      (condition → first.Inside table count) ∧ (¬ condition → second.Inside table count) := by
  by_cases holds : condition <;> simp [holds]

/-! ## Loops -/

/-- One program after the other, for each item. -/
def forEach (body : ι → TableProgram σ Unit) : List ι → TableProgram σ Unit
  | [] => pure ()
  | item :: items => do
      body item
      forEach body items

variable (body : ι → TableProgram σ Unit)

/-- The last turn of a loop finds the table that the turns before it have left. -/
theorem inside_forEach_append_singleton (items : List ι) (last : ι) :
    (forEach body (items ++ [last])).Inside table count ↔
      (forEach body items).Inside table count ∧
        (body last).Inside ((forEach body items).run table).2 count := by
  induction items generalizing table with
  | nil => simp [forEach]
  | cons item items induction =>
      rw [List.cons_append, forEach, forEach, inside_bind, inside_bind, induction, run_bind,
        and_assoc]

theorem run_forEach_append_singleton (items : List ι) (last : ι) :
    ((forEach body (items ++ [last])).run table).2 =
      ((body last).run ((forEach body items).run table).2).2 := by
  induction items generalizing table with
  | nil => rw [List.nil_append, forEach, forEach, run_bind, forEach, run_pure, run_pure]
  | cons item items induction =>
      rw [List.cons_append, forEach, forEach, run_bind, run_bind, induction]

end TableProgram

end Capsrv
