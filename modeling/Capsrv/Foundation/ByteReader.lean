import Mathlib.Algebra.Group.Nat.Defs
import Mathlib.Data.List.Basic

/-! # Programs that read bytes

A program over a byte memory, with every access explicit: it is done, or it
names an address and continues with the byte found there. Nothing else lets it
look at the memory, so the addresses `reads` lists are all it can depend on.
-/

namespace Capsrv

abbrev Memory := Nat → UInt8

inductive ByteReader (α : Type) where
  | done (value : α)
  | read (address : Nat) (next : UInt8 → ByteReader α)

namespace ByteReader

variable {α β σ : Type}

def run : ByteReader α → Memory → α
  | .done value, _ => value
  | .read address next, memory => (next (memory address)).run memory

/-- The addresses accessed, in order. -/
def reads : ByteReader α → Memory → List Nat
  | .done _, _ => []
  | .read address next, memory => address :: (next (memory address)).reads memory

protected def bind : ByteReader α → (α → ByteReader β) → ByteReader β
  | .done value, continuation => continuation value
  | .read address next, continuation =>
      .read address fun byte => (next byte).bind continuation

instance : Monad ByteReader where
  pure := .done
  bind := ByteReader.bind

@[simp] theorem run_pure (value : α) (memory : Memory) :
    (pure value : ByteReader α).run memory = value := rfl

@[simp] theorem reads_pure (value : α) (memory : Memory) :
    (pure value : ByteReader α).reads memory = [] := rfl

@[simp] theorem run_bind (reader : ByteReader α) (continuation : α → ByteReader β)
    (memory : Memory) :
    (reader >>= continuation).run memory =
      (continuation (reader.run memory)).run memory := by
  induction reader with
  | done value => rfl
  | read address next induction => exact induction (memory address)

@[simp] theorem reads_bind (reader : ByteReader α) (continuation : α → ByteReader β)
    (memory : Memory) :
    (reader >>= continuation).reads memory =
      reader.reads memory ++ (continuation (reader.run memory)).reads memory := by
  induction reader with
  | done value => rfl
  | read address next induction =>
      exact congrArg (address :: ·) (induction (memory address))

instance : LawfulMonad ByteReader := LawfulMonad.mk' ByteReader
  (by
    intro _ reader
    change reader.bind (.done ∘ id) = reader
    induction reader with
    | done value => rfl
    | read address next induction =>
        exact congrArg (ByteReader.read address) (funext induction))
  (fun _ _ => rfl)
  (by
    intro _ _ _ reader first second
    change (reader.bind first).bind second = reader.bind fun value => (first value).bind second
    induction reader with
    | done value => rfl
    | read address next induction =>
        exact congrArg (ByteReader.read address) (funext induction))

@[simp] theorem run_map (transform : α → β) (reader : ByteReader α) (memory : Memory) :
    (transform <$> reader).run memory = transform (reader.run memory) := by
  rw [map_eq_pure_bind, run_bind, run_pure]

@[simp] theorem reads_map (transform : α → β) (reader : ByteReader α) (memory : Memory) :
    (transform <$> reader).reads memory = reader.reads memory := by
  rw [map_eq_pure_bind, reads_bind, reads_pure, List.append_nil]

@[simp] theorem run_ite (condition : Prop) [Decidable condition] (first second : ByteReader α)
    (memory : Memory) :
    (if condition then first else second).run memory =
      if condition then first.run memory else second.run memory := by
  split <;> rfl

@[simp] theorem reads_ite (condition : Prop) [Decidable condition] (first second : ByteReader α)
    (memory : Memory) :
    (if condition then first else second).reads memory =
      if condition then first.reads memory else second.reads memory := by
  split <;> rfl

theorem bind_ite (condition : Prop) [Decidable condition] (first second : ByteReader α)
    (continuation : α → ByteReader β) :
    (if condition then first else second) >>= continuation =
      if condition then first >>= continuation else second >>= continuation := by
  split <;> rfl

/-! ## Bytes -/

def byte (address : Nat) : ByteReader UInt8 :=
  .read address .done

@[simp] theorem run_byte (address : Nat) (memory : Memory) :
    (byte address).run memory = memory address := rfl

@[simp] theorem reads_byte (address : Nat) (memory : Memory) :
    (byte address).reads memory = [address] := rfl

/-- The `count` bytes from `address` on. -/
def bytes (address : Nat) : (count : Nat) → ByteReader (List UInt8)
  | 0 => pure []
  | count + 1 => do
      let first ← byte address
      let rest ← bytes (address + 1) count
      return first :: rest

@[simp] theorem run_bytes (address count : Nat) (memory : Memory) :
    (bytes address count).run memory = (List.range' address count).map memory := by
  induction count generalizing address with
  | zero => rfl
  | succ count induction => simp [bytes, induction, List.range'_succ]

@[simp] theorem reads_bytes (address count : Nat) (memory : Memory) :
    (bytes address count).reads memory = List.range' address count := by
  induction count generalizing address with
  | zero => rfl
  | succ count induction => simp [bytes, induction, List.range'_succ]

/-! ## Accesses inside a range -/

/-- Every byte the program reads from `memory` has an address in
`[start, stop)`. -/
def Within (reader : ByteReader α) (memory : Memory) (start stop : Nat) : Prop :=
  ∀ address ∈ reader.reads memory, start ≤ address ∧ address < stop

variable {memory : Memory} {start stop : Nat}

@[simp] theorem within_pure (value : α) :
    (pure value : ByteReader α).Within memory start stop := by
  simp [Within]

@[simp] theorem within_bind (reader : ByteReader α)
    (continuation : α → ByteReader β) :
    (reader >>= continuation).Within memory start stop ↔
      reader.Within memory start stop ∧
        (continuation (reader.run memory)).Within memory start stop := by
  simp only [Within, reads_bind, List.forall_mem_append]

@[simp] theorem within_map (transform : α → β) (reader : ByteReader α) :
    (transform <$> reader).Within memory start stop ↔
      reader.Within memory start stop := by
  simp [Within]

@[simp] theorem within_ite (condition : Prop) [Decidable condition]
    (first second : ByteReader α) :
    (if condition then first else second).Within memory start stop ↔
      (condition → first.Within memory start stop) ∧
        (¬ condition → second.Within memory start stop) := by
  by_cases holds : condition <;> simp [holds]

@[simp] theorem within_byte (address : Nat) :
    (byte address).Within memory start stop ↔ start ≤ address ∧ address < stop := by
  simp [Within]

theorem within_bytes (address : Nat) {count : Nat} (positive : 0 < count) :
    (bytes address count).Within memory start stop ↔
      start ≤ address ∧ address + count ≤ stop := by
  simp only [Within, reads_bytes, List.mem_range'_1]
  constructor
  · intro inside
    have first := inside address ⟨Nat.le_refl _, by omega⟩
    have last := inside (address + count - 1) ⟨by omega, by omega⟩
    omega
  · intro bounds other position
    omega

theorem run_foldlM_range_succ (body : σ → Nat → ByteReader σ) (initial : σ) (count : Nat) :
    ((List.range (count + 1)).foldlM body initial).run memory =
      (body (((List.range count).foldlM body initial).run memory) count).run memory := by
  rw [List.range_succ, List.foldlM_append, run_bind]
  simp only [List.foldlM_cons, List.foldlM_nil, bind_pure]

/-- The accesses of a counted loop are those of each iteration, started from
the state that the iterations before it left. -/
theorem within_foldlM_range (body : σ → Nat → ByteReader σ) (initial : σ) (count : Nat) :
    ((List.range count).foldlM body initial).Within memory start stop ↔
      ∀ index < count,
        (body (((List.range index).foldlM body initial).run memory) index).Within
          memory start stop := by
  induction count with
  | zero => simp
  | succ count induction =>
      rw [List.range_succ, List.foldlM_append, within_bind, induction]
      simp only [List.foldlM_cons, List.foldlM_nil, bind_pure]
      constructor
      · intro inside index below
        rcases Nat.lt_succ_iff_lt_or_eq.mp below with earlier | last
        · exact inside.1 index earlier
        · exact last ▸ inside.2
      · intro inside
        exact ⟨fun index below => inside index (by omega), inside count (by omega)⟩

end ByteReader

end Capsrv
