import Capsrv.Foundation.ByteReader

/-! # Loading and storing ranges of bytes

A store changes the bytes of its own range and no others. A step that stays
inside the range it is given can be repeated along a buffer, each time on the
next element.
-/

namespace Capsrv

namespace Memory

variable {size : Nat}

/-- The bytes from an address on. -/
def load (memory : Memory) (address : Nat) : Fin size → UInt8 :=
  fun index => memory (address + index.val)

def store (memory : Memory) (address : Nat) (bytes : Fin size → UInt8) : Memory :=
  fun other =>
    if inside : address ≤ other ∧ other < address + size then
      bytes ⟨other - address, Nat.sub_lt_left_of_lt_add inside.1 inside.2⟩
    else memory other

/-- Two ranges without a common address. -/
def Apart (first firstSize second secondSize : Nat) : Prop :=
  first + firstSize ≤ second ∨ second + secondSize ≤ first

variable (memory : Memory) (address : Nat) (bytes : Fin size → UInt8)

theorem store_inside (index : Fin size) :
    memory.store address bytes (address + index.val) = bytes index := by
  have inside : address ≤ address + index.val ∧ address + index.val < address + size :=
    ⟨by omega, by omega⟩
  rw [store, dif_pos inside]
  congr 1
  exact Fin.ext (by simp)

theorem store_outside {other : Nat} (outside : other < address ∨ address + size ≤ other) :
    memory.store address bytes other = memory other := by
  rw [store, dif_neg (by omega)]

@[simp] theorem load_store : (memory.store address bytes).load address = bytes := by
  funext index
  exact store_inside memory address bytes index

/-- Storing what is there already. -/
@[simp] theorem store_load :
    memory.store address (memory.load address : Fin size → UInt8) = memory := by
  funext other
  by_cases inside : address ≤ other ∧ other < address + size
  · rw [store, dif_pos inside, load]
    congr 1
    exact Nat.add_sub_of_le inside.1
  · rw [store, dif_neg inside]

theorem load_store_of_apart {other otherSize : Nat} (apart : Apart other otherSize address size) :
    ((memory.store address bytes).load other : Fin otherSize → UInt8) = memory.load other := by
  funext index
  exact store_outside memory address bytes (by unfold Apart at apart; omega)

/-! ## Ranges inside ranges -/

/-- Unchanged outside a range. -/
def SameOutside (first second : Memory) (start length : Nat) : Prop :=
  ∀ other, other < start ∨ start + length ≤ other → second other = first other

namespace SameOutside

variable {first second third : Memory} {start length : Nat}

theorem refl (memory : Memory) : SameOutside memory memory start length :=
  fun _ _ => rfl

theorem trans (earlier : SameOutside first second start length)
    (later : SameOutside second third start length) : SameOutside first third start length := by
  intro other outside
  rw [later other outside, earlier other outside]

/-- A store inside the range. -/
theorem store (same : SameOutside first second start length) {address : Nat}
    (above : start ≤ address) (below : address + size ≤ start + length)
    (bytes : Fin size → UInt8) :
    SameOutside first (second.store address bytes) start length := by
  intro other outside
  rw [store_outside second address bytes (by omega)]
  exact same other outside

theorem load (same : SameOutside first second start length) {address : Nat}
    (apart : Apart address size start length) :
    (second.load address : Fin size → UInt8) = first.load address := by
  funext index
  exact same (address + index.val) (by unfold Apart at apart; omega)

end SameOutside

end Memory

end Capsrv
