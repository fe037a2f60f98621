import Mathlib.Data.Multiset.AddSub

/-! # Slot tables

A slot is used and holds an item, or is free; a slot that has been freed keeps
its item, which nothing looks at any more. Items go to the first free slot.
Seen from outside, a table is a multiset with room for as many items as it has
slots.
-/

namespace Capsrv

structure Slot (α : Type) where
  used : Bool
  item : α
deriving DecidableEq, Repr

namespace SlotTable

variable {α : Type}

/-- Whether there was a free slot, and the table with the item in it. -/
def insert (item : α) : List (Slot α) → Bool × List (Slot α)
  | [] => (false, [])
  | slot :: slots =>
      if slot.used then
        let rest := insert item slots
        (rest.1, slot :: rest.2)
      else (true, ⟨true, item⟩ :: slots)

/-- What the used slots hold. -/
def contents : List (Slot α) → Multiset α
  | [] => 0
  | slot :: slots => if slot.used then slot.item ::ₘ contents slots else contents slots

variable {item : α} {slot : Slot α} {slots : List (Slot α)}

theorem contents_cons_of_used (used : slot.used = true) :
    contents (slot :: slots) = slot.item ::ₘ contents slots := by
  rw [contents, if_pos used]

theorem contents_cons_of_free (free : slot.used = false) :
    contents (slot :: slots) = contents slots := by
  rw [contents, if_neg (by simp [free])]

theorem mem_contents_iff :
    item ∈ contents slots ↔ ∃ slot ∈ slots, slot.used = true ∧ slot.item = item := by
  induction slots with
  | nil => simp [contents]
  | cons slot slots induction =>
      rw [List.exists_mem_cons_iff]
      cases used : slot.used with
      | true =>
          rw [contents_cons_of_used used, Multiset.mem_cons, induction]
          exact or_congr_left ⟨fun same => ⟨rfl, same.symm⟩, fun holding => holding.2.symm⟩
      | false => simp [contents_cons_of_free used, induction]

theorem card_contents_le (slots : List (Slot α)) : (contents slots).card ≤ slots.length := by
  induction slots with
  | nil => exact Nat.le_refl 0
  | cons slot slots induction =>
      rw [List.length_cons]
      cases used : slot.used with
      | true =>
          rw [contents_cons_of_used used, Multiset.card_cons]
          omega
      | false =>
          rw [contents_cons_of_free used]
          omega

theorem contents_of_free (free : ∀ slot ∈ slots, slot.used = false) : contents slots = 0 := by
  induction slots with
  | nil => rfl
  | cons slot slots induction =>
      rw [contents_cons_of_free (free slot List.mem_cons_self)]
      exact induction fun other member => free other (List.mem_cons_of_mem slot member)

/-! ## Inserting -/

theorem insert_cons_of_used (item : α) (used : slot.used = true) :
    insert item (slot :: slots) = ((insert item slots).1, slot :: (insert item slots).2) := by
  rw [insert, if_pos used]

theorem insert_cons_of_free (item : α) (free : slot.used = false) :
    insert item (slot :: slots) = (true, ⟨true, item⟩ :: slots) := by
  rw [insert, if_neg (by simp [free])]

@[simp] theorem length_insert (item : α) (slots : List (Slot α)) :
    (insert item slots).2.length = slots.length := by
  induction slots with
  | nil => rfl
  | cons slot slots induction =>
      cases used : slot.used with
      | true => simp [insert_cons_of_used item used, induction]
      | false => simp [insert_cons_of_free item used]

/-- An insertion fails exactly in a full table. -/
theorem insert_eq_false_iff :
    (insert item slots).1 = false ↔ (contents slots).card = slots.length := by
  induction slots with
  | nil => exact iff_of_true rfl rfl
  | cons slot slots induction =>
      rw [List.length_cons]
      cases used : slot.used with
      | true =>
          rw [insert_cons_of_used item used, contents_cons_of_used used, Multiset.card_cons,
            induction]
          omega
      | false =>
          have bound := card_contents_le slots
          rw [insert_cons_of_free item used, contents_cons_of_free used]
          simp
          omega

theorem insert_of_full (full : (insert item slots).1 = false) :
    (insert item slots).2 = slots := by
  induction slots with
  | nil => rfl
  | cons slot slots induction =>
      cases used : slot.used with
      | true =>
          rw [insert_cons_of_used item used] at full ⊢
          rw [induction full]
      | false =>
          rw [insert_cons_of_free item used] at full
          cases full

theorem contents_insert (inserted : (insert item slots).1 = true) :
    contents (insert item slots).2 = item ::ₘ contents slots := by
  induction slots with
  | nil => cases inserted
  | cons slot slots induction =>
      cases used : slot.used with
      | true =>
          rw [insert_cons_of_used item used] at inserted ⊢
          rw [contents_cons_of_used used, contents_cons_of_used used, induction inserted,
            Multiset.cons_swap]
      | false =>
          rw [insert_cons_of_free item used, contents_cons_of_free used,
            contents_cons_of_used rfl]

/-! ## Erasing -/

section

variable [DecidableEq α]

/-- Whether a used slot held the item, and the table with the first such slot
freed. -/
def erase (item : α) : List (Slot α) → Bool × List (Slot α)
  | [] => (false, [])
  | slot :: slots =>
      if slot.used = true ∧ slot.item = item then (true, { slot with used := false } :: slots)
      else
        let rest := erase item slots
        (rest.1, slot :: rest.2)

def contains (item : α) (slots : List (Slot α)) : Bool :=
  slots.any fun slot => slot.used && decide (slot.item = item)

theorem erase_cons_of_holding (holding : slot.used = true ∧ slot.item = item) :
    erase item (slot :: slots) = (true, { slot with used := false } :: slots) := by
  rw [erase, if_pos holding]

theorem erase_cons_of_not (other : ¬ (slot.used = true ∧ slot.item = item)) :
    erase item (slot :: slots) = ((erase item slots).1, slot :: (erase item slots).2) := by
  rw [erase, if_neg other]

@[simp] theorem length_erase (item : α) (slots : List (Slot α)) :
    (erase item slots).2.length = slots.length := by
  induction slots with
  | nil => rfl
  | cons slot slots induction =>
      by_cases holding : slot.used = true ∧ slot.item = item
      · simp [erase_cons_of_holding holding]
      · simp [erase_cons_of_not holding, induction]

theorem erase_of_failed (failed : (erase item slots).1 = false) :
    (erase item slots).2 = slots := by
  induction slots with
  | nil => rfl
  | cons slot slots induction =>
      by_cases holding : slot.used = true ∧ slot.item = item
      · rw [erase_cons_of_holding holding] at failed
        cases failed
      · rw [erase_cons_of_not holding] at failed ⊢
        rw [induction failed]

theorem contains_iff : contains item slots = true ↔ item ∈ contents slots := by
  simp [contains, mem_contents_iff]

/-- An erasure succeeds exactly when the item is held. -/
theorem erase_eq_true_iff : (erase item slots).1 = true ↔ item ∈ contents slots := by
  induction slots with
  | nil => simp [erase, contents]
  | cons slot slots induction =>
      by_cases holding : slot.used = true ∧ slot.item = item
      · simp [erase_cons_of_holding holding, mem_contents_iff, holding]
      · rw [erase_cons_of_not holding, mem_contents_iff]
        simp only [List.exists_mem_cons_iff, holding, false_or, induction, mem_contents_iff]

/-- One copy of the item goes. -/
theorem contents_erase (slots : List (Slot α)) :
    contents (erase item slots).2 = (contents slots).erase item := by
  induction slots with
  | nil => rfl
  | cons slot slots induction =>
      by_cases holding : slot.used = true ∧ slot.item = item
      · rw [erase_cons_of_holding holding, contents_cons_of_free rfl,
          contents_cons_of_used holding.1, holding.2, Multiset.erase_cons_head]
      · rw [erase_cons_of_not holding]
        cases used : slot.used with
        | true =>
            have different : slot.item ≠ item := fun same => holding ⟨used, same⟩
            rw [contents_cons_of_used used, contents_cons_of_used used, induction,
              Multiset.erase_cons_tail _ different]
        | false => rw [contents_cons_of_free used, contents_cons_of_free used, induction]

end

end SlotTable

end Capsrv
