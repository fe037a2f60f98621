import Mathlib.Data.List.Nodup
import Mathlib.Data.List.Perm.Subperm
import Mathlib.Data.Nat.ModEq

/-! # Numbering

Values with numbers that tell how often they have come before, up to a period. The
numbers of a value begin where the value says.
-/

namespace Capsrv

/-! ## Numbers that come back -/

theorem nodup_range_mod_iff {period : Nat} (positive : 0 < period) (start count : Nat) :
    ((List.range count).map fun index => (start + index) % period).Nodup ↔ count ≤ period := by
  constructor
  · intro distinct
    have small : ((List.range count).map fun index => (start + index) % period) ⊆
        List.range period := by
      intro number member
      rcases List.mem_map.mp member with ⟨index, -, rfl⟩
      exact List.mem_range.mpr (Nat.mod_lt _ positive)
    have fewer := (List.subperm_of_subset distinct small).length_le
    rwa [List.length_map, List.length_range, List.length_range] at fewer
  · intro few
    apply List.Nodup.map_on _ List.nodup_range
    intro index inside other otherInside same
    rw [List.mem_range] at inside otherInside
    have congruent : index ≡ other [MOD period] := Nat.ModEq.add_left_cancel' start same
    exact congruent.eq_of_lt_of_lt (by omega) (by omega)

/-- A list of pairs is without repetition when it is for each first component. -/
theorem nodup_iff_filter_fst {α β : Type} [DecidableEq α] [DecidableEq β] (pairs : List (α × β)) :
    pairs.Nodup ↔ ∀ value, (pairs.filter fun pair => pair.1 = value).Nodup := by
  constructor
  · exact fun distinct value => distinct.filter _
  · intro distinct
    apply List.nodup_iff_count_le_one.mpr
    intro pair
    have once := List.nodup_iff_count_le_one.mp (distinct pair.1) pair
    rwa [List.count_filter (by simp)] at once

/-- Two ways to read a list that tell the same entries apart. -/
theorem nodup_map_congr {α β γ : Type} {first : α → β} {second : α → γ} {entries : List α}
    (agree : ∀ entry ∈ entries, ∀ other ∈ entries,
      first entry = first other ↔ second entry = second other) :
    (entries.map first).Nodup ↔ (entries.map second).Nodup := by
  rw [List.Nodup, List.Nodup, List.pairwise_map, List.pairwise_map]
  apply List.Pairwise.iff_of_mem
  intro entry other member otherMember
  exact not_congr (agree entry member other otherMember)

/-! ## Numbered values -/

section

variable {α : Type} [DecidableEq α] (first : α → Nat) (period : Nat)

/-- The number of a value that comes after others. -/
def numberAfter (earlier : List α) (value : α) : Nat :=
  (first value + earlier.count value) % period

def numberedAfter (earlier : List α) : List α → List (α × Nat)
  | [] => []
  | value :: values =>
      (value, numberAfter first period earlier value) :: numberedAfter (earlier ++ [value]) values

/-- The values with their numbers. -/
def numbered (values : List α) : List (α × Nat) :=
  numberedAfter first period [] values

theorem numberedAfter_snoc (earlier values : List α) (value : α) :
    numberedAfter first period earlier (values ++ [value]) =
      numberedAfter first period earlier values ++
        [(value, numberAfter first period (earlier ++ values) value)] := by
  induction values generalizing earlier with
  | nil =>
      rw [List.append_nil]
      rfl
  | cons head values induction =>
      rw [List.cons_append, numberedAfter, numberedAfter, induction, List.append_assoc,
        List.singleton_append, List.cons_append]

theorem numbered_snoc (values : List α) (value : α) :
    numbered first period (values ++ [value]) =
      numbered first period values ++ [(value, numberAfter first period values value)] := by
  rw [numbered, numberedAfter_snoc, List.nil_append]
  rfl

theorem filter_numberedAfter (earlier values : List α) (value : α) :
    (numberedAfter first period earlier values).filter (fun pair => pair.1 = value) =
      (List.range (values.count value)).map fun index =>
        (value, (first value + earlier.count value + index) % period) := by
  induction values generalizing earlier with
  | nil => rfl
  | cons head values induction =>
      rw [numberedAfter]
      by_cases same : head = value
      · subst same
        rw [List.filter_cons_of_pos (by simp), induction, List.count_cons_self,
          List.range_succ_eq_map, List.map_cons, List.map_map, List.count_append,
          List.count_singleton_self]
        congr 1
        apply List.map_congr_left
        intro index _
        have sum : first head + (earlier.count head + 1) + index =
            first head + earlier.count head + (index + 1) := by omega
        rw [sum]
        rfl
      · rw [List.filter_cons_of_neg (by simpa using same), induction,
          List.count_cons_of_ne same, List.count_append, List.count_singleton,
          if_neg (by simpa using same), Nat.add_zero]

/-- The numbers tell the values apart exactly when none comes more often than the
period. -/
theorem nodup_numbered_iff (positive : 0 < period) (values : List α) :
    (numbered first period values).Nodup ↔ ∀ value, values.count value ≤ period := by
  rw [nodup_iff_filter_fst]
  apply forall_congr'
  intro value
  have injective : Function.Injective (Prod.mk value : Nat → α × Nat) :=
    fun _ _ same => (Prod.mk.inj same).2
  have pairs : (numbered first period values).filter (fun pair => pair.1 = value) =
      ((List.range (values.count value)).map fun index =>
        (first value + index) % period).map (Prod.mk value) := by
    rw [numbered, filter_numberedAfter, List.map_map]
    rfl
  rw [pairs, List.nodup_map_iff injective]
  exact nodup_range_mod_iff positive (first value) (values.count value)

end

end Capsrv
