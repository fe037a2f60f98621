import Mathlib.Data.List.Nodup
import Capsrv.Foundation.Process

/-! # Requests that take places

There are a number of places. A request that fits takes one, each key at most
once, and is turned away when none is left. Every other request leaves the
places alone. A ledger holds the requests that have taken one.
-/

namespace Capsrv

variable {σ ι α κ : Type} {perform : ι → Process σ α} {allowed turnedAway : σ → ι → Prop}
  {fits : ι → Prop} {key : ι → κ} {room : Nat} {ledger : List ι → σ → Prop}

variable (perform allowed turnedAway fits key room ledger) in
/-- The ledger accounts for `room` places over the requests that are allowed. -/
structure Quota : Prop where
  fit : ∀ {taken state}, ledger taken state → ∀ request ∈ taken, fits request
  distinct : ∀ {taken state}, ledger taken state → (taken.map key).Nodup
  offered : ∀ {taken state request}, ledger taken state → fits request →
    key request ∉ taken.map key → allowed state request
  passed : ∀ {taken state request}, ledger taken state → allowed state request →
    ¬ (fits request ∧ key request ∉ taken.map key) →
    ¬ turnedAway state request ∧ ledger taken (perform request state).2
  took : ∀ {taken state request}, ledger taken state → fits request →
    key request ∉ taken.map key → taken.length < room →
    ¬ turnedAway state request ∧ (perform request state).1.isSome ∧
      ledger (request :: taken) (perform request state).2
  full : ∀ {taken state request}, ledger taken state → fits request →
    key request ∉ taken.map key → room ≤ taken.length →
    turnedAway state request ∧ ledger taken (perform request state).2

namespace Quota

variable (quota : Quota perform allowed turnedAway fits key room ledger)

include quota

/-- Where no more requests can fit than there are places, none is turned away. -/
theorem never_turnedAway {requests taken : List ι} {state : σ} (holds : ledger taken state)
    (enough : ∀ chosen : List ι, chosen.length ≤ taken.length + requests.length →
      (chosen.map key).Nodup → (∀ request ∈ chosen, fits request) → chosen.length ≤ room)
    (meets : Process.Meets perform allowed requests state) :
    Process.Meets perform (fun state request => ¬ turnedAway state request) requests state := by
  induction requests generalizing taken state with
  | nil => exact trivial
  | cons request requests induction =>
      rw [List.length_cons] at enough
      by_cases new : fits request ∧ key request ∉ taken.map key
      case neg =>
        rcases quota.passed holds meets.1 new with ⟨stays, after⟩
        refine ⟨stays, fun returned => induction after ?_ (meets.2 returned)⟩
        intro chosen short
        exact enough chosen (by omega)
      have chosenFit : ∀ chosen ∈ request :: taken, fits chosen := by
        intro chosen member
        rcases List.mem_cons.mp member with rfl | member
        · exact new.1
        · exact quota.fit holds chosen member
      have left := enough (request :: taken) (by rw [List.length_cons]; omega)
        (List.nodup_cons.mpr ⟨new.2, quota.distinct holds⟩) chosenFit
      rw [List.length_cons] at left
      rcases quota.took holds new.1 new.2 left with ⟨stays, -, after⟩
      refine ⟨stays, fun returned => induction after ?_ (meets.2 returned)⟩
      intro chosen short
      rw [List.length_cons] at short
      exact enough chosen (by omega)

/-- With the places taken, the same request is turned away again and again. -/
theorem meets_replicate {taken : List ι} {state : σ} {request : ι} (holds : ledger taken state)
    (fit : fits request) (new : key request ∉ taken.map key) (noRoom : room ≤ taken.length)
    (count : Nat) : Process.Meets perform allowed (List.replicate count request) state := by
  induction count generalizing state with
  | zero => exact trivial
  | succ count induction =>
      exact ⟨quota.offered holds fit new, fun _ => induction (quota.full holds fit new noRoom).2⟩

/-- Requests fill the places, and then there is none for one more. -/
theorem turnedAway_of_filled {requests taken : List ι} {state : σ} {last : ι}
    (holds : ledger taken state) (filled : taken.length + requests.length = room)
    (fit : ∀ request ∈ requests, fits request) (lastFits : fits last)
    (distinct : ((last :: requests ++ taken).map key).Nodup) (count : Nat) :
    Process.Meets perform allowed (requests ++ List.replicate (count + 1) last) state ∧
      ¬ Process.Meets perform (fun state request => ¬ turnedAway state request)
        (requests ++ List.replicate (count + 1) last) state := by
  induction requests generalizing taken state with
  | nil =>
      have lastNew := (List.nodup_cons.mp distinct).1
      have noRoom : room ≤ taken.length := by
        rw [List.length_nil] at filled
        omega
      refine ⟨quota.meets_replicate holds lastFits lastNew noRoom (count + 1), fun stays => ?_⟩
      exact stays.1 (quota.full holds lastFits lastNew noRoom).1
  | cons request requests induction =>
      have requestFits := fit request List.mem_cons_self
      rw [List.length_cons] at filled
      have order : (last :: requests ++ request :: taken).Perm
          (last :: request :: requests ++ taken) :=
        List.perm_middle.trans (List.Perm.swap last request _)
      have following := (order.map key).nodup_iff.mpr distinct
      have new : key request ∉ taken.map key := by
        have rest := (List.nodup_cons.mp (List.nodup_cons.mp distinct).2).1
        intro member
        exact rest (by simp [List.mem_map.mp member])
      rcases quota.took holds requestFits new (by omega) with ⟨-, returned, after⟩
      rcases induction after (by rw [List.length_cons]; omega)
        (fun other member => fit other (List.mem_cons_of_mem request member)) following with ⟨meets, turned⟩
      exact ⟨⟨quota.offered holds requestFits new, fun _ => meets⟩,
        fun stays => turned (stays.2 returned)⟩

/-- No run of so many requests has one turned away exactly when no more than
the places can be asked for. -/
theorem never_turnedAway_iff {state : σ} (start : ledger [] state) (count : Nat) :
    (∀ requests : List ι, requests.length = count →
        Process.Meets perform allowed requests state →
        Process.Meets perform (fun state request => ¬ turnedAway state request) requests state) ↔
      ∀ chosen : List ι, chosen.length ≤ count → (chosen.map key).Nodup →
        (∀ request ∈ chosen, fits request) → chosen.length ≤ room := by
  constructor
  · intro never chosen short distinct fit
    by_contra noRoom
    have bound : room < chosen.length := by omega
    have front : (chosen.take room).length = room := by
      rw [List.length_take]
      omega
    have order : (chosen[room] :: chosen.take room).Perm (chosen.take (room + 1)) := by
      rw [List.take_succ_eq_append_getElem bound]
      exact (List.perm_append_singleton _ _).symm
    have apart : ((chosen[room] :: chosen.take room ++ []).map key).Nodup := by
      rw [List.append_nil, (order.map key).nodup_iff]
      exact distinct.sublist ((List.take_sublist _ _).map key)
    rcases quota.turnedAway_of_filled start (by rw [List.length_nil]; omega)
      (fun request member => fit request (List.mem_of_mem_take member))
      (fit _ (List.getElem_mem bound)) apart (count - room - 1) with ⟨meets, turned⟩
    refine turned (never _ ?_ meets)
    rw [List.length_append, List.length_replicate, front]
    omega
  · intro enough requests length meets
    refine quota.never_turnedAway start ?_ meets
    intro chosen short
    exact enough chosen (by simpa [length] using short)

end Quota

end Capsrv
