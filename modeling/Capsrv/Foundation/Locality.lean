import Capsrv.Foundation.CriticalSection
import Mathlib.Data.List.Induction

/-! # Histories of independent regions

Requests that each work on one region of a state. What they answer, and whether a
history of answers is possible at all, can be told from the regions one by one.
-/

namespace Capsrv

/-! ## The last request of a history -/

namespace Answered

variable {σ ι α : Type} {perform : ι → Process σ α} {start state other : σ}
  {history : List (ι × α)}

theorem of_snoc {request : ι} {answer : α}
    (answered : Answered perform start (history ++ [(request, answer)]) state) :
    ∃ before, Answered perform start history before ∧
      perform request before = (some answer, state) := by
  generalize whole : history ++ [(request, answer)] = entries at answered
  cases answered with
  | nil => exact absurd whole (List.append_ne_nil_of_right_ne_nil _ (List.cons_ne_nil _ _))
  | @snoc earlier before state last reply answered step =>
      rcases List.append_inj' whole rfl with ⟨same, lastSame⟩
      cases same
      cases lastSame
      exact ⟨before, answered, step⟩

/-- The requests up to some place have been answered on their own. -/
theorem of_append {later : List (ι × α)}
    (answered : Answered perform start (history ++ later) state) :
    ∃ before, Answered perform start history before := by
  induction later using List.reverseRecOn generalizing state with
  | nil =>
      rw [List.append_nil] at answered
      exact ⟨state, answered⟩
  | append_singleton later entry induction =>
      rcases entry with ⟨request, answer⟩
      rw [← List.append_assoc] at answered
      rcases answered.of_snoc with ⟨before, earlier, -⟩
      exact induction earlier

/-- A request of a history and what it has found. -/
theorem at_entry {request : ι} {answer : α} {later : List (ι × α)}
    (answered : Answered perform start (history ++ (request, answer) :: later) state) :
    ∃ before next, Answered perform start history before ∧
      perform request before = (some answer, next) := by
  rw [← List.singleton_append, ← List.append_assoc] at answered
  rcases answered.of_append with ⟨next, upTo⟩
  rcases upTo.of_snoc with ⟨before, earlier, step⟩
  exact ⟨before, next, earlier, step⟩

/-- Requests leave one state behind. -/
theorem unique (answered : Answered perform start history state)
    (again : Answered perform start history other) : state = other := by
  have same := answered.run.symm.trans again.run
  exact (Prod.mk.inj same).2

end Answered

/-! ## Requests on one region -/

section

variable {State Region Request Answer : Type} {layout : Layout State Region}
  {invariant : State → Prop} {perform : Request → Process State Answer}
  {region : Request → Region}

/-- Where an invariant holds, which the requests keep, each of them is a program on
its region. -/
structure Local (layout : Layout State Region) (invariant : State → Prop)
    (perform : Request → Process State Answer) (region : Request → Region) : Prop where
  focused : ∀ request, ∃ body : Process (layout.Cell (region request)) Answer,
    ∀ state, invariant state → (layout.part (region request)).focus body state =
      perform request state
  kept : ∀ request, (perform request).Preserves invariant

namespace Local

variable (isLocal : Local layout invariant perform region) {state other : State}
  {request : Request}

include isLocal

/-- A request sees its region, and nothing else. -/
theorem congr (holds : invariant state) (otherHolds : invariant other)
    (same : (layout.part (region request)).get state =
      (layout.part (region request)).get other) :
    (perform request state).1 = (perform request other).1 ∧
      (layout.part (region request)).get (perform request state).2 =
        (layout.part (region request)).get (perform request other).2 := by
  rcases isLocal.focused request with ⟨body, focused⟩
  rw [← focused state holds, ← focused other otherHolds, Part.focus_fst, Part.focus_fst,
    Part.get_focus, Part.get_focus, same]
  exact ⟨rfl, rfl⟩

/-- A request leaves the other regions alone. -/
theorem frame (holds : invariant state) {elsewhere : Region}
    (different : region request ≠ elsewhere) :
    (layout.part elsewhere).get (perform request state).2 = (layout.part elsewhere).get state := by
  rcases isLocal.focused request with ⟨body, focused⟩
  rw [← focused state holds]
  exact (layout.independent _ _ different).get_focus body state

end Local

/-! ## Histories -/

variable [DecidableEq Region] {start reached : State} {history : List (Request × Answer)}

/-- The part of a history that is about a region. -/
def historyOn (region : Request → Region) (here : Region) (history : List (Request × Answer)) :
    List (Request × Answer) :=
  history.filter fun entry => region entry.1 = here

theorem historyOn_snoc (region : Request → Region) (here : Region)
    (history : List (Request × Answer)) (request : Request) (answer : Answer) :
    historyOn region here (history ++ [(request, answer)]) =
      if region request = here then historyOn region here history ++ [(request, answer)]
      else historyOn region here history := by
  rw [historyOn, List.filter_append]
  split
  case isTrue same => simp [historyOn, same]
  case isFalse different => simp [historyOn, different]

/-- The requests on a region are answered the same without the others, and leave
the region the same. -/
def Alone (perform : Request → Process State Answer) (layout : Layout State Region)
    (region : Request → Region) (start : State) (history : List (Request × Answer))
    (reached : State) : Prop :=
  ∀ here, ∃ alone, Answered perform start (historyOn region here history) alone ∧
    (layout.part here).get alone = (layout.part here).get reached

theorem Alone.nil : Alone perform layout region start [] start :=
  fun _ => ⟨start, .nil, rfl⟩

theorem Answered.alone (isLocal : Local layout invariant perform region)
    (holds : invariant start) (answered : Answered perform start history reached) :
    Alone perform layout region start history reached := by
  induction answered with
  | nil => exact .nil
  | @snoc history before reached request answer earlier answered induction =>
      intro here
      have beforeHolds := earlier.preserves (fun entry _ => isLocal.kept entry.1) holds
      rcases induction here with ⟨alone, aloneAnswered, same⟩
      have aloneHolds := aloneAnswered.preserves (fun entry _ => isLocal.kept entry.1) holds
      rw [historyOn_snoc]
      by_cases isHere : region request = here
      · subst isHere
        have agree := isLocal.congr aloneHolds beforeHolds same
        rw [answered] at agree
        rw [if_pos rfl]
        exact ⟨(perform request alone).2, aloneAnswered.snoc (Prod.ext agree.1 rfl), agree.2⟩
      · have frame := isLocal.frame beforeHolds isHere
        rw [answered] at frame
        rw [if_neg isHere]
        exact ⟨alone, aloneAnswered, same.trans frame.symm⟩

theorem exists_answered_of_alone (isLocal : Local layout invariant perform region)
    (holds : invariant start)
    (alone : ∀ here, ∃ alone, Answered perform start (historyOn region here history) alone) :
    ∃ reached, Answered perform start history reached := by
  induction history using List.reverseRecOn with
  | nil => exact ⟨start, .nil⟩
  | append_singleton history entry induction =>
      rcases entry with ⟨request, answer⟩
      have earlier : ∃ before, Answered perform start history before := by
        apply induction
        intro here
        rcases alone here with ⟨state, answered⟩
        rw [historyOn_snoc] at answered
        split at answered
        · rcases answered.of_snoc with ⟨before, earlier, -⟩
          exact ⟨before, earlier⟩
        · exact ⟨state, answered⟩
      rcases earlier with ⟨before, earlier⟩
      rcases alone (region request) with ⟨state, answered⟩
      rw [historyOn_snoc, if_pos rfl] at answered
      rcases answered.of_snoc with ⟨beforeAlone, earlierAlone, performed⟩
      clear answered
      rcases earlier.alone isLocal holds (region request) with ⟨same, sameAnswered, agree⟩
      cases sameAnswered.unique earlierAlone
      have beforeHolds := earlier.preserves (fun entry _ => isLocal.kept entry.1) holds
      have aloneHolds := earlierAlone.preserves (fun entry _ => isLocal.kept entry.1) holds
      have step := (isLocal.congr aloneHolds beforeHolds agree).1
      rw [performed] at step
      have answered : perform request before = (some answer, (perform request before).2) :=
        Prod.ext step.symm rfl
      exact ⟨_, earlier.snoc answered⟩

/-- A history is possible when it is on every region. -/
theorem answered_iff_alone (isLocal : Local layout invariant perform region)
    (holds : invariant start)
    (whole : ∀ state other, (∀ here, (layout.part here).get state = (layout.part here).get other) →
      state = other) :
    Answered perform start history reached ↔
      Alone perform layout region start history reached := by
  constructor
  · exact fun answered => answered.alone isLocal holds
  · intro alone
    have possible : ∃ state, Answered perform start history state := by
      apply exists_answered_of_alone isLocal holds
      intro here
      rcases alone here with ⟨state, answered, -⟩
      exact ⟨state, answered⟩
    rcases possible with ⟨state, answered⟩
    have same : state = reached := by
      apply whole
      intro here
      rcases alone here with ⟨first, firstAnswered, agree⟩
      rcases answered.alone isLocal holds here with ⟨second, secondAnswered, agreeAgain⟩
      cases firstAnswered.unique secondAnswered
      exact agreeAgain.symm.trans agree
    rwa [same] at answered

end

end Capsrv
