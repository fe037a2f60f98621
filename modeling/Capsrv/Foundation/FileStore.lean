import Mathlib.Data.Set.Card

/-! # Stores

A store maps keys to what is stored under them. The number of keys of one kind
changes by one when such a key is added or erased, and not otherwise.
-/

namespace Capsrv

abbrev FileStore (κ α : Type) := κ → Option α

namespace FileStore

variable {κ α : Type} [DecidableEq κ]

def put (store : FileStore κ α) (key : κ) (value : α) : FileStore κ α :=
  Function.update store key (some value)

def erase (store : FileStore κ α) (key : κ) : FileStore κ α :=
  Function.update store key none

@[simp] theorem put_same (store : FileStore κ α) (key : κ) (value : α) :
    store.put key value key = some value := by
  rw [put, Function.update_self]

theorem put_of_ne (store : FileStore κ α) {key other : κ} (value : α) (different : other ≠ key) :
    store.put key value other = store other := by
  rw [put, Function.update_of_ne different]

@[simp] theorem erase_same (store : FileStore κ α) (key : κ) : store.erase key key = none := by
  rw [erase, Function.update_self]

theorem erase_of_ne (store : FileStore κ α) {key other : κ} (different : other ≠ key) :
    store.erase key other = store other := by
  rw [erase, Function.update_of_ne different]

@[simp] theorem put_put (store : FileStore κ α) (key : κ) (first second : α) :
    (store.put key first).put key second = store.put key second := by
  simp only [put, Function.update_idem]

@[simp] theorem erase_put (store : FileStore κ α) (key : κ) (value : α) :
    (store.put key value).erase key = store.erase key := by
  simp only [put, erase, Function.update_idem]

theorem erase_of_absent {store : FileStore κ α} {key : κ} (absent : store key = none) :
    store.erase key = store := by
  rw [erase, ← absent, Function.update_eq_self]

/-! ## Counting -/

/-- The keys of a kind that something is stored under. -/
def present (store : FileStore κ α) (kind : Set κ) : Set κ :=
  {key | key ∈ kind ∧ (store key).isSome}

variable {store : FileStore κ α} {kind : Set κ} {key : κ}

/-- A key of another kind does not count. -/
theorem present_update_of_notMem (other : key ∉ kind) (value : Option α) :
    present (Function.update store key value) kind = present store kind := by
  ext candidate
  by_cases same : candidate = key
  · simp [present, same, other]
  · simp [present, Function.update_of_ne same]

omit [DecidableEq κ] in
theorem encard_present_split (member : key ∈ kind) :
    (present store kind).encard =
      (present store kind \ {key}).encard + if (store key).isSome then 1 else 0 := by
  by_cases found : (store key).isSome
  · have counted : key ∈ present store kind := ⟨member, found⟩
    rw [if_pos found, Set.encard_sdiff_singleton_add_one counted]
  · have missing : key ∉ present store kind := fun counted => found counted.2
    rw [if_neg found, Set.sdiff_singleton_eq_self missing, add_zero]

variable (store) in
/-- A key of the kind counts while something is stored under it. -/
theorem encard_present_update (member : key ∈ kind) (value : Option α) :
    (present (Function.update store key value) kind).encard +
        (if (store key).isSome then 1 else 0) =
      (present store kind).encard + if value.isSome then 1 else 0 := by
  have others : present (Function.update store key value) kind \ {key} =
      present store kind \ {key} := by
    ext candidate
    by_cases same : candidate = key
    · simp [same]
    · simp [present, same]
  rw [encard_present_split member, encard_present_split member, others, Function.update_self,
    add_right_comm]

/-! ## Descent -/

section

variable {β : Type}

/-- What is seen of the store was seen of the original one, under a related key. -/
def DescendsFrom (related : κ → κ → Prop) (view : α → β) (original store : FileStore κ α) : Prop :=
  ∀ key content, store key = some content →
    ∃ source first, related key source ∧ original source = some first ∧ view content = view first

variable {related : κ → κ → Prop} {view : α → β} {original : FileStore κ α}

omit [DecidableEq κ] in
theorem descendsFrom_refl (reflexive : ∀ key, related key key) (store : FileStore κ α) :
    store.DescendsFrom related view store :=
  fun key content found => ⟨key, content, reflexive key, found, rfl⟩

theorem DescendsFrom.erase (descends : original.DescendsFrom related view store) (key : κ) :
    original.DescendsFrom related view (store.erase key) := by
  intro other content found
  by_cases same : other = key
  · rw [same, erase_same] at found
    cases found
  · rw [erase_of_ne _ same] at found
    exact descends other content found

/-- Something that looks like what is under a related key already. -/
theorem DescendsFrom.put (descends : original.DescendsFrom related view store)
    (transitive : ∀ {first second third}, related first second → related second third →
      related first third)
    {source : κ} {content value : α} (found : store source = some content)
    (near : related key source) (alike : view value = view content) :
    original.DescendsFrom related view (store.put key value) := by
  intro other stored present
  by_cases same : other = key
  · subst same
    rw [put_same] at present
    cases present
    rcases descends source content found with ⟨first, initial, far, started, equal⟩
    exact ⟨first, initial, transitive near far, started, alike.trans equal⟩
  · rw [put_of_ne _ _ same] at present
    exact descends other stored present

end

end FileStore

end Capsrv
