import Capsrv.Application.Entries

/-! # Requests to the application album manager

The requests as one type, the slot that decides a lookup, and what holds of the
table between any two requests.
-/

namespace Capsrv

open ApplicationAlbumManager

/-! ## Lookups -/

/-- The requests that scan for the slot with an id. -/
inductive ApplicationLookup where
  | getApplicationIdFromAruid (out aruid : UInt64)
  | checkApplicationIdRegistered (applicationId : UInt64)
  | setShimLibraryVersion (version aruid : UInt64)
  | generateApplicationAlbumEntry (temporary out : ApplicationAlbumEntry) (entry : AlbumEntry)
      (applicationId : UInt64)
  | getAlbumEntryFromApplicationAlbumEntry (temporary out : AlbumEntry)
      (src : ApplicationAlbumEntry) (applicationId : UInt64)
  | getAlbumEntryFromApplicationAlbumEntryAruid (temporary out : AlbumEntry)
      (src : ApplicationAlbumEntry) (aruid : UInt64)
  | encryptAaeBuffer (appEntries : List ApplicationAlbumEntry) (aruid : UInt64)
  | encryptAafeBuffer (appFileEntries : List ApplicationAlbumFileEntry) (aruid : UInt64)

namespace ApplicationLookup

/-- What the request looks its slot up by. -/
def resourceId : ApplicationLookup → ResourceId
  | getApplicationIdFromAruid _ aruid => .aruid aruid
  | checkApplicationIdRegistered applicationId => .applicationId applicationId
  | setShimLibraryVersion _ aruid => .aruid aruid
  | generateApplicationAlbumEntry _ _ _ applicationId => .applicationId applicationId
  | getAlbumEntryFromApplicationAlbumEntry _ _ _ applicationId => .applicationId applicationId
  | getAlbumEntryFromApplicationAlbumEntryAruid _ _ _ aruid => .aruid aruid
  | encryptAaeBuffer _ aruid => .aruid aruid
  | encryptAafeBuffer _ aruid => .aruid aruid

/-- Whether the request encodes or decodes an entry. -/
def usesCodec : ApplicationLookup → Bool
  | getApplicationIdFromAruid _ _ => false
  | checkApplicationIdRegistered _ => false
  | setShimLibraryVersion _ _ => false
  | generateApplicationAlbumEntry _ _ _ _ => true
  | getAlbumEntryFromApplicationAlbumEntry _ _ _ _ => true
  | getAlbumEntryFromApplicationAlbumEntryAruid _ _ _ _ => true
  | encryptAaeBuffer _ _ => true
  | encryptAafeBuffer _ _ => true

section

variable (ciphers : ApplicationCiphers) (settings : AlbumSettings)

def result (manager : ApplicationAlbumManager) : ApplicationLookup → Result
  | getApplicationIdFromAruid out aruid => (manager.getApplicationIdFromAruid out aruid).1
  | checkApplicationIdRegistered applicationId =>
      manager.checkApplicationIdRegistered applicationId
  | setShimLibraryVersion version aruid => (manager.setShimLibraryVersion version aruid).1
  | generateApplicationAlbumEntry temporary out entry applicationId =>
      (manager.generateApplicationAlbumEntry ciphers temporary out entry applicationId).1
  | getAlbumEntryFromApplicationAlbumEntry temporary out src applicationId =>
      (manager.getAlbumEntryFromApplicationAlbumEntry ciphers settings temporary out src
        applicationId).1
  | getAlbumEntryFromApplicationAlbumEntryAruid temporary out src aruid =>
      (manager.getAlbumEntryFromApplicationAlbumEntryAruid ciphers settings temporary out src
        aruid).1
  | encryptAaeBuffer appEntries aruid => (manager.encryptAaeBuffer ciphers appEntries aruid).1
  | encryptAafeBuffer appFileEntries aruid =>
      (manager.encryptAafeBuffer ciphers appFileEntries aruid).1

/-- The slot at which the scan of a lookup ends. -/
def decidedBy (manager : ApplicationAlbumManager) (lookup : ApplicationLookup) :
    Option (Fin 4) :=
  manager.ownResource lookup.resourceId

theorem success_ne_notOpened : Result.success ≠ controlNotOpened.result := by decide

theorem encryptV1_ne_notOpened (encrypt : Block → Block) (dst : ApplicationAlbumEntry)
    (src : AlbumEntry) (version : UInt64) :
    (encryptV1 encrypt dst src version).1 ≠ controlNotOpened.result := by
  have refused : Result.mk 0x800ce ≠ controlNotOpened.result := by decide
  unfold encryptV1 rUnless
  split
  · exact success_ne_notOpened
  · exact refused

theorem encryptInPlace_ne_notOpened (res : ApplicationResource)
    (appEntry : ApplicationAlbumEntry) :
    (encryptInPlace ciphers res appEntry).1 ≠ controlNotOpened.result := by
  unfold encryptInPlace
  cases res.codec with
  | v0 => exact success_ne_notOpened
  | v1 => exact encryptV1_ne_notOpened _ _ _ _

theorem encryptBuffer_ne_notOpened {α : Type} {encrypt : α → Result × α}
    (each : ∀ entry, (encrypt entry).1 ≠ controlNotOpened.result) (entries : List α) :
    (encryptBuffer encrypt entries).1 ≠ controlNotOpened.result := by
  induction entries with
  | nil => exact success_ne_notOpened
  | cons entry entries induction =>
      rw [encryptBuffer]
      by_cases success : (encrypt entry).1.isSuccess
      · simpa only [rTry, if_pos success] using induction
      · simpa only [rTry, if_neg success] using each entry

theorem verify_ne_notOpened (fileId : AlbumFileId) :
    fileId.verify settings ≠ controlNotOpened.result := by
  have invalid : albumInvalidFileId.result ≠ controlNotOpened.result := by decide
  have storage : albumInvalidStorage.result ≠ controlNotOpened.result := by decide
  have contents : albumInvalidFileContents.result ≠ controlNotOpened.result := by decide
  have verified : verifyStorageId fileId.storageId ≠ controlNotOpened.result :=
    rUnless_ne storage success_ne_notOpened
  rw [AlbumFileId.verify]
  iterate 8 refine rUnless_ne invalid ?_
  rw [rTry]
  split
  · exact rUnless_ne contents success_ne_notOpened
  · exact verified

theorem getAlbumEntryImpl_ne_notOpened (temporary out : AlbumEntry)
    (src : ApplicationAlbumEntry) (res : ApplicationResource) :
    (getAlbumEntryImpl ciphers settings temporary out src res).1 ≠ controlNotOpened.result := by
  have refused : albumInvalidApplicationId.result ≠ controlNotOpened.result := by decide
  unfold getAlbumEntryImpl
  cases res.codec with
  | v0 =>
      simp only [getAlbumEntryFromApplicationAlbumEntryV0Impl_eq]
      split
      · exact success_ne_notOpened
      · exact refused
  | v1 =>
      simp only [getAlbumEntryFromApplicationAlbumEntryV1Impl, decryptV1_eq]
      split
      · simp only [rTry, Result.isSuccess_success, if_true]
        split
        · exact success_ne_notOpened
        · exact verify_ne_notOpened settings _
      · exact refused

theorem setShimLibraryVersion_ne_notOpened {version aruid : UInt64}
    {manager : ApplicationAlbumManager} (found : manager.ownResource (.aruid aruid) ≠ none) :
    (manager.setShimLibraryVersion version aruid).1 ≠ controlNotOpened.result := by
  have range : albumOutOfRange.result ≠ controlNotOpened.result := by decide
  have state : albumInvalidState.result ≠ controlNotOpened.result := by decide
  rcases Option.ne_none_iff_exists'.mp found with ⟨slot, found⟩
  simp only [ApplicationAlbumManager.setShimLibraryVersion, withOwnResource, found, rUnless]
  repeat' split
  all_goals first
    | exact success_ne_notOpened
    | exact range
    | exact state

/-- A lookup reports that nothing is open exactly when its scan finds no slot. -/
theorem result_eq_notOpened_iff (manager : ApplicationAlbumManager)
    (lookup : ApplicationLookup) :
    lookup.result ciphers settings manager = controlNotOpened.result ↔
      lookup.decidedBy manager = none := by
  have decided : ∀ {α : Type} (resourceId : ResourceId) (notOpened : α)
      (body : ApplicationResource → α) (report : α → Result),
      report notOpened = controlNotOpened.result →
      (∀ res, report (body res) ≠ controlNotOpened.result) →
      (report (manager.withOwnResource resourceId notOpened body) = controlNotOpened.result ↔
        manager.ownResource resourceId = none) := by
    intro α resourceId notOpened body report missing answered
    rw [withOwnResource]
    cases manager.ownResource resourceId with
    | none => exact iff_of_true missing rfl
    | some slot => exact iff_of_false (answered _) (by simp)
  cases lookup with
  | getApplicationIdFromAruid =>
      exact decided _ _ _ Prod.fst rfl fun _ => success_ne_notOpened
  | checkApplicationIdRegistered =>
      exact decided _ _ _ id rfl fun _ => success_ne_notOpened
  | setShimLibraryVersion version aruid =>
      constructor
      · intro missing
        by_contra found
        exact setShimLibraryVersion_ne_notOpened found missing
      · intro missing
        simp only [decidedBy, resourceId] at missing
        simp only [result, ApplicationAlbumManager.setShimLibraryVersion, withOwnResource, missing]
  | generateApplicationAlbumEntry temporary out entry =>
      refine decided _ _ _ Prod.fst rfl fun res => ?_
      cases res.codec with
      | v0 => exact success_ne_notOpened
      | v1 =>
          have each := encryptV1_ne_notOpened ciphers.applicationKey temporary entry res.version
          simp only [rTry]
          split
          · exact success_ne_notOpened
          · exact each
  | getAlbumEntryFromApplicationAlbumEntry =>
      exact decided _ _ _ Prod.fst rfl (getAlbumEntryImpl_ne_notOpened ciphers settings _ _ _)
  | getAlbumEntryFromApplicationAlbumEntryAruid =>
      exact decided _ _ _ Prod.fst rfl (getAlbumEntryImpl_ne_notOpened ciphers settings _ _ _)
  | encryptAaeBuffer =>
      exact decided _ _ _ Prod.fst rfl fun res =>
        encryptBuffer_ne_notOpened (encryptInPlace_ne_notOpened ciphers res) _
  | encryptAafeBuffer appFileEntries =>
      refine decided _ _ _ Prod.fst rfl fun res => ?_
      apply encryptBuffer_ne_notOpened
      intro appFileEntry
      exact encryptInPlace_ne_notOpened ciphers res appFileEntry.entry

end

/-- The table after a lookup: one of them assigns to a slot, or means to. -/
def manager (manager : ApplicationAlbumManager) : ApplicationLookup → ApplicationAlbumManager
  | setShimLibraryVersion version aruid => (manager.setShimLibraryVersion version aruid).2
  | _ => manager

@[simp] theorem manager_eq (manager : ApplicationAlbumManager) (lookup : ApplicationLookup) :
    lookup.manager manager = manager := by
  cases lookup with
  | setShimLibraryVersion version aruid => exact setShimLibraryVersion_manager version aruid manager
  | _ => rfl

end ApplicationLookup

/-! ## Requests -/

/-- Everything the server does with the table. `exit` is `Exit` with the
`Initialize` of the next start. -/
inductive ApplicationRequest where
  | register (key : DrawnKey) (aruid applicationId : UInt64)
  | unregister (aruid applicationId : UInt64)
  | lookup (query : ApplicationLookup)
  | exit

def ApplicationRequest.perform (ciphers : ApplicationCiphers) (settings : AlbumSettings) :
    ApplicationRequest → Process ApplicationAlbumManager Result
  | register key aruid applicationId => fun manager =>
      let registered := manager.registerAppletResourceUserId key aruid applicationId
      (some registered.1, registered.2)
  | unregister aruid applicationId => fun manager =>
      (some .success, manager.unregisterAppletResourceUserId aruid applicationId)
  | lookup query => fun manager =>
      (some (query.result ciphers settings manager), query.manager manager)
  | exit => fun manager => (some .success, manager.exit)

namespace ApplicationAlbumManager

/-! ## The table between two requests -/

variable {manager : ApplicationAlbumManager}

/-- A slot that is not used is empty, a used one has a name and no version, and
the used slots are the first ones. -/
structure WellFormed (manager : ApplicationAlbumManager) : Prop where
  free : ∀ slot, (manager.resources slot).used = false → manager.resources slot = .empty
  named : ∀ slot, (manager.resources slot).used = true → (manager.resources slot).aruid ≠ 0
  front : ∀ slot other, other ≤ slot → (manager.resources slot).used = true →
    (manager.resources other).used = true
  unversioned : ∀ slot, (manager.resources slot).version = 0

theorem wellFormed_constructed : constructed.WellFormed where
  free _ _ := rfl
  named _ used := by cases used
  front _ _ _ used := by cases used
  unversioned _ := rfl

/-- All slots are in use. -/
def Full (manager : ApplicationAlbumManager) : Prop :=
  ∀ slot, (manager.resources slot).used = true

/-- The first slot that is not used. -/
structure FirstFree (manager : ApplicationAlbumManager) (slot : Fin 4) : Prop where
  free : (manager.resources slot).used = false
  before : ∀ other < slot, (manager.resources other).used = true

theorem find_free_cases (manager : ApplicationAlbumManager) :
    (Fin.find? (fun slot => !(manager.resources slot).used) = none ∧ manager.Full) ∨
      ∃ slot, Fin.find? (fun slot => !(manager.resources slot).used) = some slot ∧
        manager.FirstFree slot := by
  cases found : Fin.find? fun slot => !(manager.resources slot).used with
  | none =>
      left
      refine ⟨rfl, fun slot => ?_⟩
      simpa using Fin.find?_eq_none_iff.mp found slot
  | some slot =>
      right
      rcases Fin.find?_eq_some_iff.mp found with ⟨free, before⟩
      refine ⟨slot, rfl, by simpa using free, fun other smaller => ?_⟩
      simpa using before other smaller

/-- What a registration takes the slot for. -/
def take (manager : ApplicationAlbumManager) (slot : Fin 4) (key : DrawnKey)
    (aruid applicationId : UInt64) : ApplicationAlbumManager :=
  ⟨Function.update manager.resources slot ⟨true, aruid, applicationId, 0, key.key⟩⟩

@[simp] theorem take_resources_same (slot : Fin 4) (key : DrawnKey) (aruid applicationId : UInt64) :
    (manager.take slot key aruid applicationId).resources slot =
      ⟨true, aruid, applicationId, 0, key.key⟩ := by
  exact Function.update_self ..

theorem take_resources_of_ne {slot other : Fin 4} (different : other ≠ slot) (key : DrawnKey)
    (aruid applicationId : UInt64) :
    (manager.take slot key aruid applicationId).resources other = manager.resources other := by
  exact Function.update_of_ne different ..

/-- The three ends of a registration. -/
theorem register_cases (wellFormed : manager.WellFormed) (key : DrawnKey)
    (aruid applicationId : UInt64) :
    let registered := manager.registerAppletResourceUserId key aruid applicationId
    (manager.Full ∧ registered = (controlResourceLimit.result, manager)) ∨
      (¬ manager.Full ∧ aruid = 0 ∧ registered = (controlAlreadyOpen.result, manager)) ∨
      ∃ slot, manager.FirstFree slot ∧ aruid ≠ 0 ∧
        registered = (.success, manager.take slot key aruid applicationId) := by
  rcases manager.find_free_cases with ⟨found, full⟩ | ⟨slot, found, first⟩
  · left
    refine ⟨full, ?_⟩
    rw [registerAppletResourceUserId, found]
  · right
    have empty : (manager.resources slot).aruid = 0 := by
      rw [wellFormed.free slot first.free]
      rfl
    have notFull : ¬ manager.Full := fun full => by
      have used := full slot
      rw [first.free] at used
      cases used
    by_cases zero : aruid = 0
    · left
      refine ⟨notFull, zero, ?_⟩
      rw [registerAppletResourceUserId, found]
      exact if_neg (not_not.mpr (empty.trans zero.symm))
    · right
      refine ⟨slot, first, zero, ?_⟩
      have different : (manager.resources slot).aruid ≠ aruid := by
        rw [empty]
        exact Ne.symm zero
      rw [registerAppletResourceUserId, found]
      exact if_pos different

theorem WellFormed.take (wellFormed : manager.WellFormed) {slot : Fin 4}
    (first : manager.FirstFree slot) (key : DrawnKey) {aruid : UInt64} (nonzero : aruid ≠ 0)
    (applicationId : UInt64) : (manager.take slot key aruid applicationId).WellFormed where
  free other free := by
    rcases eq_or_ne other slot with rfl | different
    · rw [take_resources_same] at free
      cases free
    · rw [take_resources_of_ne different] at free ⊢
      exact wellFormed.free other free
  named other used := by
    rcases eq_or_ne other slot with rfl | different
    · rw [take_resources_same]
      exact nonzero
    · rw [take_resources_of_ne different] at used ⊢
      exact wellFormed.named other used
  front last other smaller used := by
    rcases eq_or_ne other slot with rfl | different
    · rw [take_resources_same]
    · rw [take_resources_of_ne different]
      rcases eq_or_ne last slot with rfl | later
      · exact first.before other (lt_of_le_of_ne smaller different)
      · rw [take_resources_of_ne later] at used
        exact wellFormed.front last other smaller used
  unversioned other := by
    rcases eq_or_ne other slot with rfl | different
    · rw [take_resources_same]
    · rw [take_resources_of_ne different]
      exact wellFormed.unversioned other

/-- Leaving a table is the same as constructing one. -/
theorem exit_eq_constructed (wellFormed : manager.WellFormed) : manager.exit = constructed := by
  rw [exit, constructed, ApplicationAlbumManager.mk.injEq]
  funext slot
  split
  case isTrue => rfl
  case isFalse free => exact wellFormed.free slot (by simpa using free)

/-- Every request leaves the table well formed. -/
theorem perform_wellFormed (ciphers : ApplicationCiphers) (settings : AlbumSettings)
    (request : ApplicationRequest) :
    Process.Preserves WellFormed (request.perform ciphers settings) := by
  intro manager wellFormed
  cases request with
  | register key aruid applicationId =>
      rcases register_cases wellFormed key aruid applicationId with
        ⟨-, registered⟩ | ⟨-, -, registered⟩ | ⟨slot, first, nonzero, registered⟩
      · simpa only [ApplicationRequest.perform, registered] using wellFormed
      · simpa only [ApplicationRequest.perform, registered] using wellFormed
      · simpa only [ApplicationRequest.perform, registered] using
          wellFormed.take first key nonzero applicationId
  | unregister aruid applicationId =>
      simpa only [ApplicationRequest.perform, unregisterAppletResourceUserId_eq] using wellFormed
  | lookup query =>
      simpa only [ApplicationRequest.perform, ApplicationLookup.manager_eq] using wellFormed
  | exit =>
      simpa only [ApplicationRequest.perform, exit_eq_constructed wellFormed] using
        wellFormed_constructed

/-- The tables the server can have. -/
def after (ciphers : ApplicationCiphers) (settings : AlbumSettings)
    (requests : List ApplicationRequest) : ApplicationAlbumManager :=
  (Process.run (ApplicationRequest.perform ciphers settings) requests constructed).2

theorem wellFormed_after (ciphers : ApplicationCiphers) (settings : AlbumSettings)
    (requests : List ApplicationRequest) : (after ciphers settings requests).WellFormed :=
  Process.preserves_run _ (perform_wellFormed ciphers settings) requests constructed
    wellFormed_constructed

end ApplicationAlbumManager

end Capsrv
