import Capsrv.Application.Manager

/-! # Reading application entries

What the two requests that read an application entry accept, and what becomes of
an entry that is generated and read again.
-/

namespace Capsrv

open ApplicationAlbumManager

section

variable {ciphers : ApplicationCiphers} {settings : AlbumSettings} {temporary out : AlbumEntry}
  {src : ApplicationAlbumEntry} {applicationId : UInt64}

/-- Version 1 accepts by its check value, and writes nothing otherwise. -/
theorem decryptV1_eq (encrypt : Block → Block) (dst : AlbumEntry) :
    decryptV1 encrypt dst src applicationId =
      if src.second.byte 15 = 1 ∧ src.first.high =
          checkValue encrypt { src with first := .ofWords src.first.low applicationId } then
        (.success,
          { size := ⟨src.first.low⟩
            fileId := {
              applicationId := applicationId
              dateTime := .ofBytes src.second
              storageId := ⟨src.second.byte 8⟩
              type := ⟨src.second.byte 9⟩
              pad := .replicate 6 0 } })
      else (albumInvalidApplicationId.result, dst) := by
  by_cases marked : src.second.byte 15 = 1
  · simp only [decryptV1, rUnless, marked, true_and, if_true]
  · simp only [decryptV1, rUnless, marked, false_and, if_false]

theorem getAlbumEntryFromApplicationAlbumEntryV1Impl_spec
    {outcome : Result × AlbumEntry}
    (read : getAlbumEntryFromApplicationAlbumEntryV1Impl ciphers settings temporary out src
      applicationId = outcome) :
    (outcome.1 = .success ∧ outcome.2.fileId.applicationId = applicationId ∧
        outcome.2.fileId.verify settings = .success) ∨
      (outcome.1 ≠ .success ∧ outcome.2 = out) := by
  subst read
  have refused : albumInvalidApplicationId.result ≠ .success := by decide
  rw [getAlbumEntryFromApplicationAlbumEntryV1Impl, decryptV1_eq]
  split
  · simp only [rTry, Result.isSuccess_success, if_true]
    split
    case isTrue verified =>
      exact .inl ⟨rfl, rfl, (Result.isSuccess_eq_true_iff _).mp verified⟩
    case isFalse unverified =>
      exact .inr ⟨fun success => unverified ((Result.isSuccess_eq_true_iff _).mpr success), rfl⟩
  · exact .inr ⟨refused, rfl⟩

theorem getAlbumEntryFromApplicationAlbumEntryV0Impl_eq (key : Aes256Key) :
    getAlbumEntryFromApplicationAlbumEntryV0Impl ciphers out src applicationId key =
      if (decryptV0 (ciphers.aes256 key) src).fileId.applicationId = applicationId then
        (.success, decryptV0 (ciphers.aes256 key) src)
      else (albumInvalidApplicationId.result, out) := rfl

end

/-! ## What is accepted -/

section

variable (ciphers : ApplicationCiphers) (settings : AlbumSettings)
  (manager : ApplicationAlbumManager) (temporary out : AlbumEntry) (src : ApplicationAlbumEntry)

/-- The two requests that read an entry, by what they name the slot by. -/
def readApplicationEntry : ResourceId → Result × AlbumEntry
  | .applicationId applicationId =>
      manager.getAlbumEntryFromApplicationAlbumEntry ciphers settings temporary out src
        applicationId
  | .aruid aruid =>
      manager.getAlbumEntryFromApplicationAlbumEntryAruid ciphers settings temporary out src aruid

theorem readApplicationEntry_eq (resourceId : ResourceId) :
    readApplicationEntry ciphers settings manager temporary out src resourceId =
      manager.withOwnResource resourceId (controlNotOpened.result, out)
        (getAlbumEntryImpl ciphers settings temporary out src) := by
  cases resourceId <;> rfl

/-- An entry that was read is a verified entry of the application of the slot,
and a refused one leaves the output as it was. -/
def ReadsOwnEntry (resourceId : ResourceId) (outcome : Result × AlbumEntry) : Prop :=
  (outcome.1 = .success → ∃ slot, manager.ownResource resourceId = some slot ∧
      outcome.2.fileId.applicationId = (manager.resources slot).applicationId ∧
      outcome.2.fileId.verify settings = .success) ∧
    (outcome.1 ≠ .success → outcome.2 = out)

/-- Version 1 reads verified entries only; version 0 reads whatever was
encrypted under the key with the right application id. -/
theorem readApplicationEntry_own_iff (resourceId : ResourceId) :
    ReadsOwnEntry settings manager out resourceId
        (readApplicationEntry ciphers settings manager temporary out src resourceId) ↔
      ∀ slot, manager.ownResource resourceId = some slot →
        (manager.resources slot).version = 0 →
        ∀ entry, src = encryptV0 (ciphers.aes256 (manager.resources slot).key) entry →
          entry.fileId.applicationId = (manager.resources slot).applicationId →
          entry.fileId.verify settings = .success := by
  rw [readApplicationEntry_eq, ReadsOwnEntry, withOwnResource]
  cases found : manager.ownResource resourceId with
  | none =>
      have refused : controlNotOpened.result ≠ .success := by decide
      exact iff_of_true ⟨fun success => absurd success refused, fun _ => rfl⟩
        (fun _ missing => by cases missing)
  | some slot =>
      simp only [Option.some.injEq, exists_eq_left', forall_eq', getAlbumEntryImpl,
        ApplicationResource.codec]
      generalize manager.resources slot = res
      by_cases version : res.version = 0
      · simp only [version, if_true, true_imp_iff,
          getAlbumEntryFromApplicationAlbumEntryV0Impl_eq]
        have decrypted : ∀ entry, src = encryptV0 (ciphers.aes256 res.key) entry ↔
            entry = decryptV0 (ciphers.aes256 res.key) src := by
          intro entry
          constructor
          · rintro rfl
            exact (decryptV0_encryptV0 _ entry).symm
          · rintro rfl
            exact (encryptV0_decryptV0 _ src).symm
        simp only [decrypted, forall_eq]
        by_cases own : (decryptV0 (ciphers.aes256 res.key) src).fileId.applicationId =
            res.applicationId
        · simp [own]
        · have refused : albumInvalidApplicationId.result ≠ .success := by decide
          simp [own, refused]
      · simp only [version, if_false, false_imp_iff, iff_true]
        rcases getAlbumEntryFromApplicationAlbumEntryV1Impl_spec rfl with
          ⟨success, own, verified⟩ | ⟨failure, unchanged⟩
        · exact ⟨fun _ => ⟨own, verified⟩, fun failure => absurd success failure⟩
        · exact ⟨fun success => absurd success failure, fun _ => unchanged⟩

end

/-! ## A foreign storage -/

/-- A key that registering can draw. -/
def drawnKey : DrawnKey :=
  ⟨fun _ => 1, by decide⟩

/-- An application that has registered, without any version set. -/
def registeredApplication : ApplicationAlbumManager :=
  (constructed.registerAppletResourceUserId drawnKey 5 savedScreenshot.applicationId).2

/-- AES that does nothing. -/
def identityCiphers : ApplicationCiphers :=
  ⟨fun _ => Equiv.refl Block, id⟩

/-- An entry on a storage that does not exist, encrypted by its application. -/
def foreignEntry : ApplicationAlbumEntry :=
  encryptV0 (Equiv.refl Block) ⟨0, { savedScreenshot with storageId := ⟨7⟩ }⟩

theorem readApplicationEntry_not_own_foreign :
    ¬ (∀ (ciphers : ApplicationCiphers) (settings : AlbumSettings)
        (manager : ApplicationAlbumManager) (temporary out : AlbumEntry)
        (src : ApplicationAlbumEntry) (resourceId : ResourceId),
      (∀ slot, manager.ownResource resourceId = some slot →
        (manager.resources slot).version = 0 ∨ (manager.resources slot).version = 1) →
      ReadsOwnEntry settings manager out resourceId
        (readApplicationEntry ciphers settings manager temporary out src resourceId)) := by
  intro always
  have own := always identityCiphers .unset registeredApplication ⟨0, savedScreenshot⟩
    ⟨0, savedScreenshot⟩ foreignEntry (.aruid 5) (by decide +kernel)
  have accepted : (readApplicationEntry identityCiphers .unset registeredApplication
      ⟨0, savedScreenshot⟩ ⟨0, savedScreenshot⟩ foreignEntry (.aruid 5)).1 = .success := by
    decide +kernel
  rcases own.1 accepted with ⟨_, _, _, verified⟩
  revert verified
  decide +kernel

/-! ## Generating and reading again -/

section

variable {ciphers : ApplicationCiphers} {settings : AlbumSettings} {entry : AlbumEntry}
  {temporary : ApplicationAlbumEntry}

/-- The bytes `pad_x1a` of the union. -/
def ApplicationAlbumEntry.PadClear (image : ApplicationAlbumEntry) : Prop :=
  ∀ offset, 10 ≤ offset → offset < 15 → image.second.byte offset = 0

def ApplicationAlbumEntry.cleared : ApplicationAlbumEntry :=
  ⟨fun _ => 0, fun _ => 0⟩

theorem byte_cleared (offset : Nat) : ApplicationAlbumEntry.cleared.second.byte offset = 0 := by
  unfold Block.byte
  split <;> rfl

/-- The bytes of the temporary stay in the output. -/
theorem encryptV1_eq_cleared_iff (encrypt : Block → Block) :
    (encryptV1 encrypt temporary entry 1).2 = (encryptV1 encrypt .cleared entry 1).2 ↔
      temporary.PadClear := by
  simp only [encryptV1, rUnless, if_true, ApplicationAlbumEntry.mk.injEq, true_and, byte_cleared]
  constructor
  · intro same offset above below
    have byte := congrFun same ⟨offset, by omega⟩
    interval_cases offset <;> exact byte
  · intro clear
    rw [clear 10 (by decide) (by decide), clear 11 (by decide) (by decide),
      clear 12 (by decide) (by decide), clear 13 (by decide) (by decide),
      clear 14 (by decide) (by decide)]

/-- What version 1 writes over clear bytes is read again. -/
theorem decryptV1_encryptV1 (encrypt : Block → Block) (dst : AlbumEntry)
    (pad : entry.fileId.pad = .replicate 6 0) (clear : temporary.PadClear) :
    decryptV1 encrypt dst (encryptV1 encrypt temporary entry 1).2 entry.fileId.applicationId =
      (.success, entry) := by
  rcases entry with ⟨size, applicationId, dateTime, storageId, type, padding⟩
  subst pad
  rw [(encryptV1_eq_cleared_iff encrypt).mpr clear, decryptV1_eq]
  simp only [encryptV1, rUnless, if_true, Block.high_ofWords, Block.low_ofWords,
    AlbumDateTime.ofBytes_bytes]
  rw [if_pos ⟨rfl, rfl⟩]
  rfl

/-- Generating succeeds, over whatever was in memory before with the same bytes,
and they are read back as the entry. -/
def RoundTrips (ciphers : ApplicationCiphers) (settings : AlbumSettings)
    (manager : ApplicationAlbumManager) (entry : AlbumEntry)
    (temporary out : ApplicationAlbumEntry) (readTemporary readOut : AlbumEntry) : Prop :=
  let applicationId := entry.fileId.applicationId
  let generated :=
    manager.generateApplicationAlbumEntry ciphers temporary out entry applicationId
  generated.1 = .success ∧
    generated.2 =
      (manager.generateApplicationAlbumEntry ciphers .cleared .cleared entry applicationId).2 ∧
    manager.getAlbumEntryFromApplicationAlbumEntry ciphers settings readTemporary readOut
      generated.2 applicationId = (.success, entry)

/-- Version 0 always round-trips, version 1 if the temporary of the generating
request was clear behind the content type. -/
theorem generateApplicationAlbumEntry_roundTrips_iff (manager : ApplicationAlbumManager)
    (slot : Fin 4)
    (found : manager.ownResource (.applicationId entry.fileId.applicationId) = some slot)
    (verified : entry.fileId.verify settings = .success)
    (pad : entry.fileId.pad = .replicate 6 0) (out : ApplicationAlbumEntry)
    (readTemporary readOut : AlbumEntry) :
    RoundTrips ciphers settings manager entry temporary out readTemporary readOut ↔
      (manager.resources slot).version = 0 ∨
        (manager.resources slot).version = 1 ∧ temporary.PadClear := by
  have own : (manager.resources slot).applicationId = entry.fileId.applicationId := by
    have owns := (Fin.find?_eq_some_iff.mp found).1
    simpa [ResourceId.owns] using owns
  simp only [RoundTrips, generateApplicationAlbumEntry, getAlbumEntryFromApplicationAlbumEntry,
    withOwnResource, found, getAlbumEntryImpl, ApplicationResource.codec, own]
  generalize manager.resources slot = res
  by_cases zero : res.version = 0
  · simp only [zero, if_true, getAlbumEntryFromApplicationAlbumEntryV0Impl_eq,
      decryptV0_encryptV0, true_or, and_self]
  · simp only [zero, if_false, false_or]
    by_cases one : res.version = 1
    · have written : ∀ dst, (encryptV1 ciphers.applicationKey dst entry 1).1 = .success :=
        fun _ => rfl
      simp only [one, written, rTry, Result.isSuccess_success, if_true,
        encryptV1_eq_cleared_iff, true_and]
      refine ⟨fun trips => trips.1, fun clear => ⟨clear, ?_⟩⟩
      simp only [getAlbumEntryFromApplicationAlbumEntryV1Impl,
        decryptV1_encryptV1 ciphers.applicationKey readTemporary pad clear, rTry,
        Result.isSuccess_success, if_true, verified]
    · have refused : (Result.mk 0x800ce).isSuccess = false := by decide
      simp only [encryptV1, rUnless, one, if_false, rTry, refused, false_and, iff_false]
      intro trips
      have success : Result.mk 0x800ce = .success := trips.1
      exact absurd success (by decide)

end

/-! ## A temporary that was not clear -/

/-- The same application in version 1. -/
def negotiatedApplication : ApplicationAlbumManager :=
  ⟨fun slot =>
    if slot.val = 0 then ⟨true, 5, savedScreenshot.applicationId, 1, drawnKey.key⟩
    else constructed.resources slot⟩

/-- With clear memory the screenshot is read again. -/
theorem generateApplicationAlbumEntry_roundTrips_cleared :
    RoundTrips identityCiphers .unset negotiatedApplication ⟨3, savedScreenshot⟩ .cleared
      .cleared ⟨0, .zero⟩ ⟨0, .zero⟩ :=
  (generateApplicationAlbumEntry_roundTrips_iff negotiatedApplication 0 (by decide +kernel)
    (by decide) (by decide) .cleared ⟨0, .zero⟩ ⟨0, .zero⟩).mpr
    (.inr ⟨by decide +kernel, fun offset _ _ => byte_cleared offset⟩)

/-- With one byte set behind the content type it is refused. -/
theorem generateApplicationAlbumEntry_not_roundTrips_stale :
    ¬ (∀ (ciphers : ApplicationCiphers) (settings : AlbumSettings)
        (manager : ApplicationAlbumManager) (entry : AlbumEntry) (slot : Fin 4)
        (temporary out : ApplicationAlbumEntry) (readTemporary readOut : AlbumEntry),
      manager.ownResource (.applicationId entry.fileId.applicationId) = some slot →
      (manager.resources slot).version = 1 → entry.fileId.verify settings = .success →
      entry.fileId.pad = .replicate 6 0 →
      let applicationId := entry.fileId.applicationId
      let generated :=
        manager.generateApplicationAlbumEntry ciphers temporary out entry applicationId
      generated.1 = .success ∧
        manager.getAlbumEntryFromApplicationAlbumEntry ciphers settings readTemporary readOut
          generated.2 applicationId = (.success, entry)) := by
  intro always
  have trips := always identityCiphers .unset negotiatedApplication ⟨3, savedScreenshot⟩ 0
    ⟨fun _ => 0, fun _ => 1⟩ .cleared ⟨0, .zero⟩ ⟨0, .zero⟩ (by decide +kernel)
    (by decide +kernel) (by decide) (by decide)
  have refused : (negotiatedApplication.getAlbumEntryFromApplicationAlbumEntry identityCiphers
      .unset ⟨0, .zero⟩ ⟨0, .zero⟩
      (negotiatedApplication.generateApplicationAlbumEntry identityCiphers
        ⟨fun _ => 0, fun _ => 1⟩ .cleared ⟨3, savedScreenshot⟩ savedScreenshot.applicationId).2
      savedScreenshot.applicationId).1 ≠ .success := by
    decide +kernel
  exact refused (congrArg Prod.fst trips.2)

end Capsrv
