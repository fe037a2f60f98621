import Capsrv.AlbumPath
import Capsrv.FileIdGenerator
import Capsrv.LastErrors

/-! # Generated file ids

An id from `GenerateFileId` should be one that the other requests accept. The
storage it names is mounted, its date comes from the calendar and its number has
two digits. Only the content type is taken over as it comes.
-/

namespace Capsrv

open Service Process

/-! ## What the generator relies on -/

/-- A date with a year of four digits. -/
structure TimeCalendarTime.Valid (time : TimeCalendarTime) : Prop where
  year : time.year.toNat < 10000
  month : 1 ≤ time.month.toNat ∧ time.month.toNat ≤ 12
  day : 1 ≤ time.day.toNat ∧ time.day.toNat ≤ 31
  hour : time.hour.toNat < 24
  minute : time.minute.toNat < 60
  second : time.second.toNat < 60

def Calendar.Valid (calendar : Calendar) : Prop :=
  ∀ timestamp time, calendar timestamp = .ok time → time.Valid

/-- A storage without an error is mounted. -/
def Service.SuccessMounted (service : Service) : Prop :=
  ∀ storageId, (service.manager.mountStatus storageId).lastError = .success →
    (service.manager.mountStatus storageId).state = .mounted

theorem preservedBySteps_successMounted : PreservedBySteps SuccessMounted :=
  preservedBySteps_statuses fun _ left success =>
    congrArg MountStatus.state (left.eq_of_success success)

theorem preservedBySteps_settings (settings : AlbumSettings) :
    PreservedBySteps fun service => service.manager.settings = settings := by
  apply preservedBySteps_of_manager fun manager => manager.settings = settings
  · intro manager storageId status _ same
    rw [AlbumManager.setMountStatus_settings]
    exact same
  · intro manager cache same
    exact same

/-! ## Saving -/

section

variable {service next : Service} {storageId : StorageId}

theorem mountImageDirectory_lastError {fault : Fault} {result : Result}
    (valid : storageValid storageId)
    (returned : mountImageDirectory fault storageId service = (some result, next)) :
    (next.manager.mountStatus storageId).lastError = result := by
  have verified := verifyStorageId_eq_success_iff.mpr valid
  simp only [mountImageDirectory, rTry, rUnless, verified, Result.isSuccess_success, if_true,
    Process.bind_apply, Process.get_apply] at returned
  split at returned
  · exact (tryMount_left returned).2
  · cases returned
    rfl

/-- A storage to save on is mounted. -/
structure SavingStorage (service : Service) (storageId : StorageId) : Prop where
  valid : storageValid storageId = true
  mounted : (service.manager.mountStatus storageId).state = .mounted

/-- Either the mount succeeds and its storage is the one, or the fallback says. -/
theorem trySavingOn_cases {fault : Fault} {fallback : Process Service (Except Result StorageId)}
    {value : Except Result StorageId}
    (returned : trySavingOn fault storageId fallback service = (some value, next)) :
    (mountImageDirectory fault storageId service = (some .success, next) ∧
        value = .ok storageId) ∨
      ∃ rc refused, mountImageDirectory fault storageId service = (some rc, refused) ∧
        fallback refused = (some value, next) := by
  rw [trySavingOn, Process.bind_apply] at returned
  cases outcome : mountImageDirectory fault storageId service with
  | mk mounted middle =>
      rw [outcome] at returned
      cases mounted with
      | none => cases returned
      | some rc =>
          by_cases success : rc = .success
          · subst success
            cases returned
            exact .inl ⟨rfl, rfl⟩
          · have failed : rc.isSuccess = false := by simpa using success
            simp only [failed, Bool.false_eq_true, if_false] at returned
            exact .inr ⟨rc, middle, rfl, returned⟩

/-- The storage is the one that was tried, or the one of the fallback. -/
theorem trySavingOn_ok {fault : Fault} {saved : StorageId}
    {fallback : Process Service (Except Result StorageId)} (valid : storageValid storageId)
    (successMounted : service.SuccessMounted)
    (returned : trySavingOn fault storageId fallback service = (some (.ok saved), next)) :
    (saved = storageId ∧ SavingStorage next saved) ∨
      ∃ refused : Service, refused.SuccessMounted ∧
        fallback refused = (some (.ok saved), next) := by
  have after := preservedBySteps_successMounted.mounting (.mountImageDirectory fault storageId)
    service successMounted
  change (mountImageDirectory fault storageId service).2.SuccessMounted at after
  rcases trySavingOn_cases returned with ⟨mounted, same⟩ | ⟨rc, refused, failed, last⟩
  · cases same
    rw [mounted] at after
    exact .inl ⟨rfl, valid, after storageId (mountImageDirectory_lastError valid mounted)⟩
  · rw [failed] at after
    exact .inr ⟨refused, after, last⟩

theorem fallBackToNand_ok {answers : SavingAnswers} (successMounted : service.SuccessMounted)
    (returned : fallBackToNand answers service = (some (.ok storageId), next)) :
    SavingStorage next storageId := by
  rcases trySavingOn_ok (by decide) successMounted returned with ⟨-, saving⟩ | ⟨_, -, failed⟩
  · exact saving
  · cases failed

/-- Extra movies are saved on the SD card or not at all. The rest goes where the
settings say, and to the NAND storage where that fails. -/
theorem getAutoSavingStorage_cases {answers : SavingAnswers} {type : ContentType}
    {value : Except Result StorageId}
    (returned : getAutoSavingStorage answers type service = (some value, next)) :
    (isNormal type = true ∧ (fallBackToNand answers service = (some value, next) ∨
        trySavingOn answers.mountSd .sd (fallBackToNand answers) service =
          (some value, next))) ∨
      isNormal type = false ∧ trySavingOn answers.mountSd .sd
        (pure (.error albumIsNotMounted.result)) service = (some value, next) := by
  rw [getAutoSavingStorage] at returned
  cases normal : isNormal type with
  | true =>
      rw [normal, if_pos rfl] at returned
      refine .inl ⟨rfl, ?_⟩
      cases primary : answers.primaryAlbumStorage with
      | error failure =>
          rw [primary] at returned
          cases returned
      | ok storage =>
          rw [primary] at returned
          cases storage with
          | nand => exact .inl returned
          | sdCard => exact .inr returned
  | false =>
      rw [normal, if_neg Bool.false_ne_true] at returned
      exact .inr ⟨rfl, returned⟩

/-- The storage to save on is mounted, and the NAND storage is not one for what
is no screenshot and no movie. -/
theorem getAutoSavingStorage_ok {answers : SavingAnswers} {type : ContentType}
    (successMounted : service.SuccessMounted)
    (returned : getAutoSavingStorage answers type service = (some (.ok storageId), next)) :
    SavingStorage next storageId ∧ (isExtra type = true → storageId ≠ .nand) := by
  rcases getAutoSavingStorage_cases returned with ⟨normal, nand | sd⟩ | ⟨-, sd⟩
  · exact ⟨fallBackToNand_ok successMounted nand, fun extra => by simp [isExtra, normal] at extra⟩
  · refine ⟨?_, fun extra => by simp [isExtra, normal] at extra⟩
    rcases trySavingOn_ok (by decide) successMounted sd with
      ⟨-, saving⟩ | ⟨refused, mounted, fallback⟩
    · exact saving
    · exact fallBackToNand_ok mounted fallback
  · rcases trySavingOn_ok (by decide) successMounted sd with
      ⟨rfl, saving⟩ | ⟨refused, -, failed⟩
    · exact ⟨saving, fun _ => by decide⟩
    · cases failed

end

/-! ## The id -/

/-- The counter of an id has two digits, whatever it was before. -/
theorem counter_advance_lt (timestamp : UInt64) (generator : AlbumFileIdGenerator) :
    (generator.advance timestamp).counter.toNat < 100 := by
  unfold AlbumFileIdGenerator.advance
  split
  · rename_i left
    have small := UInt32.lt_iff_toNat_lt.mp left.2
    have bound : (99 : UInt32).toNat = 99 := rfl
    rw [UInt32.toNat_add, UInt32.toNat_one]
    omega
  · exact Nat.zero_lt_succ 99

/-- What `GenerateFileId` has done when it returns an id. -/
structure Generated (calendar : Calendar) (answers : SavingAnswers) (out : AlbumFileId)
    (applicationId : UInt64) (type : ContentType) (service next : Service)
    (fileId : AlbumFileId) : Prop where
  saved : getAutoSavingStorage answers type service = (some (.ok fileId.storageId), next)
  dated : ∃ timestamp time generator, calendar timestamp = .ok time ∧
    fileId.dateTime = (AlbumFileIdGenerator.advance timestamp generator).dateTime time
  application : fileId.applicationId = applicationId
  type : fileId.type = type
  pad : fileId.pad = out.pad

theorem generated_of_returned {calendar : Calendar} {answers : SavingAnswers}
    {clock : Except Failure UInt64} {out fileId : AlbumFileId} {applicationId : UInt64}
    {type : ContentType} {generator generatorAfter : AlbumFileIdGenerator} {service next : Service}
    (returned : generator.generateFileId calendar answers clock out applicationId type service =
      (some (.ok fileId, generatorAfter), next)) :
    Generated calendar answers out applicationId type service next fileId := by
  rw [AlbumFileIdGenerator.generateFileId, Process.bind_apply] at returned
  cases saved : getAutoSavingStorage answers type service with
  | mk value middle =>
  rw [saved] at returned
  rcases value with _ | result | storageId
  · cases returned
  · cases returned
  cases clock with
  | error failure => cases returned
  | ok timestamp =>
  dsimp only at returned
  cases converted : calendar timestamp with
  | error failure =>
      rw [converted] at returned
      cases returned
  | ok time =>
      rw [converted] at returned
      cases returned
      exact ⟨saved, ⟨timestamp, time, generator, converted, rfl⟩, rfl, rfl, rfl⟩

/-- An id that can be used right away. -/
structure UsableFileId (cipher : PathCipher) (service : Service) (fileId : AlbumFileId) :
    Prop where
  mounted : (service.manager.mountStatus fileId.storageId).state = .mounted
  extra : isExtra fileId.type = true → fileId.storageId ≠ .nand
  verified : fileId.verify service.manager.settings = .success
  path : ∃ path, makeAlbumPath cipher service.manager.settings fileId = .ok path

section

variable {calendar : Calendar} {answers : SavingAnswers} {out fileId : AlbumFileId}
variable {applicationId : UInt64} {type : ContentType} {service next : Service}

/-- Everything but the type is as `Verify` wants it. -/
theorem Generated.verified (valid : calendar.Valid) (nonzero : applicationId ≠ 0)
    (successMounted : service.SuccessMounted)
    (generated : Generated calendar answers out applicationId type service next fileId)
    {settings : AlbumSettings} (supported : settings.isTypeSupported type = true) :
    fileId.Verified settings := by
  rcases generated.dated with ⟨timestamp, time, generator, converted, dated⟩
  rcases valid timestamp time converted with ⟨year, month, day, hour, minute, second⟩
  have digits := counter_advance_lt timestamp generator
  have saving := (getAutoSavingStorage_ok successMounted generated.saved).1
  constructor
  · rw [generated.application]
    exact nonzero
  · rw [dated]
    exact year
  · rw [dated]
    exact month.2
  · rw [dated]
    exact day.2
  · rw [dated]
    exact hour
  · rw [dated]
    exact minute
  · rw [dated]
    exact second
  · rw [dated]
    change (generator.advance timestamp).counter.toUInt8.toNat < 100
    rw [UInt32.toNat_toUInt8]
    omega
  · exact saving.valid
  · rw [generated.type]
    exact supported

theorem Generated.usable_iff (cipher : PathCipher) (valid : calendar.Valid)
    (nonzero : applicationId ≠ 0) (successMounted : service.SuccessMounted)
    (generated : Generated calendar answers out applicationId type service next fileId) :
    UsableFileId cipher next fileId ↔ next.manager.settings.isTypeSupported type = true := by
  rcases getAutoSavingStorage_ok successMounted generated.saved with ⟨saving, notOnNand⟩
  constructor
  · intro usable
    have verified := (fileId.verify_eq_success_iff _).mp usable.verified
    rw [← generated.type]
    exact verified.type
  · intro supported
    have verified := generated.verified valid nonzero successMounted supported
    constructor
    · exact saving.mounted
    · rw [generated.type]
      exact notOnNand
    · exact (fileId.verify_eq_success_iff _).mpr verified
    · exact ⟨_, makeAlbumPath_of_verified cipher verified⟩

end

/-! ## After any requests -/

/-- Whatever has been requested since `Initialize`: the id that is returned can
be used exactly if its type is supported. -/
theorem generateFileId_usable_iff (cipher : PathCipher) (service : Service)
    (settings : AlbumSettings) (createFault mountFault : Fault) (started : Service)
    (begun : albumManagerInitialize settings createFault mountFault service =
      (some (), started)) (requests : List AlbumRequest) (calendar : Calendar)
    (valid : calendar.Valid) (answers : SavingAnswers) (clock : Except Failure UInt64)
    (applicationId : UInt64) (nonzero : applicationId ≠ 0) (type : ContentType)
    (generator generatorAfter : AlbumFileIdGenerator) (fileId : AlbumFileId) (next : Service)
    (returned : generator.generateFileId calendar answers clock .zero applicationId type
        (Process.run (AlbumRequest.perform cipher) requests started).2 =
      (some (.ok fileId, generatorAfter), next)) :
    UsableFileId cipher next fileId ↔ settings.isTypeSupported type = true := by
  have generated := generated_of_returned returned
  have successMounted : (Process.run (AlbumRequest.perform cipher) requests
      started).2.SuccessMounted := by
    apply preservedBySteps_successMounted.run cipher requests started
    intro storageId success
    rw [albumManagerInitialize_status begun] at success
    exact absurd success (by decide)
  have configured : started.manager.settings = settings := by
    rcases albumManagerInitialize_started begun with ⟨names, -, rfl⟩
    rfl
  have reached := (preservedBySteps_settings settings).run cipher requests started configured
  have saved := preserves_getAutoSavingStorage
    (fun fault storageId => (preservedBySteps_settings settings).mounting
      (.mountImageDirectory fault storageId)) answers type _ reached
  rw [generated.saved] at saved
  rw [generated.usable_iff cipher valid nonzero successMounted, saved]

theorem valid_minuteCalendar : minuteCalendar.Valid := by
  intro timestamp time converted
  unfold minuteCalendar at converted
  split at converted
  · rename_i small
    cases converted
    have second : timestamp.toUInt8.toNat < 60 := by
      have below : timestamp.toNat < 60 := UInt64.lt_iff_toNat_lt.mp small
      rw [UInt64.toNat_toUInt8]
      omega
    constructor
    · exact (by decide : 2021 < 10000)
    · exact (by decide : 1 ≤ 5 ∧ 5 ≤ 12)
    · exact (by decide : 1 ≤ 17 ∧ 17 ≤ 31)
    · exact (by decide : 20 < 24)
    · exact (by decide : 31 < 60)
    · exact second
  · cases converted

/-- A server after `Initialize`. -/
def startedServer : Service :=
  (albumManagerInitialize .unset none none (.constructed fun _ => none)).2

/-- The announcement of the SD card. -/
def announceSdCard : List AlbumRequest :=
  [.mount (.unmountImageDirectory .sd)]

def withSdCard : Service :=
  (Process.run (AlbumRequest.perform (Equiv.refl Block)) announceSdCard startedServer).2

/-- The first id of the type in the first second of the calendar. -/
def firstFileId (type : ContentType) : AlbumFileId :=
  { AlbumFileId.zero with
    applicationId := 5, dateTime := ⟨2021, 5, 17, 20, 31, 1, 0⟩, storageId := .sd, type }

def savingOnSdCard : SavingAnswers :=
  ⟨.ok .sdCard, none, none⟩

/-- The SD card is mounted, and a new generator returns its first id. -/
def FirstFileId (type : ContentType) : Prop :=
  AlbumFileIdGenerator.initialized.generateFileId minuteCalendar savingOnSdCard (.ok 1) .zero 5
      type withSdCard =
    (some (.ok (firstFileId type), .advance 1 .initialized),
      (getAutoSavingStorage savingOnSdCard type withSdCard).2)

theorem generateFileId_usable_iff_screenshot :
    UsableFileId (Equiv.refl Block) (getAutoSavingStorage savingOnSdCard .screenshot withSdCard).2
      (firstFileId .screenshot) := by
  have returned : FirstFileId .screenshot := rfl
  exact (generateFileId_usable_iff (Equiv.refl Block) (.constructed fun _ => none) .unset none none
    startedServer rfl announceSdCard minuteCalendar valid_minuteCalendar savingOnSdCard (.ok 1) 5
    (by decide) .screenshot .initialized _ _ _ returned).mpr (by decide)

/-- A type that is none at all is saved like an Extra one. -/
theorem not_usable_unknownType :
    ¬ (∀ (cipher : PathCipher) (service : Service) (settings : AlbumSettings)
        (createFault mountFault : Fault) (started : Service),
      albumManagerInitialize settings createFault mountFault service = (some (), started) →
      ∀ (requests : List AlbumRequest) (calendar : Calendar), calendar.Valid →
      ∀ (answers : SavingAnswers) (clock : Except Failure UInt64) (applicationId : UInt64),
      applicationId ≠ 0 →
      ∀ (type : ContentType) (generator generatorAfter : AlbumFileIdGenerator)
        (fileId : AlbumFileId) (next : Service),
      generator.generateFileId calendar answers clock .zero applicationId type
          (Process.run (AlbumRequest.perform cipher) requests started).2 =
        (some (.ok fileId, generatorAfter), next) →
      UsableFileId cipher next fileId) := by
  intro always
  have returned : FirstFileId ⟨4⟩ := rfl
  have usable := always (Equiv.refl Block) (.constructed fun _ => none) .unset none none
    startedServer rfl announceSdCard minuteCalendar valid_minuteCalendar savingOnSdCard (.ok 1) 5
    (by decide) ⟨4⟩ .initialized _ _ _ returned
  exact absurd usable.verified (by decide)

end Capsrv
