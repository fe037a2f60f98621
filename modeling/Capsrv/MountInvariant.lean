import Capsrv.Mount

/-! # The mount state machine mirrors the mount table

A storage is mounted in the album manager exactly when its name is registered,
and exactly when its last error is success. Every request keeps it so.
-/

namespace Capsrv

open Service

/-! ## Names -/

theorem mountName_ne {storageId other : StorageId} (valid : storageValid storageId)
    (otherValid : storageValid other) (different : other ≠ storageId) :
    mountName other ≠ mountName storageId := by
  simp only [storageValid, Bool.or_eq_true, decide_eq_true_eq] at valid otherValid
  rcases valid with rfl | rfl <;> rcases otherValid with rfl | rfl
  · exact absurd rfl different
  · decide
  · decide
  · exact absurd rfl different

theorem verifyStorageId_eq_success_iff {storageId : StorageId} :
    verifyStorageId storageId = .success ↔ storageValid storageId = true := by
  unfold verifyStorageId
  split <;> simp_all [(by decide : albumInvalidStorage.result ≠ .success)]

theorem checkMountName_mountName (storageId : StorageId) :
    Fs.checkMountName (mountName storageId) = .success := by
  unfold mountName
  split <;> decide

/-! ## The invariant -/

/-- The status of a storage agrees with itself and with the mount table. -/
structure Mirrors (status : MountStatus) (registered : Prop) : Prop where
  success : status.state = .mounted ↔ status.lastError = .success
  registered : status.state = .mounted ↔ registered

def Service.MountsMirrored (service : Service) : Prop :=
  ∀ storageId, storageValid storageId →
    Mirrors (service.manager.mountStatus storageId) (mountName storageId ∈ service.fs.names)

/-- A call on an album mount name finds it as it should be. The layer would
answer any other with an abort of the process. -/
def MountCall.Sound : MountCall → Prop
  | .mountImageDirectory name registered =>
      (∃ storageId, name = mountName storageId) → registered = false
  | .unmount name registered =>
      (∃ storageId, name = mountName storageId) → registered = true

def FileSystem.CallsSound (fs : FileSystem) : Prop :=
  ∀ call ∈ fs.calls, call.Sound

/-- What holds of the service between any two requests. -/
structure MountInvariant (service : Service) : Prop where
  mirrored : service.MountsMirrored
  calls : service.fs.CallsSound

namespace FileSystem

variable {fs : FileSystem}

@[simp] theorem called_names (call : MountCall) : (fs.called call).names = fs.names := rfl

theorem CallsSound.called (sound : fs.CallsSound) {call : MountCall} (one : call.Sound) :
    (fs.called call).CallsSound := by
  intro candidate member
  rcases List.mem_append.mp member with earlier | last
  · exact sound candidate earlier
  · rw [List.mem_singleton.mp last]
    exact one

end FileSystem

/-- Setting the status of one storage to what the mount table then says. -/
theorem Service.MountsMirrored.set {service : Service} (mirrored : service.MountsMirrored)
    {storageId : StorageId} (valid : storageValid storageId) {status : MountStatus}
    {fs : FileSystem} (mirrors : Mirrors status (mountName storageId ∈ fs.names))
    (others : ∀ name, name ≠ mountName storageId → (name ∈ fs.names ↔ name ∈ service.fs.names)) :
    Service.MountsMirrored
      { service with manager := service.manager.setMountStatus storageId status, fs } := by
  intro other otherValid
  by_cases same : other = storageId
  · subst same
    simpa using mirrors
  · simp only [AlbumManager.mountStatus_setMountStatus_of_ne _ _ _ valid otherValid same,
      others _ (mountName_ne valid otherValid same)]
    exact mirrored other otherValid

theorem Service.MountsMirrored.congr {service next : Service} (mirrored : service.MountsMirrored)
    (status : ∀ storageId, next.manager.mountStatus storageId =
      service.manager.mountStatus storageId)
    (names : next.fs.names = service.fs.names) : next.MountsMirrored := by
  intro storageId valid
  rw [status, names]
  exact mirrored storageId valid

/-! ## What mounting can do -/

/-- A custom directory keeps the SD card from being mounted at all. -/
def Service.customDirectory (service : Service) (storageId : StorageId) : Prop :=
  storageId = .sd ∧ service.manager.settings.getCustomImageDirectoryPath ≠ none

/-- The ways an attempt to mount a storage whose name is free can end. -/
inductive TryMountStep (service : Service) (storageId : StorageId) (fault : Fault) :
    Option Result × Service → Prop
  | refused (custom : service.customDirectory storageId) :
      TryMountStep service storageId fault (none, service)
  | aborted (faulty : fault ≠ none) :
      TryMountStep service storageId fault (none,
        { service with fs := service.fs.called (.mountImageDirectory (mountName storageId) false) })
  | failed (status : MountStatus) (faulty : fault ≠ none) (unmounted : status.state ≠ .mounted)
      (failure : status.lastError ≠ .success) :
      TryMountStep service storageId fault (some status.lastError,
        { service with
          manager := service.manager.setMountStatus storageId status
          fs := service.fs.called (.mountImageDirectory (mountName storageId) false) })
  | mounted (clear : fault = none) (allowed : ¬ service.customDirectory storageId) :
      TryMountStep service storageId fault (some .success,
        { service with
          manager := service.manager.setMountStatus storageId ⟨.mounted, .success⟩
          fs := { service.fs.called (.mountImageDirectory (mountName storageId) false) with
            names := insert (mountName storageId) service.fs.names } })

theorem FileSystem.mountImageDirectory_of_absent {fs : FileSystem} {storageId : StorageId}
    (absent : mountName storageId ∉ fs.names) (fault : Fault) :
    fs.mountImageDirectory fault (mountName storageId) =
      if fault = none then
        (.success, { fs.called (.mountImageDirectory (mountName storageId) false) with
            names := insert (mountName storageId) fs.names })
      else (fault.result, fs.called (.mountImageDirectory (mountName storageId) false)) := by
  have name := checkMountName_mountName storageId
  cases fault with
  | none => simp [FileSystem.mountImageDirectory, rTry, rUnless, name, absent, FileSystem.register]
  | some failure =>
      simp [FileSystem.mountImageDirectory, rTry, name, absent, Fault.result, failure.failed]

/-- The catch ladder of `MountAlbum` over a failure: the process aborts, or the
failure is converted. -/
theorem mountAlbum_of_fault {service : Service} {storageId : StorageId}
    (valid : storageValid storageId) (allowed : ¬ service.customDirectory storageId)
    (absent : mountName storageId ∉ service.fs.names) (failure : Failure) :
    ∃ outcome, outcome ≠ some .success ∧
      mountAlbum (some failure) storageId service =
        (outcome, { service with
          fs := service.fs.called (.mountImageDirectory (mountName storageId) false) }) := by
  have verified := verifyStorageId_eq_success_iff.mpr valid
  rw [customDirectory] at allowed
  simp only [mountAlbum, Process.bind_apply, Process.get_apply, if_neg allowed, rTry, verified,
    Result.isSuccess_success, if_true, callFs_apply,
    FileSystem.mountImageDirectory_of_absent absent, reduceCtorEq, if_false, Fault.result]
  repeat' split
  all_goals first
    | exact ⟨none, by simp, rfl⟩
    | exact ⟨some _, by decide, rfl⟩
    | simp_all [Result.isFailure, failure.failed]

theorem mountAlbum_of_clear {service : Service} {storageId : StorageId}
    (valid : storageValid storageId) (allowed : ¬ service.customDirectory storageId)
    (absent : mountName storageId ∉ service.fs.names) :
    mountAlbum none storageId service =
      (some .success, { service with
          fs := { service.fs.called (.mountImageDirectory (mountName storageId) false) with
            names := insert (mountName storageId) service.fs.names } }) := by
  have verified := verifyStorageId_eq_success_iff.mpr valid
  rw [customDirectory] at allowed
  simp only [mountAlbum, Process.bind_apply, Process.get_apply, if_neg allowed, rTry, verified,
    Result.isSuccess_success, if_true, callFs_apply,
    FileSystem.mountImageDirectory_of_absent absent]
  rfl

theorem tryMount_step {service : Service} {storageId : StorageId}
    (valid : storageValid storageId) (absent : mountName storageId ∉ service.fs.names)
    (fault : Fault) :
    TryMountStep service storageId fault (tryMount fault storageId service) := by
  by_cases custom : service.customDirectory storageId
  · have aborted : mountAlbum fault storageId service = (none, service) := by
      rw [mountAlbum, Process.bind_apply, Process.get_apply]
      exact congrFun (if_pos custom) service
    rw [tryMount, Process.bind_of_eq_none aborted]
    exact .refused custom
  · cases fault with
    | none =>
        rw [tryMount, Process.bind_of_eq_some (mountAlbum_of_clear valid custom absent)]
        exact .mounted rfl custom
    | some failure =>
        rcases mountAlbum_of_fault valid custom absent failure with ⟨outcome, failed, equal⟩
        cases outcome with
        | none =>
            rw [tryMount, Process.bind_of_eq_none equal]
            exact .aborted (by simp)
        | some result =>
            have unsuccessful : result.isSuccess = false := by simpa using failed
            rw [tryMount, Process.bind_of_eq_some equal]
            simp only [unsuccessful, Bool.false_eq_true, if_false]
            refine .failed _ (by simp) ?_ ?_
            · repeat' split
              all_goals decide
            · repeat' split
              all_goals decide

/-! ## What the requests can do -/

/-- The ways `MountImageDirectory` and `EnsureMountState` can end. -/
inductive MountStep (service : Service) (storageId : StorageId) (fault : Fault) :
    Option Result × Service → Prop
  | invalid (unknown : ¬ storageValid storageId) :
      MountStep service storageId fault (some albumInvalidStorage.result, service)
  | settled (result : Result) (valid : storageValid storageId)
      (unavailable : (service.manager.mountStatus storageId).state ≠ .available)
      (reported : result = .success ↔
        (service.manager.mountStatus storageId).lastError = .success) :
      MountStep service storageId fault (some result, service)
  | tried {outcome : Option Result × Service} (valid : storageValid storageId)
      (available : (service.manager.mountStatus storageId).state = .available)
      (step : TryMountStep service storageId fault outcome) :
      MountStep service storageId fault outcome

theorem Service.MountsMirrored.absent {service : Service} (mirrored : service.MountsMirrored)
    {storageId : StorageId} (valid : storageValid storageId)
    (unmounted : (service.manager.mountStatus storageId).state ≠ .mounted) :
    mountName storageId ∉ service.fs.names :=
  fun registered => unmounted ((mirrored storageId valid).registered.mpr registered)

section

variable {service : Service} {storageId : StorageId}

theorem verifyStorageId_of_invalid (unknown : ¬ storageValid storageId) :
    verifyStorageId storageId = albumInvalidStorage.result := by
  rw [verifyStorageId, if_neg unknown]

theorem mountImageDirectory_step (mirrored : service.MountsMirrored) (fault : Fault) :
    MountStep service storageId fault (mountImageDirectory fault storageId service) := by
  by_cases valid : storageValid storageId
  · have verified := verifyStorageId_eq_success_iff.mpr valid
    simp only [mountImageDirectory, rTry, rUnless, verified, Result.isSuccess_success, if_true,
      Process.bind_apply, Process.get_apply]
    by_cases available : (service.manager.mountStatus storageId).state = .available
    · rw [if_pos available]
      exact .tried valid available
        (tryMount_step valid (mirrored.absent valid (by simp [available])) fault)
    · rw [if_neg available]
      exact .settled _ valid available Iff.rfl
  · simp only [mountImageDirectory, rTry, verifyStorageId_of_invalid valid]
    exact .invalid valid

variable (storageId) in
theorem ensureMountState_step (mirrored : service.MountsMirrored) (fault : Fault)
    (mountState : MountState) :
    MountStep service storageId fault (ensureMountState fault storageId mountState service) := by
  by_cases valid : storageValid storageId
  · have verified := verifyStorageId_eq_success_iff.mpr valid
    simp only [ensureMountState, rTry, verified, Result.isSuccess_success, if_true,
      Process.bind_apply, Process.get_apply]
    by_cases available : (service.manager.mountStatus storageId).state = .available
    · rw [if_neg (not_not.mpr available)]
      exact .tried valid available
        (tryMount_step valid (mirrored.absent valid (by simp [available])) fault)
    · rw [if_pos available]
      by_cases success : (service.manager.mountStatus storageId).lastError = .success
      · rw [if_pos (by simpa using success)]
        exact .settled _ valid available (by simp [success])
      · rw [if_neg (by simpa using success)]
        -- every result of the ladder is a failure
        repeat' split
        all_goals
          refine .settled _ valid available (iff_of_false ?_ success)
          first | exact success | decide
  · simp only [ensureMountState, rTry, verifyStorageId_of_invalid valid]
    exact .invalid valid

theorem closeStreamsByStorageId_eq (storageId : StorageId) :
    closeStreamsByStorageId storageId = pure () := by
  funext service
  simp only [closeStreamsByStorageId, Process.bind_apply, Process.get_apply]
  rw [if_neg]
  rintro (⟨slot, used⟩ | ⟨slot, used⟩)
  · exact used rfl
  · exact used rfl

theorem unmount_of_registered {name : Text} (registered : name ∈ service.fs.names) :
    unmount name service = (some (), { service with
      fs := { service.fs.called (.unmount name true) with
        names := service.fs.names.erase name } }) := by
  simp [unmount, Process.bind_apply, FileSystem.unmount, rUnless, registered]

theorem unmountAlbum_of_registered (valid : storageValid storageId)
    (registered : mountName storageId ∈ service.fs.names) :
    unmountAlbum storageId service = (some .success, { service with
      fs := { service.fs.called (.unmount (mountName storageId) true) with
        names := service.fs.names.erase (mountName storageId) } }) := by
  have verified := verifyStorageId_eq_success_iff.mpr valid
  rw [unmountAlbum, Process.bind_apply, Process.get_apply]
  by_cases custom : storageId = .sd ∧
      service.manager.settings.getCustomImageDirectoryPath ≠ none
  · have name : ascii "SD" = mountName storageId := by
      rw [custom.1]
      decide
    simp only [if_pos custom, name]
    exact Process.bind_of_eq_some (unmount_of_registered registered) _
  · simp only [if_neg custom, rTry, verified, Result.isSuccess_success, if_true]
    exact Process.bind_of_eq_some (unmount_of_registered registered) _

/-- The ways a storage can be left. -/
inductive LeaveStep (service : Service) (storageId : StorageId) (state : MountState) :
    Option Result × Service → Prop
  | invalid (unknown : ¬ storageValid storageId) :
      LeaveStep service storageId state (some albumInvalidStorage.result, service)
  | settled (valid : storageValid storageId)
      (unmounted : (service.manager.mountStatus storageId).state ≠ .mounted) :
      LeaveStep service storageId state (some .success, { service with
        manager := service.manager.setMountStatus storageId ⟨state, albumIsNotMounted.result⟩ })
  | unmounted (valid : storageValid storageId)
      (mounted : (service.manager.mountStatus storageId).state = .mounted) :
      LeaveStep service storageId state (some .success, { service with
        manager := service.manager.setMountStatus storageId ⟨state, albumIsNotMounted.result⟩
        fs := { service.fs.called (.unmount (mountName storageId) true) with
          names := service.fs.names.erase (mountName storageId) } })

theorem leaveImageDirectory_step (mirrored : service.MountsMirrored) (state : MountState) :
    LeaveStep service storageId state (leaveImageDirectory state storageId service) := by
  by_cases valid : storageValid storageId
  · have verified := verifyStorageId_eq_success_iff.mpr valid
    simp only [leaveImageDirectory, rTry, verified, Result.isSuccess_success, if_true,
      closeStreamsByStorageId_eq, pure_bind]
    by_cases mounted : (service.manager.mountStatus storageId).state = .mounted
    · have registered := (mirrored storageId valid).registered.mp mounted
      simp only [Process.bind_apply, Process.get_apply, if_pos mounted,
        unmountAlbum_of_registered valid registered]
      exact .unmounted valid mounted
    · simp only [Process.bind_apply, Process.get_apply, if_neg mounted, Process.pure_apply]
      exact .settled valid mounted
  · simp only [leaveImageDirectory, rTry, verifyStorageId_of_invalid valid]
    exact .invalid valid

end

/-! ## Every step keeps the invariant -/

section

variable {service : Service} {storageId : StorageId} {fault : Fault}
  {outcome : Option Result × Service}

theorem sound_mountImageDirectory (name : Text) :
    (MountCall.mountImageDirectory name false).Sound :=
  fun _ => rfl

theorem sound_unmount (name : Text) : (MountCall.unmount name true).Sound :=
  fun _ => rfl

theorem TryMountStep.mirrored (mirrored : service.MountsMirrored)
    (valid : storageValid storageId)
    (absent : mountName storageId ∉ service.fs.names)
    (step : TryMountStep service storageId fault outcome) : outcome.2.MountsMirrored := by
  cases step with
  | refused => exact mirrored
  | aborted => exact mirrored
  | failed status _ unmounted failure =>
      refine mirrored.set valid ⟨?_, ?_⟩ fun _ _ => Iff.rfl
      · exact iff_of_false unmounted failure
      · exact iff_of_false unmounted absent
  | mounted =>
      refine mirrored.set valid ⟨?_, ?_⟩ ?_
      · exact iff_of_true rfl rfl
      · exact iff_of_true rfl (Finset.mem_insert_self _ _)
      · intro name different
        simp [Finset.mem_insert, different]

theorem TryMountStep.calls (sound : service.fs.CallsSound)
    (step : TryMountStep service storageId fault outcome) : outcome.2.fs.CallsSound := by
  have called := sound.called (sound_mountImageDirectory (mountName storageId))
  cases step with
  | refused => exact sound
  | aborted => exact called
  | failed => exact called
  | mounted => exact called

theorem MountStep.mirrored (mirrored : service.MountsMirrored)
    (step : MountStep service storageId fault outcome) : outcome.2.MountsMirrored := by
  cases step with
  | invalid => exact mirrored
  | settled => exact mirrored
  | tried valid available step =>
      exact step.mirrored mirrored valid (mirrored.absent valid (by simp [available]))

theorem MountStep.invariant (holds : MountInvariant service)
    (step : MountStep service storageId fault outcome) : MountInvariant outcome.2 := by
  refine ⟨step.mirrored holds.mirrored, ?_⟩
  cases step with
  | invalid => exact holds.calls
  | settled => exact holds.calls
  | tried _ _ step => exact step.calls holds.calls

theorem LeaveStep.invariant {state : MountState} (holds : MountInvariant service)
    (left : state ≠ .mounted) (step : LeaveStep service storageId state outcome) :
    MountInvariant outcome.2 := by
  have failure : albumIsNotMounted.result ≠ .success := by decide
  cases step with
  | invalid => exact holds
  | settled valid unmounted =>
      have absent := holds.mirrored.absent valid unmounted
      refine ⟨holds.mirrored.set valid ⟨?_, ?_⟩ fun _ _ => Iff.rfl, holds.calls⟩
      · exact iff_of_false left failure
      · exact iff_of_false left absent
  | unmounted valid mounted =>
      refine ⟨holds.mirrored.set valid ⟨?_, ?_⟩ ?_,
        holds.calls.called (sound_unmount (mountName storageId))⟩
      · exact iff_of_false left failure
      · exact iff_of_false left (Finset.notMem_erase _ _)
      · intro name different
        simp [Finset.mem_erase, different]

/-- Success is reported of mounted storages only. -/
theorem MountStep.mounted_of_success (mirrored : service.MountsMirrored)
    (step : MountStep service storageId fault outcome) (success : outcome.1 = some .success) :
    storageValid storageId = true ∧
      (outcome.2.manager.mountStatus storageId).state = .mounted := by
  cases step with
  | invalid =>
      have failure : albumInvalidStorage.result ≠ .success := by decide
      exact absurd (Option.some.inj success) failure
  | settled result valid _ reported =>
      have settled := reported.mp (Option.some.inj success)
      exact ⟨valid, (mirrored storageId valid).success.mpr settled⟩
  | tried valid _ step =>
      refine ⟨valid, ?_⟩
      cases step with
      | refused => cases success
      | aborted => cases success
      | failed _ _ _ failure => exact absurd (Option.some.inj success) failure
      | mounted => simp

/-! ## What mounting leaves alone -/

/-- Nothing but the mount statuses and the mount table has changed. -/
structure MountFrame (service next : Service) : Prop where
  files : next.fs.files = service.fs.files
  mutations : next.fs.mutations = service.fs.mutations
  cache : next.manager.cache = service.manager.cache
  readReserve : next.manager.readReserve = service.manager.readReserve
  writeReserve : next.manager.writeReserve = service.manager.writeReserve
  settings : next.manager.settings = service.manager.settings
  workMemorySize : next.manager.workMemorySize = service.manager.workMemorySize
  isQuest : next.isQuest = service.isQuest

theorem MountFrame.refl (service : Service) : MountFrame service service :=
  ⟨rfl, rfl, rfl, rfl, rfl, rfl, rfl, rfl⟩

theorem MountFrame.trans {next final : Service} (first : MountFrame service next)
    (second : MountFrame next final) : MountFrame service final where
  files := second.files.trans first.files
  mutations := second.mutations.trans first.mutations
  cache := second.cache.trans first.cache
  readReserve := second.readReserve.trans first.readReserve
  writeReserve := second.writeReserve.trans first.writeReserve
  settings := second.settings.trans first.settings
  workMemorySize := second.workMemorySize.trans first.workMemorySize
  isQuest := second.isQuest.trans first.isQuest

theorem MountStep.frame (step : MountStep service storageId fault outcome) :
    MountFrame service outcome.2 := by
  cases step with
  | invalid => exact .refl service
  | settled => exact .refl service
  | tried _ _ step =>
      cases step with
      | refused => exact .refl service
      | aborted => constructor <;> rfl
      | failed => constructor <;> simp [FileSystem.called]
      | mounted => constructor <;> simp [FileSystem.called]

theorem MountStep.status_of_ne {other : StorageId} (otherValid : storageValid other)
    (different : other ≠ storageId) (step : MountStep service storageId fault outcome) :
    outcome.2.manager.mountStatus other = service.manager.mountStatus other := by
  cases step with
  | invalid => rfl
  | settled => rfl
  | tried valid _ step =>
      cases step with
      | refused => rfl
      | aborted => rfl
      | failed =>
          exact AlbumManager.mountStatus_setMountStatus_of_ne _ _ _ valid otherValid different
      | mounted =>
          exact AlbumManager.mountStatus_setMountStatus_of_ne _ _ _ valid otherValid different

/-- A storage that is mounted, or that an attempt would mount. -/
def Service.Mountable (service : Service) (storageId : StorageId) (fault : Fault) : Prop :=
  (service.manager.mountStatus storageId).state = .mounted ∨
    (service.manager.mountStatus storageId).state = .available ∧ fault = none ∧
      ¬ service.customDirectory storageId

theorem MountStep.mountable_of_ne {other : StorageId} (otherValid : storageValid other)
    (different : other ≠ storageId) (step : MountStep service storageId fault outcome)
    (otherFault : Fault) :
    outcome.2.Mountable other otherFault ↔ service.Mountable other otherFault := by
  rw [Service.Mountable, Service.Mountable, step.status_of_ne otherValid different,
    Service.customDirectory, Service.customDirectory, step.frame.settings]

theorem MountStep.success_iff (mirrored : service.MountsMirrored)
    (step : MountStep service storageId fault outcome) :
    outcome.1 = some .success ↔
      storageValid storageId = true ∧ service.Mountable storageId fault := by
  cases step with
  | invalid unknown =>
      have failure : albumInvalidStorage.result ≠ .success := by decide
      exact iff_of_false (fun success => failure (Option.some.inj success))
        fun mountable => unknown mountable.1
  | settled result valid unavailable reported =>
      simp only [Option.some.injEq, reported, ← (mirrored storageId valid).success, valid,
        Service.Mountable, unavailable, false_and, or_false, true_and]
  | tried valid available step =>
      simp only [valid, Service.Mountable, available, reduceCtorEq, false_or, true_and]
      cases step with
      | refused custom => simp [custom]
      | aborted faulty => simp [faulty]
      | failed _ faulty _ failure => simp [faulty, failure]
      | mounted clear allowed => simp [clear, allowed]

end

/-! ## Runs -/

/-- The requests on the storages; the fault is that of the mount attempt, if
there is one. -/
inductive MountRequest where
  | mountImageDirectory (fault : Fault) (storageId : StorageId)
  | ensureMountState (fault : Fault) (storageId : StorageId) (mountState : MountState)
  | closeImageDirectory (storageId : StorageId)
  | unmountImageDirectory (storageId : StorageId)

namespace MountRequest

def storageId : MountRequest → StorageId
  | mountImageDirectory _ storageId => storageId
  | ensureMountState _ storageId _ => storageId
  | closeImageDirectory storageId => storageId
  | unmountImageDirectory storageId => storageId

/-- Whether success of the request means that the storage is mounted. -/
def asksMounted : MountRequest → Bool
  | mountImageDirectory _ _ => true
  | ensureMountState _ _ _ => true
  | closeImageDirectory _ => false
  | unmountImageDirectory _ => false

def perform : MountRequest → Process Service Result
  | mountImageDirectory fault storageId => Capsrv.mountImageDirectory fault storageId
  | ensureMountState fault storageId mountState =>
      Capsrv.ensureMountState fault storageId mountState
  | closeImageDirectory storageId => Capsrv.closeImageDirectory storageId
  | unmountImageDirectory storageId => Capsrv.unmountImageDirectory storageId

theorem preserves (request : MountRequest) :
    Process.Preserves MountInvariant request.perform := by
  intro service holds
  cases request with
  | mountImageDirectory fault storageId =>
      exact (mountImageDirectory_step holds.mirrored fault).invariant holds
  | ensureMountState fault storageId mountState =>
      exact (ensureMountState_step _ holds.mirrored fault mountState).invariant holds
  | closeImageDirectory storageId =>
      exact (leaveImageDirectory_step holds.mirrored .unmounted).invariant holds (by decide)
  | unmountImageDirectory storageId =>
      exact (leaveImageDirectory_step holds.mirrored .available).invariant holds (by decide)

theorem mounted_of_success {service : Service} (mirrored : service.MountsMirrored)
    (request : MountRequest) (asks : request.asksMounted)
    (success : (request.perform service).1 = some .success) :
    storageValid request.storageId = true ∧
      ((request.perform service).2.manager.mountStatus request.storageId).state = .mounted := by
  cases request with
  | mountImageDirectory fault storageId =>
      exact (mountImageDirectory_step mirrored fault).mounted_of_success mirrored success
  | ensureMountState fault storageId mountState =>
      exact (ensureMountState_step _ mirrored fault mountState).mounted_of_success mirrored success
  | closeImageDirectory => cases asks
  | unmountImageDirectory => cases asks

/-- A request on an unknown storage only reports it. -/
theorem perform_of_invalid (request : MountRequest) (service : Service)
    (unknown : ¬ storageValid request.storageId) :
    request.perform service = (some albumInvalidStorage.result, service) := by
  have refused : ∀ rest : Process Service Result,
      rTry (verifyStorageId request.storageId) pure rest service =
        (some albumInvalidStorage.result, service) := by
    intro rest
    rw [verifyStorageId_of_invalid unknown]
    rfl
  cases request <;> exact refused _

end MountRequest

/-! ## Start and end -/

theorem MountsMirrored.of_unmounted {service : Service}
    (absent : ∀ storageId, mountName storageId ∉ service.fs.names)
    (unmounted : ∀ storageId, (service.manager.mountStatus storageId).state ≠ .mounted)
    (failure : ∀ storageId, (service.manager.mountStatus storageId).lastError ≠ .success) :
    service.MountsMirrored :=
  fun storageId _ => ⟨iff_of_false (unmounted storageId) (failure storageId),
    iff_of_false (unmounted storageId) (absent storageId)⟩

theorem mirrored_announced (files : FileStore FsPath (List UInt8)) :
    (Service.announced files).MountsMirrored := by
  have status : ∀ storageId, (Service.announced files).manager.mountStatus storageId =
      ⟨.available, albumIsNotMounted.result⟩ := by
    intro storageId
    simp [AlbumManager.mountStatus, Service.announced]
  refine MountsMirrored.of_unmounted (fun _ => Finset.notMem_empty _) ?_ ?_ <;>
    intro storageId <;> rw [status] <;> decide

theorem ne_mountName_TM (storageId : StorageId) : mountName storageId ≠ ascii "TM" := by
  unfold mountName
  split <;> decide

theorem FileSystem.mountSystemSaveData_success {fs : FileSystem} {fault : Fault} {name : Text}
    (success : (fs.mountSystemSaveData fault name).1 = .success) :
    (fs.mountSystemSaveData fault name).2 = { fs with names := insert name fs.names } := by
  simp only [mountSystemSaveData, register, rTry, rUnless] at success ⊢
  repeat' split at success
  all_goals simp_all

theorem mountSaveData_success {service next : Service} {createFault mountFault : Fault}
    (success : mountSaveData createFault mountFault service = (some (), next)) :
    next = { service with fs := { service.fs with
      names := insert (ascii "TM") service.fs.names } } := by
  unfold mountSaveData at success
  split at success
  case isTrue => cases success
  case isFalse =>
    simp only [Process.bind_apply, callFs_apply] at success
    by_cases mounted : (service.fs.mountSystemSaveData mountFault (ascii "TM")).1 = .success
    · rw [if_pos (by simpa using mounted), FileSystem.mountSystemSaveData_success mounted]
        at success
      exact (Prod.mk.inj success).2.symm
    · rw [if_neg (by simpa using mounted)] at success
      cases success

/-- What `Initialize` leaves when it returns. -/
theorem albumManagerInitialize_started {service started : Service} {settings : AlbumSettings}
    {createFault mountFault : Fault}
    (begun : albumManagerInitialize settings createFault mountFault service =
      (some (), started)) :
    ∃ names : Finset Text, (∀ name ∈ names, name = ascii "TM" ∨ name ∈ service.fs.names) ∧
      started = { service with
        fs := { service.fs with names }
        manager := { service.manager with
          settings
          nandMountStatus := {}
          sdMountStatus := {}
          readReserve := .empty
          writeReserve := .empty } } := by
  simp only [albumManagerInitialize, Process.bind_apply, modifyManager_apply, Process.get_apply]
    at begun
  split at begun
  case isTrue =>
    rw [Process.bind_apply] at begun
    cases mounted : mountSaveData createFault mountFault
        { service with manager := { service.manager with settings } } with
    | mk value prepared =>
        rw [mounted] at begun
        cases value with
        | none => cases begun
        | some value =>
            have prepared := mountSaveData_success mounted
            subst prepared
            cases begun
            exact ⟨_, fun name member => Finset.mem_insert.mp member, rfl⟩
  case isFalse =>
    cases begun
    exact ⟨_, fun name member => .inr member, rfl⟩

/-- `Initialize` registers at most the name of the save data. -/
theorem albumManagerInitialize_invariant {service started : Service} {settings : AlbumSettings}
    {createFault mountFault : Fault}
    (absent : ∀ storageId, mountName storageId ∉ service.fs.names)
    (quiet : service.fs.calls = [])
    (begun : albumManagerInitialize settings createFault mountFault service =
      (some (), started)) : MountInvariant started := by
  rcases albumManagerInitialize_started begun with ⟨names, known, rfl⟩
  have unregistered : ∀ storageId, mountName storageId ∉ names := by
    intro storageId member
    rcases known _ member with same | member
    · exact ne_mountName_TM storageId same
    · exact absent storageId member
  constructor
  · refine MountsMirrored.of_unmounted unregistered ?_ ?_ <;> intro storageId <;>
      simp [AlbumManager.mountStatus, (by decide : albumIsNotMounted.result ≠ .success)]
  · intro call member
    change call ∈ service.fs.calls at member
    rw [quiet] at member
    cases member

/-- `Exit` leaves a storage as closing it does. -/
theorem exitStorage_step {service : Service} (mirrored : service.MountsMirrored)
    {storageId : StorageId} (valid : storageValid storageId) :
    ∃ next, exitStorage storageId service = (some (), next) ∧
      LeaveStep service storageId .unmounted (some .success, next) := by
  simp only [exitStorage, closeStreamsByStorageId_eq, pure_bind]
  by_cases mounted : (service.manager.mountStatus storageId).state = .mounted
  · have registered := (mirrored storageId valid).registered.mp mounted
    simp only [Process.bind_apply, Process.get_apply, if_pos mounted,
      unmountAlbum_of_registered valid registered]
    exact ⟨_, rfl, .unmounted valid mounted⟩
  · simp only [Process.bind_apply, Process.get_apply, if_neg mounted]
    exact ⟨_, rfl, .settled valid mounted⟩

/-- A storage that has been left is in the given state, and no other has changed. -/
theorem LeaveStep.status {service : Service} {storageId : StorageId} {state : MountState}
    {outcome : Option Result × Service} (valid : storageValid storageId)
    (step : LeaveStep service storageId state outcome) (other : StorageId)
    (otherValid : storageValid other) :
    (outcome.2.manager.mountStatus other).state =
      if other = storageId then state else (service.manager.mountStatus other).state := by
  have others : other ≠ storageId →
      (service.manager.setMountStatus storageId ⟨state, albumIsNotMounted.result⟩).mountStatus
        other = service.manager.mountStatus other :=
    AlbumManager.mountStatus_setMountStatus_of_ne _ _ _ valid otherValid
  by_cases same : other = storageId
  · subst same
    cases step with
    | invalid unknown => exact absurd valid unknown
    | settled => simp
    | unmounted => simp
  · cases step with
    | invalid => simp [same]
    | settled => simp [same, others same]
    | unmounted => simp [same, others same]

theorem unmount_state (name : Text) (service : Service) :
    (unmount name service).2 = { service with fs := (service.fs.unmount name).2 } := by
  simp only [unmount, Process.bind_apply, callFs_apply]
  split <;> rfl

theorem FileSystem.unmount_names_subset (name : Text) (fs : FileSystem) :
    (fs.unmount name).2.names ⊆ fs.names := by
  simp only [unmount, rUnless]
  split
  · exact Finset.erase_subset name fs.names
  · exact Finset.Subset.refl _

theorem FileSystem.unmount_calls (name : Text) (fs : FileSystem) :
    (fs.unmount name).2.calls = fs.calls ++ [.unmount name (name ∈ fs.names)] := by
  simp only [unmount, rUnless]
  split <;> rfl

/-- Both storages are left, one after the other, and neither is mounted after that. -/
theorem exitStorages_left {service : Service} (holds : MountInvariant service) :
    ∃ first second, exitStorage .nand service = (some (), first) ∧
      LeaveStep service .nand .unmounted (some .success, first) ∧
      exitStorage .sd first = (some (), second) ∧
      LeaveStep first .sd .unmounted (some .success, second) ∧
      second.fs.CallsSound ∧ ∀ storageId, mountName storageId ∉ second.fs.names := by
  have nandValid : storageValid .nand := by decide
  have sdValid : storageValid .sd := by decide
  rcases exitStorage_step holds.mirrored nandValid with ⟨first, exitNand, leftNand⟩
  have holdsFirst := leftNand.invariant holds (by decide)
  rcases exitStorage_step holdsFirst.mirrored sdValid with ⟨second, exitSd, leftSd⟩
  have holdsSecond := leftSd.invariant holdsFirst (by decide)
  have nandState : (second.manager.mountStatus .nand).state = .unmounted :=
    (leftSd.status sdValid .nand nandValid).trans (leftNand.status nandValid .nand nandValid)
  have sdState : (second.manager.mountStatus .sd).state = .unmounted :=
    leftSd.status sdValid .sd sdValid
  refine ⟨first, second, exitNand, leftNand, exitSd, leftSd, holdsSecond.calls, ?_⟩
  intro storageId registered
  by_cases nand : storageId = .nand
  · subst nand
    exact holdsSecond.mirrored.absent nandValid (by simp [nandState]) registered
  · have same : mountName storageId = mountName .sd := by
      simp [mountName, nand, (by decide : StorageId.sd ≠ .nand)]
    rw [same] at registered
    exact holdsSecond.mirrored.absent sdValid (by simp [sdState]) registered

/-- After `Exit`, even if it aborts on its last call, no album is mounted. -/
theorem albumManagerExit_unmounted {service : Service} (holds : MountInvariant service) :
    (albumManagerExit service).2.fs.CallsSound ∧ ∀ storageId,
      mountName storageId ∉ (albumManagerExit service).2.fs.names := by
  rcases exitStorages_left holds with ⟨first, second, exitNand, -, exitSd, -, calls, absent⟩
  have final : (albumManagerExit service).2 =
      { second with fs := (second.fs.unmount (ascii "TM")).2 } := by
    rw [albumManagerExit, Process.bind_of_eq_some exitNand, Process.bind_of_eq_some exitSd,
      unmount_state]
  rw [final]
  constructor
  · intro call member
    rw [FileSystem.unmount_calls, List.mem_append, List.mem_singleton] at member
    rcases member with earlier | rfl
    · exact calls call earlier
    · rintro ⟨storageId, same⟩
      exact absurd same.symm (ne_mountName_TM storageId)
  · intro storageId member
    exact absent storageId (FileSystem.unmount_names_subset _ _ member)

/-! ## Whole runs -/

/-- Whatever is requested after `Initialize`, and however the mount attempts
end: the statuses mirror the mount table, no call finds an album name in the
wrong state, success means mounted, unknown storages change nothing, and `Exit`
leaves no album mounted. -/
theorem mountRequests_mirrored (service : Service) (settings : AlbumSettings)
    (createFault mountFault : Fault)
    (absent : ∀ storageId, mountName storageId ∉ service.fs.names)
    (quiet : service.fs.calls = []) (started : Service)
    (begun : albumManagerInitialize settings createFault mountFault service =
      (some (), started))
    (requests : List MountRequest) :
    let reached := (Process.run MountRequest.perform requests started).2
    reached.MountsMirrored ∧ reached.fs.CallsSound ∧
      (∀ request : MountRequest, request.asksMounted →
        (request.perform reached).1 = some .success →
        storageValid request.storageId = true ∧
          ((request.perform reached).2.manager.mountStatus request.storageId).state =
            .mounted) ∧
      (∀ request : MountRequest, ¬ storageValid request.storageId →
        (request.perform reached).2 = reached) ∧
      (albumManagerExit reached).2.fs.CallsSound ∧
      ∀ storageId, mountName storageId ∉ (albumManagerExit reached).2.fs.names := by
  intro reached
  have holds : MountInvariant reached :=
    Process.preserves_run MountRequest.perform MountRequest.preserves requests started
      (albumManagerInitialize_invariant absent quiet begun)
  refine ⟨holds.mirrored, holds.calls, ?_, ?_, albumManagerExit_unmounted holds⟩
  · intro request asks success
    exact request.mounted_of_success holds.mirrored asks success
  · intro request unknown
    rw [request.perform_of_invalid reached unknown]

/-- Both albums are mounted, and one of them is closed again. -/
theorem mountRequests_mirrored_closed :
    let started := (albumManagerInitialize .unset none none (.constructed fun _ => none)).2
    let reached := (Process.run MountRequest.perform
      [.unmountImageDirectory .nand, .mountImageDirectory none .nand,
        .unmountImageDirectory .sd, .ensureMountState none .sd .mounted,
        .closeImageDirectory .nand] started).2
    (reached.manager.mountStatus .sd).state = .mounted ∧ reached.MountsMirrored := by
  refine ⟨by decide, ?_⟩
  exact (mountRequests_mirrored (.constructed fun _ => none) .unset none none
    (fun _ => Finset.notMem_empty _) rfl _ rfl _).1

end Capsrv
