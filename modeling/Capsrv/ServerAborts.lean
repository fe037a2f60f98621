import Capsrv.Foundation.Aborts
import Capsrv.ServerInvariant

/-! # Messages that end the process

Five things end the process: a request that is not made for its handler, a handler
that is not implemented, a session that cannot be opened, a primary storage that
cannot be read, and an attempt to mount an available storage that ends in one of two
errors of the file system or finds a custom directory. Which message comes to one of
them is decided by the message and the state it finds.
-/

namespace Capsrv

open Server Service Process

/-! ## Mount attempts -/

/-- The errors on which `MountAlbum` ends the process. -/
def Fault.Fatal (fault : Fault) : Prop :=
  (Fs.mountNameAlreadyExists.includes fault.result ||
    Fs.allocationFailure.includes fault.result) = true

theorem Fault.not_fatal_none : ¬ Fault.Fatal none := by
  rw [Fault.Fatal]
  decide

/-- A request that needs the storage mounted would end the process. -/
structure Service.MountFatal (service : Service) (storageId : StorageId) (fault : Fault) :
    Prop where
  valid : storageValid storageId = true
  available : (service.manager.mountStatus storageId).state = .available
  cause : service.customDirectory storageId ∨ fault.Fatal

section

variable {service : Service} {storageId : StorageId} {fault : Fault}

theorem total_callFs {α : Type} (call : FileSystem → α × FileSystem) : (callFs call).Total :=
  fun _ aborts => by cases aborts

theorem total_modifyManager (change : AlbumManager → AlbumManager) :
    (modifyManager change).Total :=
  total_modify _

theorem mountImageDirectory_fst (fs : FileSystem) (fault : Fault) (storageId : StorageId) :
    (FileSystem.mountImageDirectory fault (mountName storageId) fs).1 =
      if fault = none ∧ mountName storageId ∈ fs.names then Fs.mountNameAlreadyExists.result
      else fault.result := by
  have name := checkMountName_mountName storageId
  cases fault with
  | some failure =>
      simp [FileSystem.mountImageDirectory, rTry, name, Fault.result, failure.failed]
  | none =>
      by_cases registered : mountName storageId ∈ fs.names
      · simp [FileSystem.mountImageDirectory, rTry, rUnless, name, Fault.result, registered,
          FileSystem.register]
      · simp [FileSystem.mountImageDirectory, rTry, rUnless, name, Fault.result, registered,
          FileSystem.register]

/-- The process ends for a custom directory, for a fatal error, and when the name is
taken. -/
theorem aborts_mountAlbum (valid : storageValid storageId) :
    (mountAlbum fault storageId).Aborts service ↔
      service.customDirectory storageId ∨ fault.Fatal ∨
        fault = none ∧ mountName storageId ∈ service.fs.names := by
  have verified := verifyStorageId_eq_success_iff.mpr valid
  have attempt := mountImageDirectory_fst service.fs fault storageId
  by_cases custom : service.customDirectory storageId
  · have aborted : mountAlbum fault storageId service = (none, service) := by
      rw [mountAlbum, bind_apply, get_apply]
      exact congrFun (if_pos custom) service
    rw [Aborts, aborted]
    exact iff_of_true rfl (.inl custom)
  · have allowed := custom
    rw [Service.customDirectory] at allowed
    simp only [Aborts, mountAlbum, bind_apply, get_apply, if_neg allowed, rTry, verified,
      Result.isSuccess_success, if_true, callFs_apply, custom, false_or]
    generalize (FileSystem.mountImageDirectory fault (mountName storageId) service.fs).1 = result
      at attempt
    by_cases taken : fault = none ∧ mountName storageId ∈ service.fs.names
    · rw [if_pos taken] at attempt
      subst attempt
      rw [if_pos (by decide)]
      exact iff_of_true rfl (.inr taken)
    · rw [if_neg taken] at attempt
      subst attempt
      rw [or_iff_left taken]
      by_cases fatal : fault.Fatal
      · have caught := fatal
        rw [Fault.Fatal] at caught
        rw [if_pos caught]
        exact iff_of_true rfl fatal
      · have passed := fatal
        rw [Fault.Fatal] at passed
        rw [if_neg passed]
        refine iff_of_false ?_ fatal
        exact ((total_pure _).ite ((total_pure _).ite ((total_pure _).ite (total_pure _)))) _

theorem aborts_tryMount (valid : storageValid storageId) :
    (tryMount fault storageId).Aborts service ↔
      service.customDirectory storageId ∨ fault.Fatal ∨
        fault = none ∧ mountName storageId ∈ service.fs.names := by
  rw [← aborts_mountAlbum valid]
  exact aborts_bind_of_total fun _ => (total_modifyManager _).bind fun _ => total_pure _

/-- A guarded attempt. -/
theorem aborts_attempt_iff (mirrored : service.MountsMirrored) {settled : Process Service Result}
    (total : settled.Total) :
    (rTry (verifyStorageId storageId) pure
      (if (service.manager.mountStatus storageId).state = .available then
        tryMount fault storageId else settled)).Aborts service ↔
      service.MountFatal storageId fault := by
  by_cases valid : storageValid storageId
  · have verified := verifyStorageId_eq_success_iff.mpr valid
    rw [rTry, verified, if_pos (by decide)]
    by_cases available : (service.manager.mountStatus storageId).state = .available
    · have absent := mirrored.absent valid (by simp [available])
      have free : ¬ (fault = none ∧ mountName storageId ∈ service.fs.names) :=
        fun taken => absent taken.2
      rw [if_pos available, aborts_tryMount valid, or_iff_left free]
      exact ⟨fun cause => ⟨valid, available, cause⟩, fun fatal => fatal.cause⟩
    · rw [if_neg available]
      exact iff_of_false (total service) fun fatal => available fatal.available
  · rw [rTry, verifyStorageId_of_invalid valid, if_neg (by decide)]
    exact iff_of_false (not_aborts_pure _) fun fatal => valid fatal.valid

theorem aborts_mountImageDirectory (mirrored : service.MountsMirrored) :
    (mountImageDirectory fault storageId).Aborts service ↔
      service.MountFatal storageId fault := by
  rw [← aborts_attempt_iff mirrored
    (total_pure (service.manager.mountStatus storageId).lastError)]
  rw [mountImageDirectory, rTry, rTry]
  split
  · rw [aborts_get_bind, rUnless]
  · rfl

theorem aborts_ensureMountState (mirrored : service.MountsMirrored) (mountState : MountState) :
    (ensureMountState fault storageId mountState).Aborts service ↔
      service.MountFatal storageId fault := by
  let status := service.manager.mountStatus storageId
  have total : Total (if status.lastError.isSuccess then (pure .success : Process Service Result)
      else if status.lastError.value ≠ 206 then pure status.lastError
      else if albumPathUnavailable.includes status.lastError then pure status.lastError
      else if mountState ≠ .mounted then pure albumPathUnavailable.result
      else pure albumUnknown73.result) :=
    (total_pure _).ite ((total_pure _).ite ((total_pure _).ite
      ((total_pure _).ite (total_pure _))))
  rw [← aborts_attempt_iff mirrored total, ensureMountState, rTry, rTry]
  split
  · rw [aborts_get_bind]
    dsimp only
    rw [ite_not]
  · rfl

theorem not_aborts_leaveImageDirectory (mirrored : service.MountsMirrored) (state : MountState) :
    ¬ (leaveImageDirectory state storageId).Aborts service := by
  have step : LeaveStep service storageId state (leaveImageDirectory state storageId service) :=
    leaveImageDirectory_step mirrored state
  rw [Aborts]
  intro aborted
  generalize leaveImageDirectory state storageId service = outcome at step aborted
  cases step <;> cases aborted

end

/-! ## Requests -/

section

variable {service next : Service} {storageId : StorageId} {fault : Fault} {α : Type}

/-- Behind the storage nothing aborts. -/
theorem aborts_ensured (mirrored : service.MountsMirrored) {early : Result → Process Service α}
    {rest : Process Service α} (refused : ∀ result, (early result).Total)
    (mounted : rest.Total) :
    (ensureMountState fault storageId .mounted >>= fun result =>
      rTry result early rest).Aborts service ↔ service.MountFatal storageId fault := by
  rw [← aborts_ensureMountState mirrored .mounted]
  exact aborts_bind_of_total fun result => mounted.ite (refused result)

/-- What is done with a storage leaves the other one as fatal as it was. -/
theorem mountFatal_of_frame {other : StorageId} {otherFault : Fault}
    (frame : MountFrame service next)
    (status : storageValid other → next.manager.mountStatus other =
      service.manager.mountStatus other) :
    next.MountFatal other otherFault ↔ service.MountFatal other otherFault := by
  have custom : next.customDirectory other ↔ service.customDirectory other := by
    rw [Service.customDirectory, Service.customDirectory, frame.settings]
  constructor
  · rintro ⟨valid, available, cause⟩
    rw [status valid] at available
    rw [custom] at cause
    exact ⟨valid, available, cause⟩
  · rintro ⟨valid, available, cause⟩
    rw [← status valid] at available
    rw [← custom] at cause
    exact ⟨valid, available, cause⟩

/-- Mounting two storages, the second one behind the first. -/
def Service.PairFatal (service : Service) (first second : StorageId)
    (firstFault secondFault : Fault) : Prop :=
  service.MountFatal first firstFault ∨
    storageValid first = true ∧ service.Mountable first firstFault ∧ second ≠ first ∧
      service.MountFatal second secondFault

theorem aborts_ensuredPair (mirrored : service.MountsMirrored) {early : Result → Process Service α}
    {rest : Process Service α} (refused : ∀ result, (early result).Total)
    (mounted : rest.Total) (first second : StorageId) (firstFault secondFault : Fault) :
    (ensureMountState firstFault first .mounted >>= fun ensured =>
      rTry ensured early (ensureMountState secondFault second .mounted >>= fun ensured =>
        rTry ensured early rest)).Aborts service ↔
      service.PairFatal first second firstFault secondFault := by
  have step := ensureMountState_step first mirrored firstFault .mounted
  have later := step.mirrored mirrored
  have success := step.success_iff mirrored
  rw [aborts_bind, aborts_ensureMountState mirrored, Service.PairFatal]
  apply or_congr_right
  -- the second attempt finds the storage of the first one mounted
  have second_iff : (storageValid first = true ∧ service.Mountable first firstFault) →
      ((ensureMountState firstFault first .mounted service).2.MountFatal second secondFault ↔
        second ≠ first ∧ service.MountFatal second secondFault) := by
    intro mountable
    rcases eq_or_ne second first with rfl | different
    · have mounted := (step.mounted_of_success mirrored (success.mpr mountable)).2
      refine iff_of_false (fun fatal => ?_) fun fatal => fatal.1 rfl
      have available := fatal.available
      rw [mounted] at available
      cases available
    · rw [mountFatal_of_frame step.frame fun valid => step.status_of_ne valid different]
      exact ⟨fun fatal => ⟨different, fatal⟩, fun fatal => fatal.2⟩
  constructor
  · rintro ⟨result, next, ensured, aborts⟩
    rw [rTry, aborts_ite] at aborts
    rcases aborts with ⟨succeeded, aborts⟩ | ⟨-, aborts⟩
    · rw [Result.isSuccess_eq_true_iff] at succeeded
      have returned : (ensureMountState firstFault first .mounted service).1 = some .success := by
        rw [ensured, succeeded]
      have mountable := success.mp returned
      have reached : next = (ensureMountState firstFault first .mounted service).2 := by
        rw [ensured]
      rw [reached, aborts_ensured later refused mounted, second_iff mountable] at aborts
      exact ⟨mountable.1, mountable.2, aborts⟩
    · exact absurd aborts (refused result next)
  · rintro ⟨valid, mountable, fatal⟩
    have returned := success.mpr ⟨valid, mountable⟩
    refine ⟨.success, _, Prod.ext returned rfl, ?_⟩
    rw [rTry, if_pos (by decide), aborts_ensured later refused mounted,
      second_iff ⟨valid, mountable⟩]
    exact fatal

/-- A file whose storage is needed, behind the checks of its id. -/
def Service.FileFatal (service : Service) (fileId : AlbumFileId) (fault : Fault) : Prop :=
  service.manager.writeReserve.isReserved fileId = false ∧
    fileId.verify service.manager.settings = .success ∧
    service.MountFatal fileId.storageId fault

/-- The checks that requests on files make first. -/
theorem aborts_checked {condition : Prop} [Decidable condition] {rc : Result}
    {refused : Process Service α} {early : Result → Process Service α}
    {rest : Process Service α} (total : refused.Total) (totalEarly : (early rc).Total) :
    (rUnless condition refused (rTry rc early rest)).Aborts service ↔
      condition ∧ rc = .success ∧ rest.Aborts service := by
  rw [rUnless, rTry, aborts_ite, aborts_ite, Result.isSuccess_eq_true_iff]
  simp only [total service, totalEarly service, and_false, or_false]

/-- A storage that may be the one to save on. -/
theorem aborts_trySavingOn (mirrored : service.MountsMirrored)
    (valid : storageValid storageId = true)
    {fallback : Process Service (Except Result StorageId)} :
    (trySavingOn fault storageId fallback).Aborts service ↔
      service.MountFatal storageId fault ∨ ¬ service.Mountable storageId fault ∧
        fallback.Aborts (mountImageDirectory fault storageId service).2 := by
  have step : MountStep service storageId fault (mountImageDirectory fault storageId service) :=
    mountImageDirectory_step mirrored fault
  have success := step.success_iff mirrored
  have aborting : (mountImageDirectory fault storageId).Aborts service ↔
      service.MountFatal storageId fault := aborts_mountImageDirectory mirrored
  by_cases fatal : service.MountFatal storageId fault
  · refine iff_of_true ?_ (.inl fatal)
    rw [trySavingOn, aborts_bind]
    exact .inl (aborting.mpr fatal)
  have returned : (mountImageDirectory fault storageId service).1 ≠ none :=
    fun ended => fatal (aborting.mp ended)
  rcases Option.ne_none_iff_exists'.mp returned with ⟨result, returned⟩
  rw [returned] at success
  simp only [fatal, false_or, Option.some.injEq, valid, true_and] at success ⊢
  rw [Aborts, trySavingOn, bind_of_eq_some (Prod.ext returned rfl)]
  change Aborts _ _ ↔ _
  rw [aborts_ite, Result.isSuccess_eq_true_iff, success]
  simp only [not_aborts_pure, and_false, false_or]

/-- The NAND storage after an attempt on the SD card. -/
theorem aborts_fallBackToNand (mirrored : service.MountsMirrored) (answers : SavingAnswers) :
    (fallBackToNand answers).Aborts (mountImageDirectory answers.mountSd .sd service).2 ↔
      service.MountFatal .nand answers.mountNand := by
  have step : MountStep service .sd answers.mountSd
      (mountImageDirectory answers.mountSd .sd service) :=
    mountImageDirectory_step mirrored answers.mountSd
  have different : StorageId.nand ≠ .sd := by decide
  rw [fallBackToNand, aborts_trySavingOn (step.mirrored mirrored) (by decide),
    mountFatal_of_frame step.frame fun valid => step.status_of_ne valid different]
  simp only [not_aborts_pure, and_false, or_false]

/-- The search for a storage to save on. -/
def Service.SavingFatal (service : Service) (answers : SavingAnswers) (type : ContentType) : Prop :=
  if isNormal type then
    match answers.primaryAlbumStorage with
    | .error _ => True
    | .ok .sdCard => service.MountFatal .sd answers.mountSd ∨
        ¬ service.Mountable .sd answers.mountSd ∧ service.MountFatal .nand answers.mountNand
    | .ok .nand => service.MountFatal .nand answers.mountNand
  else service.MountFatal .sd answers.mountSd

theorem aborts_getAutoSavingStorage (mirrored : service.MountsMirrored) (answers : SavingAnswers)
    (type : ContentType) :
    (getAutoSavingStorage answers type).Aborts service ↔ service.SavingFatal answers type := by
  have sdValid : storageValid .sd = true := by decide
  have nandValid : storageValid .nand = true := by decide
  rw [getAutoSavingStorage, Service.SavingFatal]
  split
  · cases answers.primaryAlbumStorage with
    | error failure => exact iff_of_true rfl trivial
    | ok primary =>
        cases primary with
        | sdCard =>
            dsimp only
            rw [aborts_trySavingOn mirrored sdValid, aborts_fallBackToNand mirrored]
        | nand =>
            dsimp only
            rw [fallBackToNand, aborts_trySavingOn mirrored nandValid]
            simp only [not_aborts_pure, and_false, or_false]
  · rw [aborts_trySavingOn mirrored sdValid]
    -- extra files are not saved on the NAND storage
    have refused : ∀ next : Service, ¬ Aborts (do
        let settings := (← Process.get).manager.settings
        rUnless settings.allowSaveExtraMoviesOnNand (pure (.error albumIsNotMounted.result)) <|
        fallBackToNand answers) next := by
      intro next aborts
      cases aborts
    simp only [refused, and_false, or_false]

end

/-! ## All requests -/

/-- The states in which a request ends the process. -/
def AlbumRequest.Fatal (service : Service) : AlbumRequest → Prop
  | mount (.mountImageDirectory fault storageId) => service.MountFatal storageId fault
  | mount (.ensureMountState fault storageId _) => service.MountFatal storageId fault
  | mount (.closeImageDirectory _) => False
  | mount (.unmountImageDirectory _) => False
  | refreshCache answers _ storageId => service.MountFatal storageId answers.mount
  | getCache _ _ => False
  | canSave _ _ _ => False
  | countEntries answers _ storageId _ => service.MountFatal storageId answers.mount
  | listEntries answers _ storageId _ => service.MountFatal storageId answers.mount
  | listApplicationEntries fault storageId => service.MountFatal storageId fault
  | getFileSize faults fileId => service.FileFatal fileId faults.mount
  | loadJpeg fault fileId => service.FileFatal fileId fault
  | loadImage fault fileId => service.FileFatal fileId fault
  | loadJpegThumbnail fault fileId => service.FileFatal fileId fault
  | loadThumbnailImage fault fileId => service.FileFatal fileId fault
  | deleteFile faults fileId => service.manager.readReserve.isReserved fileId = false ∧
      service.FileFatal fileId faults.mount
  | copyFile faults sourceId destination =>
      service.manager.writeReserve.isReserved sourceId = false ∧
        sourceId.verify service.manager.settings = .success ∧
        storageValid destination = true ∧ destination ≠ sourceId.storageId ∧
        service.PairFatal sourceId.storageId destination faults.mountSource
          faults.mountDestination
  | getAlbumUsage fault storageId => service.MountFatal storageId fault
  | getRequiredStorageSpaceSizeToCopyAll sourceFault destinationFault source destination =>
      service.PairFatal source destination sourceFault destinationFault
  | getAutoSavingStorage answers type => service.SavingFatal answers type

section

variable {service : Service} (cipher : PathCipher)

theorem total_getCache (storageId : StorageId) (type : ContentType) :
    (getCache storageId type).Total := by
  refine total_get.bind fun service => .ite (.ite ?_ ?_) ?_ <;> exact total_pure _

theorem total_canSave (storageId : StorageId) (type : ContentType) (count : UInt64) :
    (canSave storageId type count).Total := by
  refine total_get.bind fun service => .ite (.ite (.ite ?_ ?_) ?_) ?_ <;> exact total_pure _

theorem total_copyMounted (faults : CopyFaults) (sourceId : AlbumFileId)
    (destination : StorageId) : (copyMounted cipher faults sourceId destination).Total := by
  refine total_get.bind fun service => ?_
  dsimp only
  cases makeAlbumPath cipher service.manager.settings sourceId with
  | error result => exact total_pure _
  | ok sourcePath =>
  dsimp only
  cases makeAlbumPath cipher service.manager.settings
      { sourceId with storageId := destination } with
  | error result => exact total_pure _
  | ok destinationPath =>
  dsimp only
  cases service.fs.openFile faults.openSource sourcePath with
  | error result => exact total_pure _
  | ok sourceFile =>
  dsimp only
  cases service.fs.getFileSize faults.getFileSize sourceFile with
  | error result => exact total_pure _
  | ok size =>
      refine .ite (.ite ?_ (total_pure _)) (total_pure _)
      refine total_get.bind fun service => (total_callFs _).bind fun created => ?_
      cases created with
      | error result => exact total_pure _
      | ok destinationFile =>
          refine (total_callFs _).bind fun copied => .ite ?_ ?_
          · exact (total_callFs _).bind fun _ => (total_modifyManager _).bind
              fun _ => total_pure _
          · exact (total_callFs _).bind fun _ => total_pure _

variable {cipher}

/-- The storage of the request is looked at before it is mounted. -/
theorem aborts_verified (mirrored : service.MountsMirrored) {α : Type} {storageId : StorageId}
    {fault : Fault} {early : Result → Process Service α} {rest : Process Service α}
    (refused : ∀ result, (early result).Total) (mounted : rest.Total) :
    (rTry (verifyStorageId storageId) early (ensureMountState fault storageId .mounted >>=
      fun result => rTry result early rest)).Aborts service ↔
      service.MountFatal storageId fault := by
  by_cases valid : storageValid storageId
  · have verified := verifyStorageId_eq_success_iff.mpr valid
    rw [rTry, verified, if_pos (by decide)]
    exact aborts_ensured mirrored refused mounted
  · rw [rTry, verifyStorageId_of_invalid valid, if_neg (by decide)]
    exact iff_of_false (refused _ service) fun fatal => valid fatal.valid

/-- A request on a picture or a size. -/
theorem aborts_file (mirrored : service.MountsMirrored) {α : Type} {fileId : AlbumFileId}
    {fault : Fault} {refused : Process Service α} {early : Result → Process Service α}
    {rest : Process Service α} (total : refused.Total)
    (totalEarly : ∀ result, (early result).Total) (mounted : rest.Total) :
    (rUnless (service.manager.writeReserve.isReserved fileId = false) refused <|
      rTry (fileId.verify service.manager.settings) early <|
      ensureMountState fault fileId.storageId .mounted >>= fun result =>
        rTry result early rest).Aborts service ↔ service.FileFatal fileId fault := by
  rw [aborts_checked total (totalEarly _), aborts_ensured mirrored totalEarly mounted]
  rfl

theorem aborts_loadPicture (mirrored : service.MountsMirrored) (fault : Fault)
    (fileId : AlbumFileId) :
    (loadPicture fault fileId).Aborts service ↔ service.FileFatal fileId fault := by
  rw [loadPicture, aborts_get_bind]
  exact aborts_file mirrored (total_pure _) (fun _ => total_pure _)
    ((total_pure _).ite (total_pure _))

theorem aborts_getFileSize (mirrored : service.MountsMirrored) (faults : SizeFaults)
    (fileId : AlbumFileId) :
    (getFileSize cipher faults fileId).Aborts service ↔
      service.FileFatal fileId faults.mount := by
  rw [getFileSize, aborts_get_bind]
  apply aborts_file mirrored (total_pure _) fun _ => total_pure _
  cases makeAlbumPath cipher service.manager.settings fileId with
  | error result => exact total_pure _
  | ok path =>
      refine total_get.bind fun service => ?_
      dsimp only
      cases service.fs.openFile faults.openFile path with
      | error result => exact total_pure _
      | ok file =>
          dsimp only
          cases service.fs.getFileSize faults.getFileSize file with
          | error result => exact total_pure _
          | ok fileSize => exact (total_pure _).ite (total_pure _)

theorem aborts_deleteFile (mirrored : service.MountsMirrored) (faults : DeleteFaults)
    (fileId : AlbumFileId) :
    (deleteFile cipher faults fileId).Aborts service ↔
      service.manager.readReserve.isReserved fileId = false ∧
        service.FileFatal fileId faults.mount := by
  rw [deleteFile, aborts_get_bind, rUnless, aborts_ite]
  simp only [not_aborts_pure, and_false, or_false]
  apply and_congr_right
  intro unreserved
  apply aborts_file mirrored (total_pure _) fun _ => total_pure _
  cases makeAlbumPath cipher service.manager.settings fileId with
  | error result => exact total_pure _
  | ok filePath =>
      exact (total_callFs _).bind fun _ => (total_modifyManager _).bind fun _ => total_pure _

theorem aborts_copyFile (mirrored : service.MountsMirrored) (faults : CopyFaults)
    (sourceId : AlbumFileId) (destination : StorageId) :
    (copyFile cipher faults sourceId destination).Aborts service ↔
      AlbumRequest.Fatal service (.copyFile faults sourceId destination) := by
  rw [copyFile, aborts_get_bind, aborts_checked (total_pure _) (total_pure _),
    AlbumRequest.Fatal, rTry, aborts_ite, aborts_ite, Result.isSuccess_eq_true_iff,
    verifyStorageId_eq_success_iff,
    aborts_ensuredPair mirrored (fun _ => total_pure _)
      (total_copyMounted cipher faults sourceId destination)]
  simp only [not_aborts_pure, and_false, or_false, false_or]

/-- Which requests end the process. -/
theorem aborts_request (mirrored : service.MountsMirrored) (request : AlbumRequest) :
    (request.perform cipher).Aborts service ↔ request.Fatal service := by
  have first : ∀ {α β : Type} (process : Process Service (α × β)),
      (process >>= fun outcome => (pure outcome.1 : Process Service α)).Aborts service ↔
        process.Aborts service :=
    fun _ => aborts_bind_of_total fun _ => total_pure _
  cases request with
  | mount request =>
      cases request with
      | mountImageDirectory fault storageId => exact aborts_mountImageDirectory mirrored
      | ensureMountState fault storageId mountState =>
          exact aborts_ensureMountState mirrored mountState
      | closeImageDirectory storageId =>
          exact iff_false_intro (not_aborts_leaveImageDirectory mirrored _)
      | unmountImageDirectory storageId =>
          exact iff_false_intro (not_aborts_leaveImageDirectory mirrored _)
  | refreshCache answers counts storageId =>
      exact aborts_verified mirrored (fun _ => total_pure _)
        ((total_modifyManager _).bind fun _ => total_pure _)
  | getCache storageId type =>
      exact (first _).trans (iff_false_intro (total_getCache storageId type service))
  | canSave storageId type count =>
      exact iff_false_intro (total_canSave storageId type count service)
  | countEntries answers outCount storageId contentTypeFlags =>
      exact (first _).trans (aborts_verified mirrored (fun _ => total_pure _)
        (total_get.bind fun _ => total_pure _))
  | listEntries answers maxEntries storageId contentTypeFlags =>
      exact (first _).trans (aborts_ensured mirrored (fun _ => total_pure _)
        (total_get.bind fun _ => total_pure _))
  | listApplicationEntries fault storageId =>
      exact (first _).trans (aborts_ensured mirrored (fun _ => total_pure _) (total_pure _))
  | getFileSize faults fileId =>
      exact (first _).trans (aborts_getFileSize mirrored faults fileId)
  | loadJpeg fault fileId => exact aborts_loadPicture mirrored fault fileId
  | loadImage fault fileId => exact aborts_loadPicture mirrored fault fileId
  | loadJpegThumbnail fault fileId => exact aborts_loadPicture mirrored fault fileId
  | loadThumbnailImage fault fileId => exact aborts_loadPicture mirrored fault fileId
  | deleteFile faults fileId => exact aborts_deleteFile mirrored faults fileId
  | copyFile faults sourceId destination =>
      exact aborts_copyFile mirrored faults sourceId destination
  | getAlbumUsage fault storageId =>
      exact aborts_ensured mirrored (fun _ => total_pure _) (total_pure _)
  | getRequiredStorageSpaceSizeToCopyAll sourceFault destinationFault source destination =>
      exact (first _).trans (aborts_ensuredPair mirrored (fun _ => total_pure _)
        (total_pure _) source destination sourceFault destinationFault)
  | getAutoSavingStorage answers type =>
      refine Iff.trans (aborts_bind_of_total fun found => ?_)
        (aborts_getAutoSavingStorage mirrored answers type)
      cases found with
      | error result => exact total_pure _
      | ok storageId => exact total_pure _

end

/-! ## Handlers -/

/-- The request that a handler makes of the album manager, if it can abort. -/
def AccessorCommand.albumRequest : AccessorCommand → Option AlbumRequest
  | getAlbumFileCount answers storageId =>
      some (.countEntries answers 0 storageId contentTypeFlagNormal)
  | getAlbumFileList answers maxEntries storageId =>
      some (.listEntries answers maxEntries storageId contentTypeFlagNormal)
  | loadAlbumFile fault fileId => some (.loadJpeg fault fileId)
  | deleteAlbumFile faults fileId => some (.deleteFile faults fileId)
  | storageCopyAlbumFile faults dst fileId => some (.copyFile faults fileId dst)
  | isAlbumMounted fault storageId => some (.mount (.mountImageDirectory fault storageId))
  | getAlbumUsage fault storageId => some (.getAlbumUsage fault storageId)
  | getAlbumFileSize faults fileId => some (.getFileSize faults fileId)
  | loadAlbumFileThumbnail fault fileId => some (.loadJpegThumbnail fault fileId)
  | getAlbumUsage3 fault storageId => some (.getAlbumUsage fault storageId)
  | getAlbumMountResult fault storageId => some (.mount (.mountImageDirectory fault storageId))
  | getAlbumUsage16 fault storageId _ => some (.getAlbumUsage fault storageId)
  | getAlbumFileCountEx0 answers storageId flags => some (.countEntries answers 0 storageId flags)
  | getAlbumFileListEx0 answers maxEntries storageId flags =>
      some (.listEntries answers maxEntries storageId flags)
  | getAutoSavingStorage answers => some (.getAutoSavingStorage answers .screenshot)
  | getRequiredStorageSpaceSizeToCopyAll sourceFault destinationFault dst src =>
      some (.getRequiredStorageSpaceSizeToCopyAll sourceFault destinationFault src dst)
  | refreshAlbumCache answers counts storageId => some (.refreshCache answers counts storageId)
  | _ => none

/-- A session that cannot be created or added. -/
def SessionFaults.Fatal (faults : SessionFaults) : Prop :=
  ¬ (faults.createSession = none ∧ faults.registerSession = none)

/-- The states in which a handler ends the process. -/
def AccessorCommand.Fatal (server : Server) : AccessorCommand → Prop
  | saveEditedScreenShot => True
  | openAccessorSession faults _ => faults.Fatal
  | command => ∃ request, command.albumRequest = some request ∧ request.Fatal server.album

def ControlCommand.Fatal (server : Server) : ControlCommand → Prop
  | captureRawImage => True
  | captureRawImageWithTimeout => True
  | requestTakingScreenShot => True
  | requestTakingScreenShotWithTimeout => True
  | notifyTakingScreenShotRefused => True
  | notifyAlbumStorageIsAvailable answers _ storageId => storageValid storageId = true ∧
      (server.album.customDirectory storageId ∨ answers.mount.Fatal)
  | generateCurrentAlbumFileId answers _ _ type => server.album.SavingFatal answers type
  | openControlSession faults _ => faults.Fatal
  | _ => False

/-- All handlers but two are not implemented. -/
def ApplicationCommand.Fatal : ApplicationCommand → Prop
  | setShimLibraryVersion _ _ => False
  | openAccessorSessionForApplication faults _ => faults.Fatal
  | _ => True

def ServerCommand.Fatal (server : Server) : ServerCommand → Prop
  | control command => command.Fatal server
  | accessor command => command.Fatal server
  | application command => command.Fatal

/-- A message that ends the process. -/
def ServerMessage.Fatal (environment : Environment) (server : Server) (message : ServerMessage) :
    Prop :=
  match message.dispatch environment with
  | .refused _ => False
  | .malformed _ => True
  | .called command => command.Fatal server

section

variable {environment : Environment} {settings : AlbumSettings} {server : Server} {α : Type}

theorem total_answer (output : α → Output) (outcome : Result × α) :
    (answer output outcome).Total := by
  rw [answer_eq]
  exact total_pure _

theorem aborts_answeredResult {process : Process Server Result} :
    (process >>= answerResult).Aborts server ↔ process.Aborts server :=
  aborts_bind_of_total fun rc => total_answer _ (rc, ())

/-- A handler ends the process when its request does. -/
theorem aborts_album (environment : Environment) (mirrored : server.album.MountsMirrored)
    {program : Process Service α} (request : AlbumRequest)
    (same : program.discard = (request.perform environment.cipher).discard) :
    (albumPart.focus program).Aborts server ↔ request.Fatal server.album := by
  rw [aborts_focus, ← aborts_discard, same, aborts_discard]
  exact aborts_request mirrored request

/-- No call on the holder waits for ever. -/
theorem OverlaySettled.getLastOverlayThumbnail {holder : OverlayThumbnailHolder}
    (settled : OverlaySettled holder) (outBufferSize : Nat) (type : OverlayType) :
    ∃ read, holder.getLastOverlayThumbnail outBufferSize type = some read := by
  have occupied : (holder.data type).status ≠ .occupied := by
    rw [settled.free type]
    decide
  rw [OverlayThumbnailHolder.getLastOverlayThumbnail, rUnless, if_neg occupied]
  split
  · exact ⟨_, rfl⟩
  · exact ⟨_, rfl⟩

theorem not_aborts_getLastOverlayThumbnail (settled : OverlaySettled server.overlay)
    (outBufferSize : Nat) (type : OverlayType) :
    ¬ (AlbumAccessorService.getLastOverlayThumbnail outBufferSize type).Aborts server := by
  rcases settled.getLastOverlayThumbnail outBufferSize type with ⟨read, answered⟩
  rw [AlbumAccessorService.getLastOverlayThumbnail, aborts_bind_of_total, aborts_focus]
  · simp only [Aborts, awaited, overlayPart, answered, Option.map_some]
    simp
  · intro read
    cases read with
    | error rc => exact total_answer _ _
    | ok thumbnail => exact total_answer _ _

theorem not_aborts_setOverlayThumbnailData (settled : OverlaySettled server.overlay)
    (type : OverlayType) (buffer : List UInt8) (fileId : AlbumFileId) :
    ¬ (AlbumControlService.setOverlayThumbnailData type buffer fileId).Aborts server := by
  rw [AlbumControlService.setOverlayThumbnailData, rUnless, aborts_ite]
  simp only [not_aborts_pure, and_false, or_false, not_and]
  intro long
  rw [aborts_bind_of_total, aborts_focus]
  · simp only [Aborts, awaited, overlayPart, settled.getOverlayBuffer, Option.map_some]
    simp
  · intro _
    exact ((total_modify _).focus _).bind fun _ => ((total_modify _).focus _).bind
      fun _ => total_pure _

theorem total_setShimLibraryVersion (version aruid : UInt64) :
    (AlbumControlService.setShimLibraryVersion version aruid).Total :=
  ((total_returning _).focus _).bind fun rc => total_answer _ (rc, ())

theorem aborts_openSession (faults : SessionFaults) :
    (openSession faults).Aborts server ↔ faults.Fatal := by
  rw [openSession, rTry, rTry, aborts_ite, aborts_ite, Result.isSuccess_eq_true_iff,
    Result.isSuccess_eq_true_iff, Fault.result_eq_success_iff, Fault.result_eq_success_iff]
  simp only [not_aborts_pure, aborts_abort, SessionFaults.Fatal]
  tauto

/-- A handler that asks the album manager and answers what it is told. -/
theorem aborts_asking (environment : Environment) (mirrored : server.album.MountsMirrored)
    {program : Process Service α} {answer : α → Process Server Reply}
    (answers : ∀ value, (answer value).Total) (request : AlbumRequest)
    (same : program.discard = (request.perform environment.cipher).discard) :
    (albumPart.focus program >>= answer).Aborts server ↔ request.Fatal server.album :=
  (aborts_bind_of_total answers).trans (aborts_album environment mirrored request same)

theorem aborts_usage (environment : Environment) (mirrored : server.album.MountsMirrored)
    (fault : Fault) (storageId : StorageId) :
    (AlbumAccessorService.usage fault storageId).Aborts server ↔
      AlbumRequest.Fatal server.album (.getAlbumUsage fault storageId) :=
  aborts_asking environment mirrored (fun rc => total_answer _ (rc, ()))
    (.getAlbumUsage fault storageId) rfl

/-- The handlers that ask the album manager end the process with their request. -/
theorem aborts_of_albumRequest (mirrored : server.album.MountsMirrored)
    {command : AccessorCommand} {request : AlbumRequest}
    (asked : command.albumRequest = some request) :
    (command.perform environment).Aborts server ↔ request.Fatal server.album := by
  have result : ∀ rc : Result, (answerResult rc).Total := fun rc => total_answer _ (rc, ())
  cases command with
  | getAlbumFileCount | getAlbumFileList | getAlbumFileSize | getAlbumFileCountEx0 |
    getAlbumFileListEx0 | getRequiredStorageSpaceSizeToCopyAll =>
      cases asked
      exact aborts_asking environment mirrored (fun _ => total_answer _ _) _ (discard_first _)
  | deleteAlbumFile | storageCopyAlbumFile | refreshAlbumCache | getAlbumMountResult =>
      cases asked
      exact aborts_asking environment mirrored result _ rfl
  | loadAlbumFile | loadAlbumFileThumbnail =>
      cases asked
      exact aborts_asking environment mirrored (fun _ => total_answer _ _) _ rfl
  | isAlbumMounted =>
      cases asked
      exact aborts_asking environment mirrored (fun _ => total_pure _) _ rfl
  | getAlbumUsage | getAlbumUsage3 | getAlbumUsage16 =>
      cases asked
      exact aborts_usage environment mirrored _ _
  | getAutoSavingStorage answers =>
      cases asked
      refine aborts_asking environment mirrored (fun found => ?_) _
        (discard_getAutoSavingStorage _ answers .screenshot)
      cases found with
      | error rc => exact total_answer _ _
      | ok storageId => exact total_answer _ _
  | _ => cases asked

/-- A handler that does without the album manager. -/
theorem total_loadMakerNoteInfoForDebug (makernoteSize workSize : Nat) (fileId : AlbumFileId) :
    (AlbumAccessorService.loadMakerNoteInfoForDebug environment makernoteSize workSize
      fileId).Total := by
  refine Total.ite (Total.ite (Total.ite ?_ (total_pure _)) (total_pure _)) (total_pure _)
  exact ((total_returning _).focus _).bind fun _ => ((total_pure _).focus _).bind
    fun _ => (total_answer _ _).bind fun _ => ((total_returning _).focus _).bind
      fun _ => total_pure _

theorem total_getAlbumCacheEx (storageId : StorageId) (type : ContentType) :
    (AlbumAccessorService.getAlbumCacheEx storageId type).Total :=
  ((total_getCache storageId type).focus _).bind fun _ => total_answer _ _

theorem not_aborts_leaving (mirrored : server.album.MountsMirrored) (state : MountState)
    {storageId : StorageId} :
    ¬ (albumPart.focus (leaveImageDirectory state storageId) >>= answerResult).Aborts server :=
  fun aborts => not_aborts_leaveImageDirectory mirrored state (aborts_answeredResult.mp aborts)

/-- The handlers that answer without such a request return. -/
theorem not_aborts_of_albumRequest (holds : ServerInvariant settings server)
    {command : AccessorCommand} (silent : command.albumRequest = none)
    (implemented : command ≠ .saveEditedScreenShot)
    (opens : ∀ faults aruid, command ≠ .openAccessorSession faults aruid) :
    ¬ (command.perform environment).Aborts server := by
  have mirrored := holds.album.mounts.mirrored
  have entry : ∀ read : Server → ApplicationAlbumManager → (Result × AlbumEntry),
      Total (Process.get >>= fun server => applicationsPart.focus (returning fun manager =>
        (read server manager, manager)) >>= answer Output.entry) := fun read =>
    total_get.bind fun _ => ((total_returning _).focus _).bind fun _ => total_answer _ _
  cases command with
  | getAlbumEntryFromApplicationAlbumEntry => exact entry _ server
  | getAlbumEntryFromApplicationAlbumEntryAruid => exact entry _ server
  | saveEditedScreenShot => exact absurd rfl implemented
  | getLastOverlayScreenShotThumbnail outBufferSize =>
      exact not_aborts_getLastOverlayThumbnail holds.overlay outBufferSize .screenshot
  | getLastOverlayMovieThumbnail outBufferSize =>
      exact not_aborts_getLastOverlayThumbnail holds.overlay outBufferSize .movie
  | forceAlbumUnmounted => exact not_aborts_leaving mirrored _
  | resetAlbumMountStatus => exact not_aborts_leaving mirrored _
  | getAlbumCache storageId =>
      exact ((total_getAlbumCacheEx storageId .screenshot).ite (total_pure _)) server
  | getAlbumCacheEx storageId type => exact total_getAlbumCacheEx storageId type server
  | setInternalErrorConversionEnabled =>
      exact (((total_modify _).focus _).bind fun _ => total_pure _) server
  | loadMakerNoteInfoForDebug =>
      exact total_loadMakerNoteInfoForDebug _ _ _ server
  | openAccessorSession faults aruid => exact absurd rfl (opens faults aruid)
  | loadAlbumScreenShotImage | loadAlbumScreenShotThumbnailImage | loadAlbumScreenShotImageEx |
    loadAlbumScreenShotThumbnailImageEx | loadAlbumScreenShotImageEx0 | getMinMaxAppletId |
    loadAlbumScreenShotThumbnailImageEx0 | loadAlbumScreenShotImageEx1 |
    loadAlbumScreenShotThumbnailImageEx1 => exact not_aborts_pure _
  | _ => cases silent

theorem aborts_accessor (holds : ServerInvariant settings server) (command : AccessorCommand) :
    (command.perform environment).Aborts server ↔ command.Fatal server := by
  by_cases implemented : command = .saveEditedScreenShot
  · subst implemented
    exact iff_of_true aborts_abort trivial
  by_cases opens : ∃ faults aruid, command = .openAccessorSession faults aruid
  · rcases opens with ⟨faults, aruid, rfl⟩
    exact aborts_openSession faults
  have others : command.Fatal server ↔
      ∃ request, command.albumRequest = some request ∧ request.Fatal server.album := by
    cases command with
    | saveEditedScreenShot => exact absurd rfl implemented
    | openAccessorSession => exact absurd ⟨_, _, rfl⟩ opens
    | _ => exact Iff.rfl
  rw [others]
  cases asked : command.albumRequest with
  | none =>
      refine iff_of_false ?_ (by simp)
      refine not_aborts_of_albumRequest holds asked implemented fun faults aruid same => ?_
      exact opens ⟨faults, aruid, same⟩
  | some request =>
      rw [aborts_of_albumRequest holds.album.mounts.mirrored asked]
      simp only [Option.some.injEq, exists_eq_left']

/-- A storage that has been announced is available, and then mounted. -/
theorem aborts_notifyAlbumStorageIsAvailable (holds : MountInvariant server.album)
    (answers : ScanAnswers) (counts : ContentType → UInt64) (storageId : StorageId) :
    (AlbumControlService.notifyAlbumStorageIsAvailable environment answers counts
      storageId).Aborts server ↔
      storageValid storageId = true ∧
        (server.album.customDirectory storageId ∨ answers.mount.Fatal) := by
  have step : LeaveStep server.album storageId .available
      (leaveImageDirectory .available storageId server.album) :=
    leaveImageDirectory_step holds.mirrored .available
  have later := (step.invariant holds (by decide)).mirrored
  have left : leaveImageDirectory .available storageId server.album =
      unmountImageDirectory storageId server.album := rfl
  by_cases valid : storageValid storageId
  · have returned : (unmountImageDirectory storageId server.album).1 = some .success := by
      rw [← left]
      generalize leaveImageDirectory .available storageId server.album = outcome at step
      cases step with
      | invalid unknown => exact absurd valid unknown
      | settled => rfl
      | unmounted => rfl
    have settings : (unmountImageDirectory storageId server.album).2.manager.settings =
        server.album.manager.settings :=
      (preservedBySteps_settings _).mounting (.unmountImageDirectory storageId) server.album rfl
    have available := step.status valid storageId valid
    rw [if_pos rfl, left] at available
    rw [left] at later
    have focused : albumPart.focus (unmountImageDirectory storageId) server =
        (some .success, albumPart.set (unmountImageDirectory storageId server.album).2 server) :=
      Prod.ext returned rfl
    rw [AlbumControlService.notifyAlbumStorageIsAvailable, Aborts, bind_of_eq_some focused]
    change Aborts _ _ ↔ _
    rw [if_pos (by decide), aborts_answeredResult, aborts_focus, albumPart.get_set]
    refine (aborts_request later (.refreshCache answers counts storageId)).trans ?_
    refine ⟨fun fatal => ⟨valid, ?_⟩, fun fatal => ⟨valid, available, ?_⟩⟩
    · have cause := fatal.cause
      rwa [Service.customDirectory, settings] at cause
    · rw [Service.customDirectory, settings]
      exact fatal.2
  · have refused : albumPart.focus (unmountImageDirectory storageId) server =
        (some albumInvalidStorage.result, server) := by
      have invalid : unmountImageDirectory storageId server.album =
          (some albumInvalidStorage.result, server.album) :=
        MountRequest.perform_of_invalid (.unmountImageDirectory storageId) server.album valid
      simp only [Part.focus, albumPart, invalid]
    rw [AlbumControlService.notifyAlbumStorageIsAvailable, Aborts, bind_of_eq_some refused]
    change Aborts _ _ ↔ _
    rw [if_neg (by decide), aborts_answeredResult]
    exact iff_of_false (not_aborts_pure _) fun fatal => valid fatal.1

theorem aborts_generateCurrentAlbumFileId (mirrored : server.album.MountsMirrored)
    (answers : SavingAnswers) (clock : Except Failure UInt64) (applicationId : UInt64)
    (type : ContentType) :
    (AlbumControlService.generateCurrentAlbumFileId environment answers clock applicationId
      type).Aborts server ↔ server.album.SavingFatal answers type := by
  rw [← aborts_getAutoSavingStorage mirrored, AlbumControlService.generateCurrentAlbumFileId,
    aborts_bind_of_total]
  · have same := (generateFileIdOn_album environment.calendar answers clock applicationId type
      (server.fileIds, server.album)).2
    rw [aborts_focus, Aborts, Aborts, ← Option.isNone_iff_eq_none, ← Option.isNone_iff_eq_none,
      ← Option.not_isSome, ← Option.not_isSome]
    exact iff_of_eq (congrArg (fun returns => (!returns) = true) same)
  · intro generated
    cases generated with
    | error rc => exact total_answer _ _
    | ok fileId => exact total_answer _ _

theorem aborts_control (holds : ServerInvariant settings server) (command : ControlCommand) :
    (command.perform environment).Aborts server ↔ command.Fatal server := by
  have mirrored := holds.album.mounts.mirrored
  have applications : ∀ {α : Type} (output : α → Output)
      (read : ApplicationAlbumManager → (Result × α) × ApplicationAlbumManager),
      ¬ (applicationsPart.focus (returning read) >>= answer output).Aborts server :=
    fun output read => (((total_returning read).focus _).bind fun _ => total_answer _ _) server
  cases command with
  | setShimLibraryVersion version aruid =>
      exact iff_false_intro (total_setShimLibraryVersion version aruid server)
  | notifyAlbumStorageIsAvailable answers counts storageId =>
      exact aborts_notifyAlbumStorageIsAvailable holds.album.mounts answers counts storageId
  | notifyAlbumStorageIsUnavailable =>
      refine iff_false_intro fun aborts => ?_
      exact not_aborts_leaveImageDirectory mirrored _ (aborts_answeredResult.mp aborts)
  | registerAppletResourceUserId =>
      exact iff_false_intro ((((total_returning _).focus _).bind
        fun rc => total_answer _ (rc, ())) server)
  | unregisterAppletResourceUserId =>
      exact iff_false_intro ((((total_modify _).focus _).bind fun _ => total_pure _) server)
  | getApplicationIdFromAruid => exact iff_false_intro (applications _ _)
  | checkApplicationIdRegistered =>
      exact iff_false_intro ((((total_returning _).focus _).bind
        fun rc => total_answer _ (rc, ())) server)
  | generateCurrentAlbumFileId answers clock applicationId type =>
      exact aborts_generateCurrentAlbumFileId mirrored answers clock applicationId type
  | generateApplicationAlbumEntry => exact iff_false_intro (applications _ _)
  | saveAlbumScreenShotFile =>
      exact iff_false_intro ((((total_pure _).focus _).bind
        fun rc => total_answer _ (rc, ())) server)
  | saveAlbumScreenShotFileEx =>
      exact iff_false_intro ((((total_pure _).focus _).bind
        fun rc => total_answer _ (rc, ())) server)
  | setOverlayScreenShotThumbnailData buffer fileId =>
      exact iff_false_intro
        (not_aborts_setOverlayThumbnailData holds.overlay .screenshot buffer fileId)
  | setOverlayMovieThumbnailData buffer fileId =>
      exact iff_false_intro
        (not_aborts_setOverlayThumbnailData holds.overlay .movie buffer fileId)
  | openControlSession faults aruid => exact aborts_openSession faults
  | _ => exact iff_of_true aborts_abort trivial

theorem aborts_application (command : ApplicationCommand) :
    command.perform.Aborts server ↔ command.Fatal := by
  cases command with
  | setShimLibraryVersion version aruid =>
      exact iff_false_intro (total_setShimLibraryVersion version aruid server)
  | openAccessorSessionForApplication faults aruid => exact aborts_openSession faults
  | _ => exact iff_of_true aborts_abort trivial

theorem aborts_command (holds : ServerInvariant settings server) (command : ServerCommand) :
    (command.perform environment).Aborts server ↔ command.Fatal server := by
  cases command with
  | control command => exact aborts_control holds command
  | accessor command => exact aborts_accessor holds command
  | application command => exact aborts_application command

/-- Which messages end the process. -/
theorem aborts_message (holds : ServerInvariant settings server) (message : ServerMessage) :
    (message.perform environment).Aborts server ↔ message.Fatal environment server := by
  rw [ServerMessage.perform, ServerMessage.Fatal]
  cases message.dispatch environment with
  | refused rc => exact iff_false_intro (not_aborts_pure _)
  | malformed rc => exact iff_of_true aborts_abort trivial
  | called command => exact aborts_command holds command

end

/-! ## Runs -/

/-- The deletion of a file by a library that sends no id with it. -/
def shortDeletion : ServerMessage :=
  .accessor (.forCommand AccessorCommandId.value (fun _ => []) AccessorCommand.plain
    AccessorCommand.ofCommand_plain plainEnvironment.cmifInHeaderMagic 5
    (.deleteAlbumFile ⟨none, none⟩ savedScreenshot))

end Capsrv
