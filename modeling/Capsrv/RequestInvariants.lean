import Capsrv.AlbumRequests
import Capsrv.MountInvariant

/-! # What every request preserves

The requests on albums mount storages, call the file system and change counts. A
property of the service that these steps preserve is preserved by each request,
and by every run of them.
-/

namespace Capsrv

open Service Process

variable {α : Type} {invariant : Service → Prop}

/-! ## Requests that only mount -/

section

variable (ensured : ∀ fault storageId,
  Preserves invariant (ensureMountState fault storageId .mounted))

include ensured

/-- A request that goes on only behind a storage that is mounted. -/
theorem preserves_ensured {fault : Fault} {storageId : StorageId}
    {early : Result → Process Service α} {rest : Process Service α}
    (refused : ∀ result, Preserves invariant (early result))
    (mounted : Preserves invariant rest) :
    Preserves invariant (ensureMountState fault storageId .mounted >>= fun result =>
      rTry result early rest) :=
  (ensured fault storageId).bind fun result => .ite mounted (refused result)

theorem preserves_listApplicationEntries (fault : Fault) (storageId : StorageId) :
    Preserves invariant (listApplicationEntries fault storageId) :=
  preserves_ensured ensured (fun _ => preserves_pure _ _) (preserves_pure _ _)

theorem preserves_getAlbumUsage (fault : Fault) (storageId : StorageId) :
    Preserves invariant (getAlbumUsage fault storageId) :=
  preserves_ensured ensured (fun _ => preserves_pure _ _) (preserves_pure _ _)

theorem preserves_getRequiredStorageSpaceSizeToCopyAll (sourceFault destinationFault : Fault)
    (source destination : StorageId) :
    Preserves invariant (getRequiredStorageSpaceSizeToCopyAll sourceFault destinationFault source
      destination) :=
  preserves_ensured ensured (fun _ => preserves_pure _ _) <|
    preserves_ensured ensured (fun _ => preserves_pure _ _) (preserves_pure _ _)

theorem preserves_loadPicture (fault : Fault) (fileId : AlbumFileId) :
    Preserves invariant (loadPicture fault fileId) := by
  refine (preserves_get _).bind fun service => .ite (.ite ?_ ?_) ?_
  · exact preserves_ensured ensured (fun _ => preserves_pure _ _)
      (.ite (preserves_pure _ _) (preserves_pure _ _))
  · exact preserves_pure _ _
  · exact preserves_pure _ _

end

theorem preserves_getCache (storageId : StorageId) (type : ContentType) :
    Preserves invariant (getCache storageId type) := by
  refine (preserves_get _).bind fun service => .ite (.ite ?_ ?_) ?_ <;> exact preserves_pure _ _

theorem preserves_canSave (storageId : StorageId) (type : ContentType) (count : UInt64) :
    Preserves invariant (canSave storageId type count) := by
  refine (preserves_get _).bind fun service => .ite (.ite (.ite ?_ ?_) ?_) ?_ <;>
    exact preserves_pure _ _

section

variable (mounting : ∀ fault storageId, Preserves invariant (mountImageDirectory fault storageId))

include mounting

theorem preserves_trySavingOn (fault : Fault) (storageId : StorageId)
    {fallback : Process Service (Except Result StorageId)}
    (rest : Preserves invariant fallback) :
    Preserves invariant (trySavingOn fault storageId fallback) :=
  (mounting fault storageId).bind fun _ => .ite (preserves_pure _ _) rest

theorem preserves_getAutoSavingStorage (answers : SavingAnswers) (type : ContentType) :
    Preserves invariant (getAutoSavingStorage answers type) := by
  have nand : Preserves invariant (fallBackToNand answers) :=
    preserves_trySavingOn mounting answers.mountNand .nand (preserves_pure _ _)
  refine .ite ?_ ?_
  · cases answers.primaryAlbumStorage with
    | error failure => exact preserves_abort _
    | ok primary =>
        cases primary with
        | sdCard => exact preserves_trySavingOn mounting answers.mountSd .sd nand
        | nand => exact nand
  · apply preserves_trySavingOn mounting answers.mountSd .sd
    exact (preserves_get _).bind fun service => .ite nand (preserves_pure _ _)

end

/-! ## Calls on files -/

namespace FileSystem

/-- The mount table and the record of its calls are left alone. -/
structure KeepsMounts (fs next : FileSystem) : Prop where
  names : next.names = fs.names
  calls : next.calls = fs.calls

theorem KeepsMounts.refl (fs : FileSystem) : KeepsMounts fs fs :=
  ⟨rfl, rfl⟩

theorem KeepsMounts.trans {fs next final : FileSystem} (first : KeepsMounts fs next)
    (second : KeepsMounts next final) : KeepsMounts fs final :=
  ⟨second.names.trans first.names, second.calls.trans first.calls⟩

section

variable (fault : Fault) (path : Text) (file : FsPath) (size : Nat) (fs : FileSystem)

theorem keepsMounts_deleteFile : KeepsMounts fs (fs.deleteFile fault path).2 := by
  unfold deleteFile rTry rUnless
  repeat' split
  all_goals exact ⟨rfl, rfl⟩

theorem keepsMounts_createFile : KeepsMounts fs (fs.createFile fault path size).2 := by
  unfold createFile rTry rUnless
  repeat' split
  all_goals exact ⟨rfl, rfl⟩

theorem keepsMounts_setFileSize : KeepsMounts fs (fs.setFileSize fault file size).2 := by
  unfold setFileSize rTry
  split <;> exact ⟨rfl, rfl⟩

theorem keepsMounts_writeFile (offset : Nat) (data : List UInt8) :
    KeepsMounts fs (fs.writeFile fault file offset data).2 := by
  unfold writeFile rTry
  split <;> exact ⟨rfl, rfl⟩

variable (faults : CreateFaults)

theorem keepsMounts_openExistingFile :
    KeepsMounts fs (openExistingFile faults path size fs).2 := by
  rw [openExistingFile]
  cases fs.openFile faults.openFile path with
  | error result => exact .refl fs
  | ok file =>
      have resized := keepsMounts_setFileSize faults.setFileSize file size fs
      dsimp only [rTry]
      split <;> exact resized

theorem keepsMounts_openCreatedFile : KeepsMounts fs (openCreatedFile faults path fs).2 := by
  rw [openCreatedFile]
  cases fs.openFile faults.openFile path with
  | error result => exact keepsMounts_deleteFile faults.cleanUp path fs
  | ok file => exact .refl fs

theorem keepsMounts_createAlbumFileImpl (isQuest : Bool) :
    KeepsMounts fs (createAlbumFileImpl isQuest faults path size fs).2 := by
  have created := keepsMounts_createFile faults.createFile path size fs
  simp only [createAlbumFileImpl, rUnless, rTry]
  split
  · split
    · split
      · exact created.trans (keepsMounts_openExistingFile path size _ faults)
      · split
        · exact created.trans (keepsMounts_openCreatedFile path _ faults)
        · exact created
    · exact .refl fs
  · exact .refl fs

theorem keepsMounts_copyChunks (faults : CopyFaults) (workMemorySize : Nat)
    (source destination : FsPath) (rounds offset : Nat) :
    KeepsMounts fs
      (copyChunks faults workMemorySize source destination size rounds offset fs).2 := by
  induction rounds generalizing offset fs with
  | zero => exact .refl fs
  | succ rounds induction =>
      rw [copyChunks]
      split
      · cases fs.readFile (faults.readFile offset) source offset workMemorySize with
        | error result => exact .refl fs
        | ok data =>
            have written := keepsMounts_writeFile (faults.writeFile offset) destination fs offset
              data
            dsimp only [rTry]
            split
            · exact written.trans (induction _ _)
            · exact written
      · exact .refl fs

end

end FileSystem

/-! ## Requests on files -/

/-- The steps that requests are made of that leave the files alone. -/
structure PreservedByReads (invariant : Service → Prop) : Prop where
  mounting : ∀ request : MountRequest, Preserves invariant request.perform
  counts : ∀ change : AlbumManagerCache → AlbumManagerCache, Preserves invariant
    (modifyManager fun manager => { manager with cache := change manager.cache })

/-- The steps that requests are made of preserve the property. Only the mount
requests change the mount table. -/
structure PreservedByFileSteps (invariant : Service → Prop) : Prop
    extends PreservedByReads invariant where
  calls : ∀ {α : Type} (call : FileSystem → α × FileSystem),
    (∀ fs, FileSystem.KeepsMounts fs (call fs).2) → Preserves invariant (callFs call)

/-- The requests that delete and copy no file. -/
def AlbumRequest.Reads : AlbumRequest → Prop
  | deleteFile _ _ => False
  | copyFile _ _ _ => False
  | _ => True

namespace PreservedByReads

variable (reads : PreservedByReads invariant)

include reads

theorem ensured (fault : Fault) (storageId : StorageId) :
    Preserves invariant (ensureMountState fault storageId .mounted) :=
  reads.mounting (.ensureMountState fault storageId .mounted)

variable (cipher : PathCipher)

theorem refreshCache (answers : ScanAnswers) (counts : ContentType → UInt64)
    (storageId : StorageId) :
    Preserves invariant (Capsrv.refreshCache answers.mount cipher answers.reader answers.stack
      counts storageId) := by
  refine .ite ?_ (preserves_pure _ _)
  refine preserves_ensured reads.ensured (fun _ => preserves_pure _ _) ?_
  exact (reads.counts (·.setAll storageId _)).bind fun _ => preserves_pure _ _

theorem countEntries (answers : ScanAnswers) (outCount : UInt64) (storageId : StorageId)
    (contentTypeFlags : UInt8) :
    Preserves invariant (Capsrv.countEntries answers.mount cipher answers.reader answers.stack
      outCount storageId contentTypeFlags) := by
  refine .ite ?_ (preserves_pure _ _)
  refine preserves_ensured reads.ensured (fun _ => preserves_pure _ _) ?_
  exact (preserves_get _).bind fun _ => preserves_pure _ _

theorem listEntries (answers : ScanAnswers) (maxEntries : UInt64) (storageId : StorageId)
    (contentTypeFlags : UInt8) :
    Preserves invariant (Capsrv.listEntries answers.mount cipher answers.reader answers.stack
      maxEntries storageId contentTypeFlags) := by
  refine preserves_ensured reads.ensured (fun _ => preserves_pure _ _) ?_
  exact (preserves_get _).bind fun _ => preserves_pure _ _

theorem getFileSize (faults : SizeFaults) (fileId : AlbumFileId) :
    Preserves invariant (Capsrv.getFileSize cipher faults fileId) := by
  refine (preserves_get _).bind fun service => .ite (.ite ?_ (preserves_pure _ _))
    (preserves_pure _ _)
  refine preserves_ensured reads.ensured (fun _ => preserves_pure _ _) ?_
  cases makeAlbumPath cipher service.manager.settings fileId with
  | error result => exact preserves_pure _ _
  | ok path =>
      refine (preserves_get _).bind fun service => ?_
      dsimp only
      cases service.fs.openFile faults.openFile path with
      | error result => exact preserves_pure _ _
      | ok file =>
          dsimp only
          cases service.fs.getFileSize faults.getFileSize file with
          | error result => exact preserves_pure _ _
          | ok fileSize => exact .ite (preserves_pure _ _) (preserves_pure _ _)

theorem request {request : AlbumRequest} (only : request.Reads) :
    Preserves invariant (request.perform cipher) := by
  cases request with
  | mount request => exact reads.mounting request
  | refreshCache answers counts storageId =>
      exact reads.refreshCache cipher answers counts storageId
  | getCache storageId type => exact (preserves_getCache storageId type).first
  | canSave storageId type count => exact preserves_canSave storageId type count
  | countEntries answers outCount storageId contentTypeFlags =>
      exact (reads.countEntries cipher answers outCount storageId contentTypeFlags).first
  | listEntries answers maxEntries storageId contentTypeFlags =>
      exact (reads.listEntries cipher answers maxEntries storageId contentTypeFlags).first
  | listApplicationEntries fault storageId =>
      exact (preserves_listApplicationEntries reads.ensured fault storageId).first
  | getFileSize faults fileId => exact (reads.getFileSize cipher faults fileId).first
  | loadJpeg fault fileId => exact preserves_loadPicture reads.ensured fault fileId
  | loadImage fault fileId => exact preserves_loadPicture reads.ensured fault fileId
  | loadJpegThumbnail fault fileId => exact preserves_loadPicture reads.ensured fault fileId
  | loadThumbnailImage fault fileId => exact preserves_loadPicture reads.ensured fault fileId
  | deleteFile => exact only.elim
  | copyFile => exact only.elim
  | getAlbumUsage fault storageId => exact preserves_getAlbumUsage reads.ensured fault storageId
  | getRequiredStorageSpaceSizeToCopyAll sourceFault destinationFault source destination =>
      exact (preserves_getRequiredStorageSpaceSizeToCopyAll reads.ensured sourceFault
        destinationFault source destination).first
  | getAutoSavingStorage answers type =>
      have mounting := fun fault storageId =>
        reads.mounting (.mountImageDirectory fault storageId)
      refine (preserves_getAutoSavingStorage mounting answers type).bind fun saved => ?_
      cases saved <;> exact preserves_pure _ _

end PreservedByReads

namespace PreservedByFileSteps

variable (steps : PreservedByFileSteps invariant)

include steps

variable (cipher : PathCipher)

theorem deleteFile (faults : DeleteFaults) (fileId : AlbumFileId) :
    Preserves invariant (Capsrv.deleteFile cipher faults fileId) := by
  refine (preserves_get _).bind fun service => .ite (.ite (.ite ?_ ?_) ?_) ?_
  · refine preserves_ensured steps.ensured (fun _ => preserves_pure _ _) ?_
    cases makeAlbumPath cipher service.manager.settings fileId with
    | error result => exact preserves_pure _ _
    | ok filePath =>
        refine (steps.calls _ (FileSystem.keepsMounts_deleteFile _ _)).bind fun _ => ?_
        exact (steps.counts (·.decrement fileId.storageId fileId.type)).bind
          fun _ => preserves_pure _ _
  · exact preserves_pure _ _
  · exact preserves_pure _ _
  · exact preserves_pure _ _

theorem copyContent (faults : CopyFaults) (sourceFile : FsPath) (size : Nat)
    (destinationPath : Text) (destination : StorageId) (type : ContentType) :
    Preserves invariant (Capsrv.copyContent faults sourceFile size destinationPath destination
      type) := by
  have created := fun isQuest => steps.calls _ fun fs =>
    FileSystem.keepsMounts_createAlbumFileImpl destinationPath size fs faults.toCreateFaults isQuest
  refine (preserves_get _).bind fun service => (created service.isQuest).bind fun created => ?_
  cases created with
  | error result => exact preserves_pure _ _
  | ok destinationFile =>
      have copied := steps.calls _ fun fs => FileSystem.keepsMounts_copyChunks size fs faults
        service.manager.workMemorySize sourceFile destinationFile size 0
      refine copied.bind fun copied => .ite ?_ ?_
      · refine (steps.calls _ FileSystem.KeepsMounts.refl).bind fun _ => ?_
        exact (steps.counts (·.increment destination type)).bind fun _ => preserves_pure _ _
      · refine (steps.calls _ (FileSystem.keepsMounts_deleteFile _ _)).bind fun _ => ?_
        exact preserves_pure _ _

theorem copyMounted (faults : CopyFaults) (sourceId : AlbumFileId) (destination : StorageId) :
    Preserves invariant (Capsrv.copyMounted cipher faults sourceId destination) := by
  refine (preserves_get _).bind fun service => ?_
  dsimp only
  cases makeAlbumPath cipher service.manager.settings sourceId with
  | error result => exact preserves_pure _ _
  | ok sourcePath =>
  dsimp only
  cases makeAlbumPath cipher service.manager.settings
      { sourceId with storageId := destination } with
  | error result => exact preserves_pure _ _
  | ok destinationPath =>
  dsimp only
  cases service.fs.openFile faults.openSource sourcePath with
  | error result => exact preserves_pure _ _
  | ok sourceFile =>
  dsimp only
  cases service.fs.getFileSize faults.getFileSize sourceFile with
  | error result => exact preserves_pure _ _
  | ok size =>
      refine .ite (.ite ?_ (preserves_pure _ _)) (preserves_pure _ _)
      exact steps.copyContent faults sourceFile size destinationPath destination sourceId.type

theorem copyFile (faults : CopyFaults) (sourceId : AlbumFileId) (destination : StorageId) :
    Preserves invariant (Capsrv.copyFile cipher faults sourceId destination) := by
  refine (preserves_get _).bind fun service => .ite (.ite ?_ ?_) ?_
  · refine .ite (.ite (preserves_pure _ _) ?_) (preserves_pure _ _)
    refine preserves_ensured steps.ensured (fun _ => preserves_pure _ _) ?_
    exact preserves_ensured steps.ensured (fun _ => preserves_pure _ _)
      (steps.copyMounted cipher faults sourceId destination)
  · exact preserves_pure _ _
  · exact preserves_pure _ _

/-! ## All requests -/

theorem request (request : AlbumRequest) : Preserves invariant (request.perform cipher) := by
  cases request with
  | deleteFile faults fileId => exact steps.deleteFile cipher faults fileId
  | copyFile faults sourceId destination =>
      exact steps.copyFile cipher faults sourceId destination
  | _ => exact steps.toPreservedByReads.request cipher trivial

theorem run (requests : List AlbumRequest) :
    Preserves invariant (Process.run (AlbumRequest.perform cipher) requests) :=
  preserves_run _ (steps.request cipher) requests

end PreservedByFileSteps

/-- The steps that requests are made of preserve the property, whatever a call
of the file system layer changes. -/
structure PreservedBySteps (invariant : Service → Prop) : Prop where
  mounting : ∀ request : MountRequest, Preserves invariant request.perform
  calls : ∀ {α : Type} (call : FileSystem → α × FileSystem), Preserves invariant (callFs call)
  counts : ∀ change : AlbumManagerCache → AlbumManagerCache, Preserves invariant
    (modifyManager fun manager => { manager with cache := change manager.cache })

namespace PreservedBySteps

theorem onFiles (steps : PreservedBySteps invariant) : PreservedByFileSteps invariant where
  mounting := steps.mounting
  calls call _ := steps.calls call
  counts := steps.counts

theorem run (steps : PreservedBySteps invariant) (cipher : PathCipher)
    (requests : List AlbumRequest) :
    Preserves invariant (Process.run (AlbumRequest.perform cipher) requests) :=
  steps.onFiles.run cipher requests

end PreservedBySteps

/-! ### The mount invariant -/

/-- Every request leaves the mount statuses in step with the mount table. -/
theorem preservedByFileSteps_mountInvariant : PreservedByFileSteps MountInvariant where
  mounting := MountRequest.preserves
  calls := by
    intro α call keeps service holds
    rcases keeps service.fs with ⟨names, calls⟩
    refine ⟨holds.mirrored.congr (fun _ => rfl) names, ?_⟩
    rw [callFs_apply, FileSystem.CallsSound, calls]
    exact holds.calls
  counts := fun _ _ holds => ⟨holds.mirrored.congr (fun _ => rfl) rfl, holds.calls⟩

/-! ## Mount requests -/

/-- The statuses that mount requests set. -/
inductive LeftStatus : MountStatus → Prop
  | mounted : LeftStatus ⟨.mounted, .success⟩
  | pathNotFound : LeftStatus ⟨.unmounted, albumPathNotFound.result⟩
  | isNotMounted (state : MountState) (left : state ≠ .mounted) :
      LeftStatus ⟨state, albumIsNotMounted.result⟩

/-- Without an error the storage is mounted. -/
theorem LeftStatus.eq_of_success {status : MountStatus} (left : LeftStatus status)
    (success : status.lastError = .success) : status = ⟨.mounted, .success⟩ := by
  cases left with
  | mounted => rfl
  | pathNotFound => exact absurd success (by decide)
  | isNotMounted =>
      have failure : albumIsNotMounted.result ≠ .success := by decide
      exact absurd success failure

/-- The catch ladder of an attempt. -/
theorem leftStatus_of_caught (result : Result) :
    LeftStatus
      (if result.isSuccess then ⟨.mounted, .success⟩
      else if albumPathUnavailable.includes result then ⟨.unmounted, albumPathNotFound.result⟩
      else if albumUnexpected.includes result then ⟨.unmounted, albumIsNotMounted.result⟩
      else ⟨.available, albumIsNotMounted.result⟩) := by
  split
  · exact .mounted
  · split
    · exact .pathNotFound
    · split
      · exact .isNotMounted _ (by decide)
      · exact .isNotMounted _ (by decide)

/-- An attempt returns the error it leaves. -/
theorem tryMount_left {fault : Fault} {storageId : StorageId} {service next : Service}
    {result : Result} (tried : tryMount fault storageId service = (some result, next)) :
    LeftStatus (next.manager.mountStatus storageId) ∧
      (next.manager.mountStatus storageId).lastError = result := by
  rw [tryMount, Process.bind_apply] at tried
  split at tried
  · rw [Process.bind_apply, modifyManager_apply] at tried
    cases tried
    rw [AlbumManager.mountStatus_setMountStatus]
    exact ⟨leftStatus_of_caught _, rfl⟩
  · cases tried

section

variable {fault : Fault} {storageId : StorageId}

theorem preserves_mountAlbum (attempted : Preserves invariant
      (callFs (FileSystem.mountImageDirectory fault (mountName storageId)))) :
    Preserves invariant (mountAlbum fault storageId) := by
  refine (preserves_get _).bind fun service => ?_
  refine .ite (preserves_abort _) (.ite ?_ (preserves_pure _ _))
  refine attempted.bind fun result => .ite (preserves_abort _) ?_
  refine .ite (preserves_pure _ _) (.ite (preserves_pure _ _) ?_)
  exact .ite (preserves_pure _ _) (preserves_pure _ _)

theorem preserves_tryMount
    (attempted : Preserves invariant
      (callFs (FileSystem.mountImageDirectory fault (mountName storageId))))
    (statuses : ∀ status, LeftStatus status →
      Preserves invariant (modifyManager (·.setMountStatus storageId status))) :
    Preserves invariant (tryMount fault storageId) := by
  refine (preserves_mountAlbum attempted).bind fun result => ?_
  exact Preserves.bind (statuses _ (leftStatus_of_caught result)) fun _ => preserves_pure _ _

theorem preserves_mountImageDirectory (tried : Preserves invariant (tryMount fault storageId)) :
    Preserves invariant (mountImageDirectory fault storageId) := by
  refine .ite ?_ (preserves_pure _ _)
  exact (preserves_get _).bind fun service => .ite tried (preserves_pure _ _)

theorem preserves_ensureMountState (tried : Preserves invariant (tryMount fault storageId))
    (mountState : MountState) :
    Preserves invariant (ensureMountState fault storageId mountState) := by
  refine .ite ?_ (preserves_pure _ _)
  refine (preserves_get _).bind fun service => .ite ?_ tried
  refine .ite (preserves_pure _ _) (.ite (preserves_pure _ _) (.ite (preserves_pure _ _) ?_))
  exact .ite (preserves_pure _ _) (preserves_pure _ _)

section

variable (called : ∀ name, Preserves invariant (callFs (FileSystem.unmount name)))

include called

theorem preserves_unmountAlbum (storageId : StorageId) :
    Preserves invariant (unmountAlbum storageId) := by
  have unmounted : ∀ name, Preserves invariant (unmount name) := fun name =>
    (called name).bind fun _ => .ite (preserves_pure _ _) (preserves_abort _)
  refine (preserves_get _).bind fun service => .ite ?_ (.ite ?_ (preserves_pure _ _))
  · exact (unmounted _).bind fun _ => preserves_pure _ _
  · exact (unmounted _).bind fun _ => preserves_pure _ _

theorem preserves_leaveImageDirectory {state : MountState}
    (status : Preserves invariant
      (modifyManager (·.setMountStatus storageId ⟨state, albumIsNotMounted.result⟩))) :
    Preserves invariant (leaveImageDirectory state storageId) := by
  have finished : ∀ unmounted, Preserves invariant
      (rTry unmounted pure do
        modifyManager (·.setMountStatus storageId ⟨state, albumIsNotMounted.result⟩)
        pure Result.success) :=
    fun unmounted => .ite (status.bind fun _ => preserves_pure _ _) (preserves_pure _ _)
  refine .ite ((preserves_get _).bind fun service => .ite ?_ ?_) (preserves_pure _ _)
  · rw [closeStreamsByStorageId_eq]
    refine (preserves_pure _ _).bind fun _ => ?_
    exact (preserves_unmountAlbum called storageId).bind finished
  · exact (preserves_pure _ _).bind finished

end

end

/-- The steps that mount requests are made of preserve the property. -/
structure PreservedByMounting (invariant : Service → Prop) : Prop where
  calls : ∀ {α : Type} (call : FileSystem → α × FileSystem), Preserves invariant (callFs call)
  statuses : ∀ storageId status, LeftStatus status →
    Preserves invariant (modifyManager (·.setMountStatus storageId status))

theorem PreservedByMounting.mounting (steps : PreservedByMounting invariant)
    (request : MountRequest) : Preserves invariant request.perform := by
  have tried : ∀ fault storageId, Preserves invariant (tryMount fault storageId) :=
    fun _ storageId => preserves_tryMount (steps.calls _) (steps.statuses storageId)
  have left : ∀ storageId state, state ≠ .mounted →
      Preserves invariant (leaveImageDirectory state storageId) :=
    fun storageId state left => preserves_leaveImageDirectory (fun _ => steps.calls _)
      (steps.statuses storageId _ (.isNotMounted state left))
  cases request with
  | mountImageDirectory fault storageId =>
      exact preserves_mountImageDirectory (tried fault storageId)
  | ensureMountState fault storageId mountState =>
      exact preserves_ensureMountState (tried fault storageId) mountState
  | closeImageDirectory storageId => exact left storageId .unmounted (by decide)
  | unmountImageDirectory storageId => exact left storageId .available (by decide)

/-! ### Properties of the manager -/

section

variable (property : AlbumManager → Prop) (statuses : ∀ manager storageId status,
  LeftStatus status → property manager → property (manager.setMountStatus storageId status))

include statuses

/-- A property of the manager that the new statuses keep. -/
theorem preservedByMounting_of_manager :
    PreservedByMounting fun service => property service.manager where
  calls := fun _ _ holds => holds
  statuses := fun storageId status left service holds =>
    statuses service.manager storageId status left holds

theorem preservedBySteps_of_manager
    (counts : ∀ manager cache, property manager → property { manager with cache }) :
    PreservedBySteps fun service => property service.manager where
  mounting := (preservedByMounting_of_manager property statuses).mounting
  calls := fun _ _ holds => holds
  counts := fun _ service holds => counts service.manager _ holds

end

theorem mountStatus_setMountStatus_cases (manager : AlbumManager) (storageId other : StorageId)
    (status : MountStatus) :
    (manager.setMountStatus storageId status).mountStatus other = status ∨
      (manager.setMountStatus storageId status).mountStatus other = manager.mountStatus other := by
  unfold AlbumManager.setMountStatus AlbumManager.mountStatus
  by_cases nand : storageId = .nand <;> by_cases otherNand : other = .nand <;>
    simp [nand, otherNand]

/-- What every status has that a mount request sets, both storages keep. -/
theorem preservedBySteps_statuses {property : MountStatus → Prop}
    (left : ∀ status, LeftStatus status → property status) :
    PreservedBySteps fun service =>
      ∀ storageId, property (service.manager.mountStatus storageId) := by
  apply preservedBySteps_of_manager fun manager =>
    ∀ storageId, property (manager.mountStatus storageId)
  · intro manager storageId status set holds other
    rcases mountStatus_setMountStatus_cases manager storageId other status with changed | same
    · rw [changed]
      exact left status set
    · rw [same]
      exact holds other
  · intro manager cache holds
    exact holds

end Capsrv
