import Capsrv.AlbumFileSteps
import Capsrv.RecordedRequests
import Capsrv.RequestInvariants

/-! # A removed storage

`CloseImageDirectory` is what a removed card is answered with. From then on no
request mounts the storage or comes near its files, until
`UnmountImageDirectory` announces it again.
-/

namespace Capsrv

open Service

/-! ## Paths of other mounts -/

theorem FsAccess.not_on_of_getMountNameAndSubPath {text name subPath other : Text}
    (split : Fs.getMountNameAndSubPath text = .ok (name, subPath)) (different : name ≠ other) :
    ¬ (FsAccess.path text).On other := by
  rintro ⟨otherSubPath, otherSplit⟩
  rw [split, Except.ok.injEq, Prod.mk.injEq] at otherSplit
  exact different otherSplit.1

/-- A path on the mount point of a storage is on no other mount. -/
theorem FsAccess.not_on_of_mountPoint {storageId : StorageId} {text other : Text}
    (under : mountPoint storageId <+: text) (different : mountName storageId ≠ other) :
    ¬ (FsAccess.path text).On other := by
  rcases under with ⟨rest, rfl⟩
  exact not_on_of_getMountNameAndSubPath (Fs.getMountNameAndSubPath_mountPoint storageId rest)
    different

theorem makeAlbumPath_mountPoint {cipher : PathCipher} {settings : AlbumSettings}
    {fileId : AlbumFileId} {path : Text} (made : makeAlbumPath cipher settings fileId = .ok path) :
    mountPoint fileId.storageId <+: path := by
  by_cases accepted : fileId.verify settings = .success
  · have verified := (fileId.verify_eq_success_iff settings).mp accepted
    rcases getAlbumPath_eq_joinNames cipher verified with ⟨rest, equal, -⟩
    rw [makeAlbumPath_of_verified cipher verified, Except.ok.injEq] at made
    exact ⟨rest, by rw [← made, equal]⟩
  · rw [makeAlbumPath, rTry, if_neg (by simpa using accepted)] at made
    cases made

namespace FileSystem

variable {fs : FileSystem} {path name : Text} {file : FsPath}

theorem getMountNameAndSubPath_of_resolve (resolved : fs.resolve path = .ok file) :
    ∃ subPath, Fs.getMountNameAndSubPath path = .ok (file.mountName, subPath) := by
  rw [resolve] at resolved
  cases split : Fs.getMountNameAndSubPath path with
  | error result =>
      rw [split] at resolved
      cases resolved
  | ok pieces =>
      rcases pieces with ⟨mount, subPath⟩
      simp only [split, bind, Except.bind] at resolved
      by_cases mounted : mount ∈ fs.names
      · rw [if_pos mounted] at resolved
        cases components : Fs.getPathForServiceObject mount subPath with
        | error result =>
            rw [components] at resolved
            cases resolved
        | ok names =>
            rw [components] at resolved
            cases resolved
            exact ⟨subPath, rfl⟩
      · rw [if_neg mounted] at resolved
        cases resolved

theorem resolve_of_openFile {fault : Fault} (opened : fs.openFile fault path = .ok file) :
    fs.resolve path = .ok file := by
  cases resolved : fs.resolve path with
  | error result =>
      rw [openFile_of_error resolved] at opened
      cases opened
  | ok found =>
      rw [openFile_of_resolve resolved] at opened
      split at opened
      · split at opened
        · exact opened
        · cases opened
      · cases opened

section

variable (elsewhere : ¬ (FsAccess.path path).On name)

include elsewhere

theorem mountName_ne_of_resolve (resolved : fs.resolve path = .ok file) :
    file.mountName ≠ name := by
  rintro rfl
  exact elsewhere (getMountNameAndSubPath_of_resolve resolved)

theorem mountName_ne_of_openFile {fault : Fault} (opened : fs.openFile fault path = .ok file) :
    file.mountName ≠ name :=
  mountName_ne_of_resolve elsewhere (resolve_of_openFile opened)

end

end FileSystem

/-! ## Calls that spare a mount -/

/-- No mount is changed, and no file on the named one. -/
structure FileSystem.Spares (name : Text) (fs next : FileSystem) : Prop where
  calls : next.calls = fs.calls
  mutations : Extends (fun file => file.mountName ≠ name) fs.mutations next.mutations

namespace FileSystem.Spares

variable {name : Text} {fs next final : FileSystem} {file : FsPath} {fault : Fault}

theorem refl (fs : FileSystem) : Spares name fs fs :=
  ⟨rfl, .refl fs.mutations⟩

theorem trans (first : Spares name fs next) (second : Spares name next final) :
    Spares name fs final :=
  ⟨second.calls.trans first.calls, first.mutations.trans second.mutations⟩

theorem store (different : file.mountName ≠ name) (content : List UInt8) :
    Spares name fs (fs.store file content) :=
  ⟨rfl, .append (by simpa using different)⟩

theorem remove (different : file.mountName ≠ name) : Spares name fs (fs.remove file) :=
  ⟨rfl, .append (by simpa using different)⟩

theorem setFileSize (different : file.mountName ≠ name) (size : Nat) :
    Spares name fs (fs.setFileSize fault file size).2 := by
  rw [setFileSize_eq]
  split
  · exact store different _
  · exact .refl fs

theorem writeFile (different : file.mountName ≠ name) (offset : Nat) (data : List UInt8) :
    Spares name fs (fs.writeFile fault file offset data).2 := by
  rw [writeFile_eq]
  split
  · exact store different _
  · exact .refl fs

/-- The loop of a copy writes to its destination only. -/
theorem copyChunks {faults : CopyFaults} {workMemorySize : Nat} {source destination : FsPath}
    {size : Nat} (different : destination.mountName ≠ name) (rounds offset : Nat)
    (fs : FileSystem) :
    Spares name fs
      (Capsrv.copyChunks faults workMemorySize source destination size rounds offset fs).2 := by
  induction rounds generalizing offset fs with
  | zero => exact .refl fs
  | succ rounds induction =>
      rw [Capsrv.copyChunks]
      by_cases more : offset < size
      case neg =>
        rw [if_neg more]
        exact .refl fs
      rw [if_pos more]
      cases fs.readFile (faults.readFile offset) source offset workMemorySize with
      | error result => exact .refl fs
      | ok data =>
          have written : Spares name fs
              (fs.writeFile (faults.writeFile offset) destination offset data).2 :=
            writeFile different offset data
          dsimp only
          rw [rTry]
          split
          · exact written.trans (induction _ _)
          · exact written

section

variable {path : Text} (elsewhere : ¬ (FsAccess.path path).On name)

include elsewhere

theorem deleteFile (fault : Fault) (fs : FileSystem) :
    Spares name fs (fs.deleteFile fault path).2 := by
  cases resolved : fs.resolve path with
  | error result =>
      rw [FileSystem.deleteFile, resolved]
      exact .refl fs
  | ok file =>
      rw [deleteFile_of_resolve resolved]
      split
      · exact remove (mountName_ne_of_resolve elsewhere resolved)
      · exact .refl fs

theorem createFile (fault : Fault) (size : Nat) (fs : FileSystem) :
    Spares name fs (fs.createFile fault path size).2 := by
  cases resolved : fs.resolve path with
  | error result =>
      rw [FileSystem.createFile, resolved]
      exact .refl fs
  | ok file =>
      rw [createFile_of_resolve resolved]
      split
      · split
        · exact store (mountName_ne_of_resolve elsewhere resolved) _
        · exact .refl fs
      · exact .refl fs

/-- A file that is opened again is where the path is. -/
theorem openExistingFile (faults : CreateFaults) (size : Nat) (fs : FileSystem) :
    Spares name fs (Capsrv.openExistingFile faults path size fs).2 ∧
      ∀ file, (Capsrv.openExistingFile faults path size fs).1 = .ok file →
        file.mountName ≠ name := by
  unfold Capsrv.openExistingFile
  cases opened : fs.openFile faults.openFile path with
  | error result => exact ⟨.refl fs, by simp⟩
  | ok file =>
      have different := mountName_ne_of_openFile elsewhere opened
      have resized : Spares name fs (fs.setFileSize faults.setFileSize file size).2 :=
        setFileSize different size
      dsimp only
      rw [rTry]
      split
      · refine ⟨resized, fun found same => ?_⟩
        cases same
        exact different
      · exact ⟨resized, by simp⟩

theorem openCreatedFile (faults : CreateFaults) (fs : FileSystem) :
    Spares name fs (Capsrv.openCreatedFile faults path fs).2 ∧
      ∀ file, (Capsrv.openCreatedFile faults path fs).1 = .ok file → file.mountName ≠ name := by
  unfold Capsrv.openCreatedFile
  cases opened : fs.openFile faults.openFile path with
  | error result => exact ⟨deleteFile elsewhere faults.cleanUp fs, by simp⟩
  | ok file =>
      refine ⟨.refl fs, fun found same => ?_⟩
      cases same
      exact mountName_ne_of_openFile elsewhere opened

theorem createAlbumFileImpl (isQuest : Bool) (faults : CreateFaults) (size : Nat)
    (fs : FileSystem) :
    Spares name fs (Capsrv.createAlbumFileImpl isQuest faults path size fs).2 ∧
      ∀ file, (Capsrv.createAlbumFileImpl isQuest faults path size fs).1 = .ok file →
        file.mountName ≠ name := by
  have created : Spares name fs (fs.createFile faults.createFile path size).2 :=
    createFile elsewhere faults.createFile size fs
  have existing := openExistingFile elsewhere faults size
    (fs.createFile faults.createFile path size).2
  have fresh := openCreatedFile elsewhere faults (fs.createFile faults.createFile path size).2
  unfold Capsrv.createAlbumFileImpl
  dsimp only [rUnless, rTry]
  split
  · split
    · split
      · exact ⟨created.trans existing.1, existing.2⟩
      · split
        · exact ⟨created.trans fresh.1, fresh.2⟩
        · exact ⟨created, by simp⟩
    · exact ⟨.refl fs, by simp⟩
  · exact ⟨.refl fs, by simp⟩

end

end FileSystem.Spares

/-! ## A storage that is left alone -/

/-- The status that closing a storage leaves. -/
def MountStatus.closed : MountStatus :=
  ⟨.unmounted, albumIsNotMounted.result⟩

/-- The storage is closed, and since then nobody has tried to mount it or has
changed a file on it. -/
structure Untouched (storageId : StorageId) (closed service : Service) : Prop where
  status : service.manager.mountStatus storageId = .closed
  calls : Extends
    (fun call => ∀ registered, call ≠ .mountImageDirectory (mountName storageId) registered)
    closed.fs.calls service.fs.calls
  mutations : Extends (fun file => file.mountName ≠ mountName storageId)
    closed.fs.mutations service.fs.mutations

section

variable {storageId : StorageId} {service : Service}

/-- Both checks stop at a closed storage. -/
theorem mountImageDirectory_of_closed (fault : Fault)
    (status : service.manager.mountStatus storageId = .closed) :
    ∃ result, result ≠ .success ∧
      mountImageDirectory fault storageId service = (some result, service) := by
  by_cases valid : storageValid storageId
  · refine ⟨albumIsNotMounted.result, by decide, ?_⟩
    have verified := verifyStorageId_eq_success_iff.mpr valid
    simp only [mountImageDirectory, rTry, rUnless, verified, Result.isSuccess_success, if_true,
      Process.bind_apply, Process.get_apply, status]
    rfl
  · refine ⟨albumInvalidStorage.result, by decide, ?_⟩
    rw [mountImageDirectory, verifyStorageId_of_invalid valid]
    rfl

theorem ensureMountState_of_closed (fault : Fault) (mountState : MountState)
    (status : service.manager.mountStatus storageId = .closed) :
    ∃ result, result ≠ .success ∧
      ensureMountState fault storageId mountState service = (some result, service) := by
  by_cases valid : storageValid storageId
  · refine ⟨albumIsNotMounted.result, by decide, ?_⟩
    have verified := verifyStorageId_eq_success_iff.mpr valid
    simp only [ensureMountState, rTry, verified, Result.isSuccess_success, if_true,
      Process.bind_apply, Process.get_apply, status]
    rfl
  · refine ⟨albumInvalidStorage.result, by decide, ?_⟩
    rw [ensureMountState, verifyStorageId_of_invalid valid]
    rfl

end

/-- Both ways to mount the storage end in front of `MountAlbum`. -/
structure Service.RefusesMount (service : Service) (storageId : StorageId) : Prop where
  mount : ∀ fault, ∃ result, result ≠ .success ∧
    mountImageDirectory fault storageId service = (some result, service)
  ensure : ∀ fault mountState, ∃ result, result ≠ .success ∧
    ensureMountState fault storageId mountState service = (some result, service)

namespace FileSystem

variable {fs : FileSystem}

theorem mountImageDirectory_calls (fault : Fault) (name : Text) :
    (fs.mountImageDirectory fault name).2.calls =
      fs.calls ++ [.mountImageDirectory name (name ∈ fs.names)] := by
  simp only [mountImageDirectory, register, rTry, rUnless]
  repeat' split
  all_goals rfl

theorem mountImageDirectory_mutations (fault : Fault) (name : Text) :
    (fs.mountImageDirectory fault name).2.mutations = fs.mutations := by
  simp only [mountImageDirectory, register, rTry, rUnless]
  repeat' split
  all_goals rfl

theorem unmount_mutations (name : Text) : (fs.unmount name).2.mutations = fs.mutations := by
  simp only [unmount, rUnless]
  split <;> rfl

end FileSystem

/-! ## What leaves it alone -/

section

open Process

variable {α : Type} {storageId : StorageId} {closed : Service} {cipher : PathCipher}

theorem preserves_callFs {call : FileSystem → α × FileSystem}
    (spares : ∀ fs, FileSystem.Spares (mountName storageId) fs (call fs).2) :
    Preserves (Untouched storageId closed) (callFs call) := by
  intro service holds
  have spared := spares service.fs
  refine ⟨holds.status, ?_, holds.mutations.trans spared.mutations⟩
  rw [callFs_apply, spared.calls]
  exact holds.calls

theorem preserves_modifyManager {change : AlbumManager → AlbumManager}
    (same : ∀ manager, manager.mountStatus storageId = .closed →
      (change manager).mountStatus storageId = .closed) :
    Preserves (Untouched storageId closed) (modifyManager change) :=
  fun service holds => ⟨same service.manager holds.status, holds.calls, holds.mutations⟩

/-- Nothing about the counts matters here. -/
theorem preserves_cache (change : AlbumManagerCache → AlbumManagerCache) :
    Preserves (Untouched storageId closed)
      (modifyManager fun manager => { manager with cache := change manager.cache }) :=
  preserves_modifyManager fun _ unmounted => unmounted

theorem untouched_setMountStatus (valid : storageValid storageId) {other : StorageId}
    (otherValid : storageValid other) {status : MountStatus}
    (keeps : other = storageId → status = .closed) :
    Preserves (Untouched storageId closed) (modifyManager (·.setMountStatus other status)) := by
  refine preserves_modifyManager fun manager unmounted => ?_
  by_cases same : other = storageId
  · subst same
    rw [AlbumManager.mountStatus_setMountStatus]
    exact keeps rfl
  · rw [AlbumManager.mountStatus_setMountStatus_of_ne _ _ _ otherValid valid (Ne.symm same)]
    exact unmounted

/-- An attempt to mount another storage. -/
theorem untouched_tryMount (valid : storageValid storageId) (fault : Fault)
    {other : StorageId} (otherValid : storageValid other) (different : other ≠ storageId) :
    Preserves (Untouched storageId closed) (tryMount fault other) := by
  apply preserves_tryMount
  · intro service holds
    refine ⟨holds.status, holds.calls.trans ?_, ?_⟩
    · rw [callFs_apply, FileSystem.mountImageDirectory_calls]
      refine .append fun call member registered => ?_
      rw [List.mem_singleton.mp member]
      intro same
      exact mountName_ne valid otherValid different (MountCall.mountImageDirectory.inj same).1
    · rw [callFs_apply, FileSystem.mountImageDirectory_mutations]
      exact holds.mutations
  · intro status _
    exact untouched_setMountStatus valid otherValid fun same => absurd same different

/-- An attempt to mount is refused before its call, or is one on another storage. -/
theorem untouched_mountImageDirectory (valid : storageValid storageId) (fault : Fault)
    (other : StorageId) :
    Preserves (Untouched storageId closed) (mountImageDirectory fault other) := by
  by_cases otherValid : storageValid other
  case neg =>
    rw [mountImageDirectory, verifyStorageId_of_invalid otherValid]
    exact preserves_pure _ _
  by_cases same : other = storageId
  · subst same
    intro service holds
    rcases mountImageDirectory_of_closed fault holds.status with ⟨result, -, refused⟩
    rwa [refused]
  · apply preserves_mountImageDirectory
    exact untouched_tryMount valid fault otherValid same

theorem untouched_ensureMountState (valid : storageValid storageId) (fault : Fault)
    (other : StorageId) (mountState : MountState) :
    Preserves (Untouched storageId closed) (ensureMountState fault other mountState) := by
  by_cases otherValid : storageValid other
  case neg =>
    rw [ensureMountState, verifyStorageId_of_invalid otherValid]
    exact preserves_pure _ _
  by_cases same : other = storageId
  · subst same
    intro service holds
    rcases ensureMountState_of_closed fault mountState holds.status with ⟨result, -, refused⟩
    rwa [refused]
  · exact preserves_ensureMountState (untouched_tryMount valid fault otherValid same) mountState

theorem untouched_unmount (name : Text) :
    Preserves (Untouched storageId closed) (callFs (FileSystem.unmount name)) := by
  intro service holds
  rw [callFs_apply]
  refine ⟨holds.status, holds.calls.trans ?_, ?_⟩
  · rw [FileSystem.unmount_calls]
    exact .append (by simp)
  · rw [FileSystem.unmount_mutations]
    exact holds.mutations

/-- A storage may be closed again, and another one may be left in any state. -/
theorem untouched_leaveImageDirectory (valid : storageValid storageId) (state : MountState)
    (other : StorageId) (keeps : other = storageId → state = .unmounted) :
    Preserves (Untouched storageId closed) (leaveImageDirectory state other) := by
  by_cases otherValid : storageValid other
  case neg =>
    rw [leaveImageDirectory, verifyStorageId_of_invalid otherValid]
    exact preserves_pure _ _
  apply preserves_leaveImageDirectory untouched_unmount
  apply untouched_setMountStatus valid otherValid
  intro same
  rw [keeps same]
  rfl

theorem untouched_mountRequest (valid : storageValid storageId) (request : MountRequest)
    (unannounced : request ≠ .unmountImageDirectory storageId) :
    Preserves (Untouched storageId closed) request.perform := by
  cases request with
  | mountImageDirectory fault other => exact untouched_mountImageDirectory valid fault other
  | ensureMountState fault other mountState =>
      exact untouched_ensureMountState valid fault other mountState
  | closeImageDirectory other =>
      exact untouched_leaveImageDirectory valid .unmounted other fun _ => rfl
  | unmountImageDirectory other =>
      refine untouched_leaveImageDirectory valid .available other fun same => ?_
      exact absurd (congrArg MountRequest.unmountImageDirectory same) unannounced

end

/-! ## What a request accesses -/

section

open Recorded

variable {α : Type} {storageId : StorageId} {closed : Service} (valid : storageValid storageId)

/-- The request leaves the storage alone. -/
abbrev Avoids (storageId : StorageId) (closed : Service) (process : Process RecordedService α) :
    Prop :=
  Emits (Untouched storageId closed) (fun access => ¬ access.On (mountName storageId)) process

include valid

/-- Only on another storage a request goes on behind `EnsureMountState`. -/
theorem avoids_ensured {fault : Fault} {other : StorageId}
    {early : Result → Process RecordedService α} {rest : Process RecordedService α}
    (refused : ∀ result, Avoids storageId closed (early result))
    (mounted : mountName other ≠ mountName storageId → Avoids storageId closed rest) :
    Avoids storageId closed
      (lift (ensureMountState fault other .mounted) >>= fun ensured =>
        rTry ensured early rest) := by
  have ensured : Avoids storageId closed (lift (ensureMountState fault other .mounted)) :=
    emits_lift (untouched_ensureMountState valid fault other .mounted)
  have known : ∀ (recorded : RecordedService) result, Untouched storageId closed recorded.state →
      (lift (ensureMountState fault other .mounted) recorded).1 = some result →
      result = .success → mountName other ≠ mountName storageId := by
    intro recorded result holds returned success
    change (ensureMountState fault other .mounted recorded.state).1 = some result at returned
    by_cases otherValid : storageValid other
    · apply mountName_ne valid otherValid
      rintro rfl
      rcases ensureMountState_of_closed fault .mounted holds.status with ⟨refusal, failed, equal⟩
      rw [equal] at returned
      exact failed ((Option.some.inj returned).trans success)
    · have failed : albumInvalidStorage.result ≠ .success := by decide
      rw [ensureMountState, verifyStorageId_of_invalid otherValid] at returned
      exact absurd ((Option.some.inj returned).trans success) failed
  refine ensured.bind_of_returns known fun result returned => ?_
  refine .ite (fun success => ?_) fun _ => refused result
  exact mounted (returned ((Result.isSuccess_eq_true_iff result).mp success))

variable (cipher : PathCipher)

omit valid in
/-- A scan of another storage. -/
theorem avoids_scan {τ : Type} {answers : ScanAnswers} {other : StorageId}
    {albumFileCallback : AlbumEntry → τ → τ × Bool} {outcome : τ}
    (different : mountName other ≠ mountName storageId) :
    Avoids storageId closed
      (Recording.processImageDirectory cipher answers other albumFileCallback outcome) := by
  refine (emits_record fun access member => ?_).bind fun _ => emits_pure _
  rcases List.mem_map.mp member with ⟨path, opened, rfl⟩
  exact FsAccess.not_on_of_mountPoint
    (mountPoint_prefix_of_opened cipher answers.reader other answers.stack albumFileCallback
      outcome path opened) different

theorem avoids_refreshCache (answers : ScanAnswers) (counts : ContentType → UInt64)
    (other : StorageId) :
    Avoids storageId closed (Recording.refreshCache cipher answers counts other) := by
  refine .ite (fun _ => ?_) fun _ => emits_pure _
  refine avoids_ensured valid (fun _ => emits_pure _) fun different => ?_
  refine (avoids_scan cipher different).bind fun scanned => ?_
  exact (emits_lift (preserves_cache (·.setAll other scanned.2))).bind fun _ => emits_pure _

theorem avoids_countEntries (answers : ScanAnswers) (outCount : UInt64) (other : StorageId)
    (contentTypeFlags : UInt8) :
    Avoids storageId closed
      (Recording.countEntries cipher answers outCount other contentTypeFlags) := by
  refine .ite (fun _ => ?_) fun _ => emits_pure _
  refine avoids_ensured valid (fun _ => emits_pure _) fun different => ?_
  refine emits_current.bind fun service => ?_
  exact (avoids_scan cipher different).bind fun scanned => emits_pure _

theorem avoids_listEntries (answers : ScanAnswers) (maxEntries : UInt64) (other : StorageId)
    (contentTypeFlags : UInt8) :
    Avoids storageId closed
      (Recording.listEntries cipher answers maxEntries other contentTypeFlags) := by
  refine avoids_ensured valid (fun _ => emits_pure _) fun different => ?_
  refine emits_current.bind fun service => ?_
  exact (avoids_scan cipher different).bind fun scanned => emits_pure _

theorem avoids_getFileSize (faults : SizeFaults) (fileId : AlbumFileId) :
    Avoids storageId closed (Recording.getFileSize cipher faults fileId) := by
  refine emits_current.bind fun service => .ite (fun _ => ?_) fun _ => emits_pure _
  refine .ite (fun _ => ?_) fun _ => emits_pure _
  refine avoids_ensured valid (fun _ => emits_pure _) fun different => ?_
  cases made : makeAlbumPath cipher service.manager.settings fileId with
  | error result => exact emits_pure _
  | ok path =>
      have elsewhere := FsAccess.not_on_of_mountPoint (makeAlbumPath_mountPoint made) different
      refine (emits_record (by simpa using elsewhere)).bind fun _ => ?_
      refine emits_current.bind fun service => ?_
      dsimp only
      cases opened : service.fs.openFile faults.openFile path with
      | error result => exact emits_pure _
      | ok file =>
          have fileElsewhere : ¬ (FsAccess.handle file).On (mountName storageId) :=
            FileSystem.mountName_ne_of_openFile elsewhere opened
          refine (emits_record (by simpa using fileElsewhere)).bind fun _ => ?_
          cases service.fs.getFileSize faults.getFileSize file with
          | error result => exact emits_pure _
          | ok fileSize => exact .ite (fun _ => emits_pure _) fun _ => emits_pure _

theorem avoids_deleteFile (faults : DeleteFaults) (fileId : AlbumFileId) :
    Avoids storageId closed (Recording.deleteFile cipher faults fileId) := by
  refine emits_current.bind fun service => .ite (fun _ => ?_) fun _ => emits_pure _
  refine .ite (fun _ => ?_) fun _ => emits_pure _
  refine .ite (fun _ => ?_) fun _ => emits_pure _
  refine avoids_ensured valid (fun _ => emits_pure _) fun different => ?_
  cases made : makeAlbumPath cipher service.manager.settings fileId with
  | error result => exact emits_pure _
  | ok filePath =>
      have elsewhere := FsAccess.not_on_of_mountPoint (makeAlbumPath_mountPoint made) different
      have deleted : Process.Preserves (Untouched storageId closed)
          (callFs (FileSystem.deleteFile faults.deleteFile filePath)) :=
        preserves_callFs (FileSystem.Spares.deleteFile elsewhere faults.deleteFile)
      refine (emits_record (by simpa using elsewhere)).bind fun _ => ?_
      refine (emits_lift deleted).bind fun _ => ?_
      exact (emits_lift (preserves_cache (·.decrement fileId.storageId fileId.type))).bind
        fun _ => emits_pure _

omit valid in
/-- A copy from and to files on other mounts. -/
theorem avoids_copyContent (faults : CopyFaults) {sourceFile : FsPath} (size : Nat)
    {destinationPath : Text} (destination : StorageId) (type : ContentType)
    (sourceElsewhere : ¬ (FsAccess.handle sourceFile).On (mountName storageId))
    (elsewhere : ¬ (FsAccess.path destinationPath).On (mountName storageId)) :
    Avoids storageId closed
      (Recording.copyContent faults sourceFile size destinationPath destination type) := by
  refine emits_current.bind fun service => ?_
  refine (emits_record (by simpa using elsewhere)).bind fun _ => ?_
  have creation := FileSystem.Spares.createAlbumFileImpl elsewhere service.isQuest
    faults.toCreateFaults size
  have created : Avoids storageId closed (lift (callFs
      (createAlbumFileImpl service.isQuest faults.toCreateFaults destinationPath size))) :=
    emits_lift (preserves_callFs fun fs => (creation fs).1)
  have known : ∀ (recorded : RecordedService) outcome, Untouched storageId closed recorded.state →
      (lift (callFs (createAlbumFileImpl service.isQuest faults.toCreateFaults destinationPath
        size)) recorded).1 = some outcome →
      ∀ file, outcome = .ok file → file.mountName ≠ mountName storageId := by
    intro recorded outcome _ returned file opened
    apply (creation recorded.state.fs).2 file
    exact (Option.some.inj returned).trans opened
  refine created.bind_of_returns known fun outcome opened => ?_
  cases outcome with
  | error result => exact emits_pure _
  | ok destinationFile =>
      have different := opened destinationFile rfl
      have destinationElsewhere : ¬ (FsAccess.handle destinationFile).On (mountName storageId) :=
        different
      have copied : Process.Preserves (Untouched storageId closed) (callFs (copyChunks faults
          service.manager.workMemorySize sourceFile destinationFile size size 0)) :=
        preserves_callFs (FileSystem.Spares.copyChunks different size 0)
      have flushed : Process.Preserves (Untouched storageId closed)
          (callFs (FileSystem.flushFile faults.flushFile destinationFile)) :=
        preserves_callFs FileSystem.Spares.refl
      have undone : Process.Preserves (Untouched storageId closed)
          (callFs (FileSystem.deleteFile faults.cleanUp destinationPath)) :=
        preserves_callFs (FileSystem.Spares.deleteFile elsewhere faults.cleanUp)
      refine (emits_record (by simp [sourceElsewhere, destinationElsewhere])).bind fun _ => ?_
      refine (emits_lift copied).bind fun outcome => .ite (fun _ => ?_) fun _ => ?_
      · refine (emits_lift flushed).bind fun _ => ?_
        exact (emits_lift (preserves_cache (·.increment destination type))).bind
          fun _ => emits_pure _
      · refine (emits_record (by simpa using elsewhere)).bind fun _ => ?_
        exact (emits_lift undone).bind fun _ => emits_pure _

omit valid in
theorem avoids_copyMounted (faults : CopyFaults) (sourceId : AlbumFileId)
    (destination : StorageId) (sourceDifferent : mountName sourceId.storageId ≠ mountName storageId)
    (different : mountName destination ≠ mountName storageId) :
    Avoids storageId closed (Recording.copyMounted cipher faults sourceId destination) := by
  refine emits_current.bind fun service => ?_
  dsimp only
  cases source : makeAlbumPath cipher service.manager.settings sourceId with
  | error result => exact emits_pure _
  | ok sourcePath =>
  dsimp only
  cases target : makeAlbumPath cipher service.manager.settings
      { sourceId with storageId := destination } with
  | error result => exact emits_pure _
  | ok destinationPath =>
  have sourceElsewhere :=
    FsAccess.not_on_of_mountPoint (makeAlbumPath_mountPoint source) sourceDifferent
  have elsewhere := FsAccess.not_on_of_mountPoint (makeAlbumPath_mountPoint target) different
  refine (emits_record (by simpa using sourceElsewhere)).bind fun _ => ?_
  cases opened : service.fs.openFile faults.openSource sourcePath with
  | error result => exact emits_pure _
  | ok sourceFile =>
  have fileElsewhere : ¬ (FsAccess.handle sourceFile).On (mountName storageId) :=
    FileSystem.mountName_ne_of_openFile sourceElsewhere opened
  refine (emits_record (by simpa using fileElsewhere)).bind fun _ => ?_
  cases service.fs.getFileSize faults.getFileSize sourceFile with
  | error result => exact emits_pure _
  | ok size =>
      refine .ite (fun _ => .ite (fun _ => ?_) fun _ => emits_pure _) fun _ => emits_pure _
      exact avoids_copyContent faults size destination sourceId.type fileElsewhere elsewhere

/-- A copy stops in front of its first access if either end is closed. -/
theorem avoids_copyFile (faults : CopyFaults) (sourceId : AlbumFileId)
    (destination : StorageId) :
    Avoids storageId closed (Recording.copyFile cipher faults sourceId destination) := by
  refine emits_current.bind fun service => .ite (fun _ => ?_) fun _ => emits_pure _
  refine .ite (fun _ => .ite (fun _ => ?_) fun _ => emits_pure _) fun _ => emits_pure _
  refine .ite (fun _ => emits_pure _) fun _ => ?_
  refine avoids_ensured valid (fun _ => emits_pure _) fun sourceDifferent => ?_
  refine avoids_ensured valid (fun _ => emits_pure _) fun different => ?_
  exact avoids_copyMounted cipher faults sourceId destination sourceDifferent different

theorem avoids_request (request : AlbumRequest)
    (unannounced : request ≠ .mount (.unmountImageDirectory storageId)) :
    Avoids storageId closed (request.performRecorded cipher) := by
  have mounting : ∀ fault other, Process.Preserves (Untouched storageId closed)
      (mountImageDirectory fault other) := untouched_mountImageDirectory valid
  have ensured : ∀ fault other, Process.Preserves (Untouched storageId closed)
      (ensureMountState fault other .mounted) :=
    fun fault other => untouched_ensureMountState valid fault other .mounted
  cases request with
  | mount request =>
      refine emits_lift (untouched_mountRequest valid request ?_)
      exact fun same => unannounced (congrArg AlbumRequest.mount same)
  | refreshCache answers counts other => exact avoids_refreshCache valid cipher answers counts other
  | getCache other type => exact emits_lift (preserves_getCache other type).first
  | canSave other type count => exact emits_lift (preserves_canSave other type count)
  | countEntries answers outCount other contentTypeFlags =>
      exact (avoids_countEntries valid cipher answers outCount other contentTypeFlags).bind
        fun _ => emits_pure _
  | listEntries answers maxEntries other contentTypeFlags =>
      exact (avoids_listEntries valid cipher answers maxEntries other contentTypeFlags).bind
        fun _ => emits_pure _
  | listApplicationEntries fault other =>
      exact emits_lift (preserves_listApplicationEntries ensured fault other).first
  | getFileSize faults fileId =>
      exact (avoids_getFileSize valid cipher faults fileId).bind fun _ => emits_pure _
  | loadJpeg fault fileId => exact emits_lift (preserves_loadPicture ensured fault fileId)
  | loadImage fault fileId => exact emits_lift (preserves_loadPicture ensured fault fileId)
  | loadJpegThumbnail fault fileId => exact emits_lift (preserves_loadPicture ensured fault fileId)
  | loadThumbnailImage fault fileId => exact emits_lift (preserves_loadPicture ensured fault fileId)
  | deleteFile faults fileId => exact avoids_deleteFile valid cipher faults fileId
  | copyFile faults sourceId destination =>
      exact avoids_copyFile valid cipher faults sourceId destination
  | getAlbumUsage fault other => exact emits_lift (preserves_getAlbumUsage ensured fault other)
  | getRequiredStorageSpaceSizeToCopyAll sourceFault destinationFault source destination =>
      exact emits_lift (preserves_getRequiredStorageSpaceSizeToCopyAll ensured sourceFault
        destinationFault source destination).first
  | getAutoSavingStorage answers type =>
      refine emits_lift ((preserves_getAutoSavingStorage mounting answers type).bind fun saved => ?_)
      cases saved with
      | error result => exact Process.preserves_pure _ _
      | ok other => exact Process.preserves_pure _ _

end

/-! ## After the removal -/

theorem mountStatus_of_left {storageId : StorageId} {unmounted : Result}
    {middle closed : Service}
    (left : (rTry unmounted pure do
        modifyManager (·.setMountStatus storageId ⟨.unmounted, albumIsNotMounted.result⟩)
        pure Result.success : Process Service Result) middle = (some .success, closed)) :
    closed.manager.mountStatus storageId = .closed := by
  by_cases succeeded : unmounted = .success
  · rw [rTry, if_pos (by simpa using succeeded)] at left
    rw [← (Prod.mk.inj left).2]
    exact AlbumManager.mountStatus_setMountStatus _ _ _
  · rw [rTry, if_neg (by simpa using succeeded)] at left
    exact absurd (Option.some.inj (Prod.mk.inj left).1) succeeded

/-- Success of the request says that the storage is known, and closes it. -/
theorem closeImageDirectory_success {storageId : StorageId} {service closed : Service}
    (removed : closeImageDirectory storageId service = (some .success, closed)) :
    storageValid storageId = true ∧ closed.manager.mountStatus storageId = .closed := by
  by_cases valid : storageValid storageId
  case neg =>
    have failed : albumInvalidStorage.result ≠ .success := by decide
    rw [closeImageDirectory, leaveImageDirectory, verifyStorageId_of_invalid valid] at removed
    exact absurd (Option.some.inj (Prod.mk.inj removed).1) failed
  refine ⟨valid, ?_⟩
  have verified := verifyStorageId_eq_success_iff.mpr valid
  simp only [closeImageDirectory, leaveImageDirectory, rTry, verified, Result.isSuccess_success,
    if_true, closeStreamsByStorageId_eq, pure_bind, Process.bind_apply, Process.get_apply]
    at removed
  split at removed
  · rw [Process.bind_apply] at removed
    cases outcome : unmountAlbum storageId service with
    | mk value middle =>
        rw [outcome] at removed
        cases value with
        | none => cases removed
        | some unmounted => exact mountStatus_of_left removed
  · rw [← (Prod.mk.inj removed).2]
    exact AlbumManager.mountStatus_setMountStatus _ _ _

theorem untouched_refl {storageId : StorageId} {closed : Service}
    (status : closed.manager.mountStatus storageId = .closed) :
    Untouched storageId closed closed :=
  ⟨status, .refl _, .refl _⟩

theorem Untouched.refusesMount {storageId : StorageId} {closed service : Service}
    (untouched : Untouched storageId closed service) : service.RefusesMount storageId where
  mount fault := mountImageDirectory_of_closed fault untouched.status
  ensure fault mountState := ensureMountState_of_closed fault mountState untouched.status

/-- However the requests after the removal of a storage go on, as long as none of
them announces it again: nobody tries to mount it or could, and nothing on its
mount is opened, created, read, written or deleted. -/
theorem removedStorage_untouched (cipher : PathCipher) (storageId : StorageId)
    (service closed : Service)
    (removed : closeImageDirectory storageId service = (some .success, closed))
    (requests : List AlbumRequest)
    (unannounced : .mount (.unmountImageDirectory storageId) ∉ requests) :
    let reached := (Process.run (AlbumRequest.performRecorded cipher) requests ⟨closed, []⟩).2
    reached.state = (Process.run (AlbumRequest.perform cipher) requests closed).2 ∧
      Untouched storageId closed reached.state ∧ reached.state.RefusesMount storageId ∧
      ∀ access ∈ reached.events, ¬ access.On (mountName storageId) := by
  intro reached
  rcases closeImageDirectory_success removed with ⟨valid, status⟩
  have avoids : Avoids storageId closed
      (Process.run (AlbumRequest.performRecorded cipher) requests) := by
    refine Recorded.emits_run fun request member => avoids_request valid cipher request ?_
    rintro rfl
    exact unannounced member
  rcases avoids ⟨closed, []⟩ (untouched_refl status) with ⟨untouched, events, added, elsewhere⟩
  refine ⟨(AlbumRequest.erases_run cipher requests ⟨closed, []⟩).2, untouched,
    untouched.refusesMount, ?_⟩
  intro access member
  have recorded : reached.events = events := added
  rw [recorded] at member
  exact elsewhere access member

/-- The card is removed while it is mounted. It is then asked to be mounted,
listed, counted, measured, deleted from and copied to, and only the listing of
the other storage opens anything. -/
theorem removedStorage_untouched_card :
    let fileId : AlbumFileId := ⟨1, ⟨2020, 1, 1, 0, 0, 0, 0⟩, .nand, .screenshot, .replicate 6 0⟩
    let answers : ScanAnswers :=
      ⟨none, ⟨fun _ _ => .error Fs.pathNotFound.result⟩, fun _ _ => 0⟩
    let faults : CopyFaults :=
      ⟨⟨none, none, none, none, none⟩, none, none, none, none, fun _ => none, fun _ => none, none⟩
    let service := (ensureMountState none .sd .mounted (.announced fun _ => none)).2
    let closed := (closeImageDirectory .sd service).2
    let requests : List AlbumRequest :=
      [.mount (.mountImageDirectory none .sd), .listEntries answers 1 .sd 1,
        .refreshCache answers (fun _ => 0) .sd,
        .getFileSize ⟨none, none, none⟩ { fileId with storageId := .sd },
        .deleteFile ⟨none, none⟩ { fileId with storageId := .sd },
        .copyFile faults fileId .sd,
        .mount (.closeImageDirectory .sd), .listEntries answers 1 .nand 1]
    let reached := (Process.run (AlbumRequest.performRecorded (Equiv.refl Block)) requests
      ⟨closed, []⟩).2
    (service.manager.mountStatus .sd).state = .mounted ∧
      reached.events = [.path (ascii "NA:/:/")] ∧
      Untouched .sd closed reached.state ∧ reached.state.RefusesMount .sd ∧
      ∀ access ∈ reached.events, ¬ access.On (mountName .sd) := by
  refine ⟨by decide, by decide +kernel, ?_⟩
  exact (removedStorage_untouched (Equiv.refl Block) .sd
    (ensureMountState none .sd .mounted (.announced fun _ => none)).2 _
    (Prod.ext (by decide) rfl) _ (by simp)).2

end Capsrv
