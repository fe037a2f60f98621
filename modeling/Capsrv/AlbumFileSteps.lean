import Capsrv.AlbumFile
import Capsrv.AlbumFilePath
import Capsrv.MountInvariant

/-! # What deleting and copying can do

One statement for each of the two requests about everything it can do to the
files and the counts. What is proved of them later is read off these.
-/

namespace Capsrv

open Service

/-! ## The calls of the file system layer -/

namespace FileSystem

variable {fs : FileSystem} {path : Text} {file : FsPath}

theorem openFile_of_resolve (resolved : fs.resolve path = .ok file) (fault : Fault) :
    fs.openFile fault path =
      if fault = none then
        if (fs.files file).isSome then .ok file else .error Fs.pathNotFound.result
      else .error fault.result := by
  rw [openFile, resolved]
  cases fault with
  | none => rfl
  | some failure =>
      change rTry failure.result Except.error _ = _
      simp [rTry, failure.failed, Fault.result]

theorem openFile_of_error {result : Result} (unresolved : fs.resolve path = .error result)
    (fault : Fault) : fs.openFile fault path = .error result := by
  rw [openFile, unresolved]
  rfl

/-- What a deletion does; whether it succeeds is what its callers ignore. -/
theorem deleteFile_of_resolve (resolved : fs.resolve path = .ok file) (fault : Fault) :
    (fs.deleteFile fault path).2 =
      if fault = none ∧ (fs.files file).isSome then fs.remove file else fs := by
  simp only [deleteFile, resolved, rTry, rUnless]
  by_cases clear : fault = none
  · by_cases found : (fs.files file).isSome <;> simp [clear, found]
  · simp [clear]

end FileSystem

/-! ## Behind the mount check -/

/-- A request goes on behind `EnsureMountState` exactly when the storage can be
mounted, and then with the storage mounted. -/
theorem ensureMountState_then {service : Service} (mirrored : service.MountsMirrored)
    {storageId : StorageId} (valid : storageValid storageId) (fault : Fault)
    (rest : Process Service Result) :
    let outcome := (ensureMountState fault storageId .mounted >>= fun ensured =>
      rTry ensured pure rest) service
    (service.Mountable storageId fault ∧ ∃ mounted,
        MountStep service storageId fault (some .success, mounted) ∧ outcome = rest mounted) ∨
      (¬ service.Mountable storageId fault ∧ MountFrame service outcome.2 ∧
        outcome.2.MountsMirrored ∧ outcome.1 ≠ some .success) := by
  have step := ensureMountState_step storageId mirrored fault .mounted
  have success := step.success_iff mirrored
  have frame := step.frame
  have after := step.mirrored mirrored
  simp only [valid, true_and] at success
  rw [Process.bind_apply]
  cases ensured : ensureMountState fault storageId .mounted service with
  | mk value mounted =>
      rw [ensured] at step success frame after
      cases value with
      | none =>
          have failed : ¬ service.Mountable storageId fault := fun mountable =>
            nomatch success.mpr mountable
          exact .inr ⟨failed, frame, after, by simp⟩
      | some result =>
          by_cases succeeded : result = .success
          · subst succeeded
            exact .inl ⟨success.mp rfl, mounted, step, rfl⟩
          · have failed : ¬ service.Mountable storageId fault := fun mountable =>
              succeeded (Option.some.inj (success.mpr mountable))
            simp only [rTry, if_neg (show ¬ result.isSuccess = true by simpa using succeeded)]
            exact .inr ⟨failed, frame, after, by simpa using succeeded⟩

/-- There are two storages. -/
theorem eq_or_eq_of_storageValid {first second storageId : StorageId}
    (firstValid : storageValid first) (secondValid : storageValid second)
    (different : first ≠ second) (valid : storageValid storageId) :
    storageId = first ∨ storageId = second := by
  simp only [storageValid, Bool.or_eq_true, decide_eq_true_eq] at firstValid secondValid valid
  rcases firstValid with rfl | rfl <;> rcases secondValid with rfl | rfl <;>
    rcases valid with rfl | rfl <;> simp_all

/-! ## Deleting -/

/-- The checks of `DeleteFile`. -/
structure DeleteAdmitted (service : Service) (faults : DeleteFaults) (fileId : AlbumFileId) :
    Prop where
  unread : service.manager.readReserve.isReserved fileId = false
  unwritten : service.manager.writeReserve.isReserved fileId = false
  verified : fileId.Verified service.manager.settings
  mountable : service.Mountable fileId.storageId faults.mount

/-- The state after a deletion whose checks have passed. -/
def Service.deleted (mounted : Service) (cipher : PathCipher) (faults : DeleteFaults)
    (fileId : AlbumFileId) : Service :=
  { mounted with
    manager := { mounted.manager with
      cache := mounted.manager.cache.decrement fileId.storageId fileId.type }
    fs :=
      if faults.deleteFile = none ∧ (mounted.fs.files (albumFsPath cipher fileId)).isSome then
        mounted.fs.remove (albumFsPath cipher fileId)
      else mounted.fs }

/-- The two ways `DeleteFile` can go. -/
inductive DeleteStep (cipher : PathCipher) (faults : DeleteFaults) (fileId : AlbumFileId)
    (service : Service) (outcome : Option Result × Service) : Prop
  | refused (reason : ¬ DeleteAdmitted service faults fileId)
      (frame : MountFrame service outcome.2) (mirrored : outcome.2.MountsMirrored)
      (failed : outcome.1 ≠ some .success)
  | deleted (admitted : DeleteAdmitted service faults fileId) (mounted : Service)
      (frame : MountFrame service mounted) (mirrored : mounted.MountsMirrored)
      (equal : outcome = (some .success, mounted.deleted cipher faults fileId))

theorem deleteFile_step (cipher : PathCipher) (faults : DeleteFaults) (fileId : AlbumFileId)
    {service : Service} (mirrored : service.MountsMirrored) :
    DeleteStep cipher faults fileId service (deleteFile cipher faults fileId service) := by
  have frame := MountFrame.refl service
  simp only [deleteFile, Process.bind_apply, Process.get_apply, rUnless, rTry]
  by_cases unread : service.manager.readReserve.isReserved fileId = false
  case neg =>
    rw [if_neg unread]
    exact .refused (fun admitted => unread admitted.unread) frame mirrored (by simp; decide)
  by_cases unwritten : service.manager.writeReserve.isReserved fileId = false
  case neg =>
    rw [if_pos unread, if_neg unwritten]
    exact .refused (fun admitted => unwritten admitted.unwritten) frame mirrored (by simp; decide)
  rw [if_pos unread, if_pos unwritten]
  by_cases accepted : fileId.verify service.manager.settings = .success
  case neg =>
    rw [if_neg (by simpa using accepted)]
    exact .refused (fun admitted => accepted ((fileId.verify_eq_success_iff _).mpr admitted.verified))
      frame mirrored (by simpa using accepted)
  rw [if_pos (by simpa using accepted)]
  have verified := (fileId.verify_eq_success_iff _).mp accepted
  simp only [makeAlbumPath_of_verified cipher verified]
  rcases ensureMountState_then mirrored verified.storage faults.mount _ with
    ⟨mountable, mounted, step, equal⟩ | ⟨unmountable, frame, mirrored, failed⟩
  · have after := step.mirrored mirrored
    have state := (step.mounted_of_success mirrored rfl).2
    have registered := (after _ verified.storage).registered.mp state
    have resolved := resolve_getAlbumPath cipher verified mounted.fs
    rw [if_pos registered] at resolved
    refine .deleted ⟨unread, unwritten, verified, mountable⟩ mounted step.frame after ?_
    rw [equal]
    simp only [Process.bind_apply, callFs_apply, modifyManager_apply, Process.pure_apply,
      FileSystem.deleteFile_of_resolve resolved, Service.deleted]
  · exact .refused (fun admitted => unmountable admitted.mountable) frame mirrored failed

/-! ## Creating -/

/-- The destination is a new file. -/
structure Creates (isQuest : Bool) (faults : CreateFaults) (file : FsPath)
    (files : FileStore FsPath (List UInt8)) : Prop where
  retail : isQuest = false
  parent : faults.ensureParent = none
  created : faults.createFile = none
  absent : files file = none

/-- The destination is a file that is there, opened and resized. -/
structure Resizes (isQuest : Bool) (faults : CreateFaults) (file : FsPath)
    (files : FileStore FsPath (List UInt8)) : Prop where
  retail : isQuest = false
  parent : faults.ensureParent = none
  refused : faults.createFile = none ∨
    Fs.pathAlreadyExists.includes faults.createFile.result = true
  found : (files file).isSome
  opened : faults.openFile = none
  resized : faults.setFileSize = none

/-- A file resized by `SetFileSize`. -/
def FileSystem.resize (file : FsPath) (size : Nat) (fs : FileSystem) : FileSystem :=
  let content := (fs.files file).getD []
  fs.store file (content.take size ++ List.replicate (size - content.length) 0)

/-- The ways `CreateAlbumFileImpl` can go. -/
inductive CreateStep (isQuest : Bool) (faults : CreateFaults) (file : FsPath) (size : Nat)
    (fs : FileSystem) : Except Result FsPath × FileSystem → Prop
  | refused (result : Result) (failed : result ≠ .success)
      (uncreated : ¬ Creates isQuest faults file fs.files)
      (unresized : ¬ Resizes isQuest faults file fs.files) :
      CreateStep isQuest faults file size fs (.error result, fs)
  | undone (result : Result) (failed : result ≠ .success) (creates : Creates isQuest faults file fs.files)
      (unopened : faults.openFile ≠ none) :
      CreateStep isQuest faults file size fs (.error result,
        let created := fs.store file (List.replicate size 0)
        if faults.cleanUp = none then created.remove file else created)
  | created (creates : Creates isQuest faults file fs.files) (opened : faults.openFile = none) :
      CreateStep isQuest faults file size fs (.ok file, fs.store file (List.replicate size 0))
  | resized (resizes : Resizes isQuest faults file fs.files) :
      CreateStep isQuest faults file size fs (.ok file, fs.resize file size)

namespace FileSystem

variable {fs : FileSystem} {path : Text} {file : FsPath}

/-- Creating and writing do not change what a path resolves to. -/
theorem resolve_congr {other : FileSystem} (names : other.names = fs.names) (path : Text) :
    other.resolve path = fs.resolve path := by
  rw [resolve, resolve, names]

@[simp] theorem store_names (file : FsPath) (content : List UInt8) :
    (fs.store file content).names = fs.names := rfl

@[simp] theorem store_files (file : FsPath) (content : List UInt8) :
    (fs.store file content).files = fs.files.put file content := rfl

@[simp] theorem remove_files (file : FsPath) : (fs.remove file).files = fs.files.erase file := rfl

theorem createFile_of_resolve (resolved : fs.resolve path = .ok file) (fault : Fault)
    (size : Nat) :
    fs.createFile fault path size =
      if fault = none then
        if fs.files file = none then (.success, fs.store file (List.replicate size 0))
        else (Fs.pathAlreadyExists.result, fs)
      else (fault.result, fs) := by
  cases fault with
  | none =>
      by_cases absent : fs.files file = none <;>
        simp [createFile, resolved, rTry, rUnless, absent]
  | some failure => simp [createFile, resolved, rTry, failure.failed, Fault.result]

theorem setFileSize_eq (fault : Fault) (file : FsPath) (size : Nat) :
    fs.setFileSize fault file size =
      if fault = none then (.success, fs.resize file size) else (fault.result, fs) := by
  cases fault with
  | none => rfl
  | some failure => simp [setFileSize, rTry, failure.failed, Fault.result]

end FileSystem

section

variable {isQuest : Bool} {faults : CreateFaults} {path : Text} {file : FsPath}
  {fs : FileSystem}

theorem openExistingFile_step (resolved : fs.resolve path = .ok file) (size : Nat)
    (retail : isQuest = false) (parent : faults.ensureParent = none)
    (uncreated : ¬ Creates isQuest faults file fs.files)
    (refused : faults.createFile = none ∨
      Fs.pathAlreadyExists.includes faults.createFile.result = true) :
    CreateStep isQuest faults file size fs
      (openExistingFile faults path size fs) := by
  have notFound : Fs.pathNotFound.result ≠ .success := by decide
  simp only [openExistingFile, FileSystem.openFile_of_resolve resolved]
  by_cases opened : faults.openFile = none
  case neg =>
    simp only [if_neg opened]
    exact .refused _ (by simpa using opened) uncreated fun resizes => opened resizes.opened
  by_cases found : (fs.files file).isSome
  case neg =>
    simp only [if_pos opened, if_neg found]
    exact .refused _ notFound uncreated fun resizes => found resizes.found
  simp only [if_pos opened, if_pos found, FileSystem.setFileSize_eq]
  by_cases resized : faults.setFileSize = none
  case neg =>
    simp only [if_neg resized, rTry]
    rw [if_neg (by simpa using resized)]
    exact .refused _ (by simpa using resized) uncreated fun resizes => resized resizes.resized
  simp only [if_pos resized, rTry, Result.isSuccess_success, if_true]
  exact .resized ⟨retail, parent, refused, found, opened, resized⟩

theorem openCreatedFile_step (resolved : fs.resolve path = .ok file) (size : Nat)
    (creates : Creates isQuest faults file fs.files) :
    CreateStep isQuest faults file size fs
      (openCreatedFile faults path (fs.store file (List.replicate size 0))) := by
  have stored : (fs.store file (List.replicate size 0)).resolve path = .ok file :=
    (FileSystem.resolve_congr rfl path).trans resolved
  simp only [openCreatedFile, FileSystem.openFile_of_resolve stored]
  by_cases opened : faults.openFile = none
  · simp only [if_pos opened, FileSystem.store_files, FileStore.put_same, Option.isSome_some,
      if_true]
    exact .created creates opened
  · simp only [if_neg opened, FileSystem.deleteFile_of_resolve stored, FileSystem.store_files,
      FileStore.put_same, Option.isSome_some, and_true]
    exact .undone _ (by simpa using opened) creates opened

theorem createAlbumFileImpl_step (isQuest : Bool) (faults : CreateFaults)
    (resolved : fs.resolve path = .ok file) (size : Nat) :
    CreateStep isQuest faults file size fs (createAlbumFileImpl isQuest faults path size fs) := by
  have exists_includes : Fs.pathAlreadyExists.includes Fs.pathAlreadyExists.result = true := by
    decide
  have success_excludes : Fs.pathAlreadyExists.includes .success = false := by decide
  have ensured : fs.ensureParentDirectoryRecursively faults.ensureParent path =
      faults.ensureParent.result := by
    rw [FileSystem.ensureParentDirectoryRecursively, resolved]
  simp only [createAlbumFileImpl, rUnless, rTry, ensured]
  by_cases retail : isQuest = false
  case neg =>
    rw [if_neg retail]
    exact .refused _ (by decide) (fun creates => retail creates.retail)
      fun resizes => retail resizes.retail
  by_cases parent : faults.ensureParent = none
  case neg =>
    rw [if_pos retail, if_neg (by simpa using parent)]
    exact .refused _ (by simpa using parent) (fun creates => parent creates.parent)
      fun resizes => parent resizes.parent
  rw [if_pos retail, if_pos (by simpa using parent), FileSystem.createFile_of_resolve resolved]
  by_cases clear : faults.createFile = none
  · by_cases absent : fs.files file = none
    · simp only [if_pos clear, if_pos absent, success_excludes, Bool.false_eq_true, if_false,
        Result.isSuccess_success, if_true]
      exact openCreatedFile_step resolved size ⟨retail, parent, clear, absent⟩
    · simp only [if_pos clear, if_neg absent, exists_includes, if_true]
      exact openExistingFile_step resolved size retail parent
        (fun creates => absent creates.absent) (.inl clear)
  · have uncreated : ¬ Creates isQuest faults file fs.files := fun creates => clear creates.created
    simp only [if_neg clear]
    by_cases included : Fs.pathAlreadyExists.includes faults.createFile.result = true
    · rw [if_pos included]
      exact openExistingFile_step resolved size retail parent uncreated (.inr included)
    · rw [if_neg included, if_neg (by simpa using clear)]
      refine .refused _ (by simpa using clear) uncreated fun resizes => ?_
      rcases resizes.refused with none | other
      · exact clear none
      · exact included other

end

/-! ## Copying -/

/-- Something has happened to one file, which is there, and to nothing else. -/
structure Touched (file : FsPath) (fs next : FileSystem) : Prop where
  names : next.names = fs.names
  calls : next.calls = fs.calls
  files : ∃ content, next.files = fs.files.put file content
  mutations : ∃ count, next.mutations = fs.mutations ++ List.replicate (count + 1) file

namespace Touched

variable {file : FsPath} {fs next final : FileSystem}

theorem store (touched : Touched file fs next) (content : List UInt8) :
    Touched file fs (next.store file content) := by
  rcases touched with ⟨names, calls, ⟨before, files⟩, ⟨count, mutations⟩⟩
  refine ⟨names, calls, ⟨content, ?_⟩, ⟨count + 1, ?_⟩⟩
  · rw [FileSystem.store_files, files, FileStore.put_put]
  · rw [List.replicate_succ', ← List.append_assoc, ← mutations]
    rfl

theorem found (touched : Touched file fs next) : (next.files file).isSome := by
  rcases touched.files with ⟨content, files⟩
  simp [files]

theorem of_store (content : List UInt8) : Touched file fs (fs.store file content) :=
  ⟨rfl, rfl, ⟨content, rfl⟩, ⟨0, rfl⟩⟩

theorem files_of_ne (touched : Touched file fs next) {other : FsPath} (different : other ≠ file) :
    next.files other = fs.files other := by
  rcases touched.files with ⟨content, files⟩
  rw [files, FileStore.put_of_ne _ _ different]

end Touched

/-- No chunk of a file of `size` bytes meets a fault. -/
def CopyFaults.Clear (faults : CopyFaults) (workMemorySize size : Nat) : Prop :=
  ∀ chunk, chunk * workMemorySize < size →
    faults.readFile (chunk * workMemorySize) = none ∧
      faults.writeFile (chunk * workMemorySize) = none

section

variable {faults : CopyFaults} {workMemorySize : Nat} {source destination : FsPath}
  {content : List UInt8} {start : FileSystem}

theorem FileSystem.readFile_eq (fault : Fault) (file : FsPath) (offset size : Nat)
    (fs : FileSystem) :
    fs.readFile fault file offset size =
      if fault = none then .ok ((((fs.files file).getD []).drop offset).take size)
      else .error fault.result := by
  cases fault with
  | none => rfl
  | some failure => simp [FileSystem.readFile, rTry, failure.failed, Fault.result]

theorem FileSystem.writeFile_eq (fault : Fault) (file : FsPath) (offset : Nat)
    (data : List UInt8) (fs : FileSystem) :
    fs.writeFile fault file offset data =
      if fault = none then
        (.success, fs.store file (((fs.files file).getD []).take offset ++ data ++
          ((fs.files file).getD []).drop (offset + data.length)))
      else (fault.result, fs) := by
  cases fault with
  | none => rfl
  | some failure => simp [FileSystem.writeFile, rTry, failure.failed, Fault.result]

variable (faults) in
/-- The loop from any chunk on touches nothing but the destination, and ends
well exactly when no chunk to come meets a fault. The last chunk may be short:
from there the offset is the size. -/
theorem copyChunks_spec (positive : 0 < workMemorySize) (different : source ≠ destination)
    (found : start.files source = some content) (rounds chunk : Nat) {fs : FileSystem}
    (touched : Touched destination start fs)
    (enough : content.length ≤ min (chunk * workMemorySize) content.length + rounds) :
    let outcome := copyChunks faults workMemorySize source destination content.length rounds
      (min (chunk * workMemorySize) content.length) fs
    Touched destination start outcome.2 ∧
      (outcome.1 = .success ↔ ∀ later ≥ chunk, later * workMemorySize < content.length →
        faults.readFile (later * workMemorySize) = none ∧
          faults.writeFile (later * workMemorySize) = none) := by
  induction rounds generalizing chunk fs with
  | zero =>
      refine ⟨touched, iff_of_true rfl fun later after below => ?_⟩
      have := Nat.mul_le_mul_right workMemorySize after
      omega
  | succ rounds induction =>
      rw [copyChunks]
      by_cases more : chunk * workMemorySize < content.length
      case neg =>
        rw [if_neg (by omega)]
        refine ⟨touched, iff_of_true rfl fun later after below => ?_⟩
        have := Nat.mul_le_mul_right workMemorySize after
        omega
      have here : min (chunk * workMemorySize) content.length = chunk * workMemorySize := by omega
      rw [here] at enough ⊢
      rw [if_pos more, FileSystem.readFile_eq, touched.files_of_ne different, found]
      by_cases readable : faults.readFile (chunk * workMemorySize) = none
      case neg =>
        simp only [if_neg readable]
        refine ⟨touched, iff_of_false (by simpa using readable) fun clear => ?_⟩
        exact readable (clear chunk (Nat.le_refl chunk) more).1
      simp only [if_pos readable, Option.getD_some, FileSystem.writeFile_eq]
      by_cases writable : faults.writeFile (chunk * workMemorySize) = none
      case neg =>
        simp only [if_neg writable, rTry]
        rw [if_neg (by simpa using writable)]
        refine ⟨touched, iff_of_false (by simpa using writable) fun clear => ?_⟩
        exact writable (clear chunk (Nat.le_refl chunk) more).2
      simp only [if_pos writable, rTry, Result.isSuccess_success, if_true]
      have following : (chunk + 1) * workMemorySize = chunk * workMemorySize + workMemorySize := by
        rw [Nat.add_mul, Nat.one_mul]
      have offset : chunk * workMemorySize +
          ((content.drop (chunk * workMemorySize)).take workMemorySize).length =
            min ((chunk + 1) * workMemorySize) content.length := by
        rw [List.length_take, List.length_drop, following]
        omega
      rw [offset]
      have next := fun written => induction (chunk + 1) (touched.store written) (by omega)
      refine ⟨(next _).1, (next _).2.trans ⟨fun clear later after below => ?_,
        fun clear later after => clear later (by omega)⟩⟩
      rcases Nat.eq_or_lt_of_le after with rfl | beyond
      · exact ⟨readable, writable⟩
      · exact clear later beyond below

variable (faults) in
/-- The whole loop. -/
theorem copyChunks_whole (positive : 0 < workMemorySize) (different : source ≠ destination)
    (found : start.files source = some content) {fs : FileSystem}
    (touched : Touched destination start fs) :
    let outcome := copyChunks faults workMemorySize source destination content.length
      content.length 0 fs
    Touched destination start outcome.2 ∧
      (outcome.1 = .success ↔ faults.Clear workMemorySize content.length) := by
  have loop := copyChunks_spec faults positive different found content.length 0
    touched (by omega)
  simpa [CopyFaults.Clear] using loop

end

/-! ## The whole request -/

/-- The checks of `CopyFile`, up to the limit on the number of files. -/
structure CopyAdmitted (cipher : PathCipher) (service : Service) (faults : CopyFaults)
    (sourceId : AlbumFileId) (destination : StorageId) (content : List UInt8) : Prop where
  unwritten : service.manager.writeReserve.isReserved sourceId = false
  verified : sourceId.Verified service.manager.settings
  valid : storageValid destination = true
  different : destination ≠ sourceId.storageId
  source : service.Mountable sourceId.storageId faults.mountSource
  target : service.Mountable destination faults.mountDestination
  opened : faults.openSource = none
  found : service.fs.files (albumFsPath cipher sourceId) = some content
  sized : faults.getFileSize = none
  small : content.length ≤ getAllowedFileSize sourceId.type service.manager.settings
  below : service.manager.cache.getCount destination sourceId.type <
    service.manager.settings.getFileMaxCount destination sourceId.type

/-- Where the copy of a file goes. -/
def copyTarget (cipher : PathCipher) (sourceId : AlbumFileId) (destination : StorageId) : FsPath :=
  albumFsPath cipher { sourceId with storageId := destination }

/-- The destination of the copy comes into being or is resized. -/
def CopyMutates (cipher : PathCipher) (service : Service) (faults : CopyFaults)
    (sourceId : AlbumFileId) (destination : StorageId) : Prop :=
  let file := copyTarget cipher sourceId destination
  (∃ content, CopyAdmitted cipher service faults sourceId destination content) ∧
    (Creates service.isQuest faults.toCreateFaults file service.fs.files ∨
      Resizes service.isQuest faults.toCreateFaults file service.fs.files)

/-- Once it is there, the destination can be opened and every chunk copied. -/
def CopyCompletes (service : Service) (faults : CopyFaults) (size : Nat) : Prop :=
  faults.openFile = none ∧ faults.Clear service.manager.workMemorySize size

/-- The three ways `CopyFile` can go. -/
inductive CopyStep (cipher : PathCipher) (service : Service) (faults : CopyFaults)
    (sourceId : AlbumFileId) (destination : StorageId) (outcome : Option Result × Service) : Prop
  | untouched (reason : ¬ CopyMutates cipher service faults sourceId destination)
      (frame : MountFrame service outcome.2) (mirrored : outcome.2.MountsMirrored)
      (nothing : outcome.1 = some .success → destination = sourceId.storageId)
  | spoiled (mutates : CopyMutates cipher service faults sourceId destination)
      (content : List UInt8)
      (admitted : CopyAdmitted cipher service faults sourceId destination content)
      (incomplete : ¬ CopyCompletes service faults content.length)
      (mounted : Service) (frame : MountFrame service mounted)
      (mirrored : mounted.MountsMirrored)
      (left : FileSystem)
      (touched : Touched (copyTarget cipher sourceId destination) mounted.fs left)
      (result : Result) (failed : result ≠ .success)
      (equal : outcome = (some result, { mounted with
        fs := if faults.cleanUp = none then left.remove (copyTarget cipher sourceId destination)
          else left }))
  | copied (mutates : CopyMutates cipher service faults sourceId destination)
      (content : List UInt8)
      (admitted : CopyAdmitted cipher service faults sourceId destination content)
      (complete : CopyCompletes service faults content.length)
      (mounted : Service) (frame : MountFrame service mounted)
      (mirrored : mounted.MountsMirrored)
      (left : FileSystem)
      (touched : Touched (copyTarget cipher sourceId destination) mounted.fs left)
      (equal : outcome = (some .success, { mounted with
        fs := left
        manager := { mounted.manager with
          cache := mounted.manager.cache.increment destination sourceId.type } }))

theorem CopyAdmitted.unique {cipher : PathCipher} {service : Service} {faults : CopyFaults}
    {sourceId : AlbumFileId} {destination : StorageId} {content other : List UInt8}
    (first : CopyAdmitted cipher service faults sourceId destination content)
    (second : CopyAdmitted cipher service faults sourceId destination other) :
    other = content :=
  Option.some.inj (second.found.symm.trans first.found)

theorem not_resizes_of_creates {isQuest : Bool} {faults : CreateFaults} {file : FsPath}
    {files : FileStore FsPath (List UInt8)} (creates : Creates isQuest faults file files) :
    ¬ Resizes isQuest faults file files := by
  intro resizes
  have found := resizes.found
  rw [creates.absent] at found
  cases found

/-- The ways `CopyFile` can go once the destination is about to be created. -/
inductive ContentStep (mounted : Service) (faults : CopyFaults) (file : FsPath) (size : Nat)
    (destination : StorageId) (type : ContentType) (outcome : Option Result × Service) : Prop
  | refused (uncreated : ¬ Creates mounted.isQuest faults.toCreateFaults file mounted.fs.files)
      (unresized : ¬ Resizes mounted.isQuest faults.toCreateFaults file mounted.fs.files)
      (result : Result) (failed : result ≠ .success) (equal : outcome = (some result, mounted))
  | spoiled (mutates : Creates mounted.isQuest faults.toCreateFaults file mounted.fs.files ∨
        Resizes mounted.isQuest faults.toCreateFaults file mounted.fs.files)
      (incomplete : ¬ CopyCompletes mounted faults size)
      (left : FileSystem) (touched : Touched file mounted.fs left)
      (result : Result) (failed : result ≠ .success)
      (equal : outcome = (some result, { mounted with
        fs := if faults.cleanUp = none then left.remove file else left }))
  | copied (mutates : Creates mounted.isQuest faults.toCreateFaults file mounted.fs.files ∨
        Resizes mounted.isQuest faults.toCreateFaults file mounted.fs.files)
      (complete : CopyCompletes mounted faults size)
      (left : FileSystem) (touched : Touched file mounted.fs left)
      (equal : outcome = (some .success, { mounted with
        fs := left
        manager := { mounted.manager with
          cache := mounted.manager.cache.increment destination type } }))

section

variable {mounted : Service} {faults : CopyFaults} {sourceFile file : FsPath}
  {content : List UInt8} {path : Text} {destination : StorageId} {type : ContentType}

/-- A destination that has been touched is there to be deleted. -/
theorem Touched.cleanUp {fs left : FileSystem} (touched : Touched file fs left)
    (resolved : fs.resolve path = .ok file) (fault : Fault) :
    (left.deleteFile fault path).2 = if fault = none then left.remove file else left := by
  have still : left.resolve path = .ok file :=
    (FileSystem.resolve_congr touched.names path).trans resolved
  simp [FileSystem.deleteFile_of_resolve still, touched.found]

/-- From an opened destination on. -/
theorem copyContent_opened (resolved : mounted.fs.resolve path = .ok file)
    (different : sourceFile ≠ file) (found : mounted.fs.files sourceFile = some content)
    (mutates : Creates mounted.isQuest faults.toCreateFaults file mounted.fs.files ∨
      Resizes mounted.isQuest faults.toCreateFaults file mounted.fs.files)
    (opened : faults.openFile = none) {fs : FileSystem} (touched : Touched file mounted.fs fs)
    (created : createAlbumFileImpl mounted.isQuest faults.toCreateFaults path content.length
      mounted.fs = (.ok file, fs)) :
    ContentStep mounted faults file content.length destination type
      (copyContent faults sourceFile content.length path destination type mounted) := by
  simp only [copyContent, Process.bind_apply, Process.get_apply, callFs_apply, created]
  rcases copyChunks_whole faults mounted.manager.workMemory different found touched with
      ⟨left, success⟩
  generalize copyChunks faults mounted.manager.workMemorySize sourceFile file content.length
    content.length 0 fs = outcome at left success ⊢
  by_cases finished : outcome.1 = .success
  · rw [if_pos (by simpa using finished)]
    exact .copied mutates ⟨opened, success.mp finished⟩ outcome.2 left rfl
  · rw [if_neg (by simpa using finished)]
    refine .spoiled mutates (fun complete => finished (success.mpr complete.2)) outcome.2 left
      outcome.1 finished ?_
    simp only [Process.bind_apply, callFs_apply, Process.pure_apply, left.cleanUp resolved]

variable (faults destination type) in
theorem copyContent_step (resolved : mounted.fs.resolve path = .ok file)
    (different : sourceFile ≠ file) (found : mounted.fs.files sourceFile = some content) :
    ContentStep mounted faults file content.length destination type
      (copyContent faults sourceFile content.length path destination type mounted) := by
  have step := createAlbumFileImpl_step mounted.isQuest faults.toCreateFaults resolved
    content.length
  cases created : createAlbumFileImpl mounted.isQuest faults.toCreateFaults path content.length
      mounted.fs with
  | mk value fs =>
      rw [created] at step
      cases step with
      | refused result failed uncreated unresized =>
          refine .refused uncreated unresized result failed ?_
          simp only [copyContent, Process.bind_apply, Process.get_apply, callFs_apply, created,
            Process.pure_apply]
      | undone result failed creates unopened =>
          refine .spoiled (.inl creates) (fun complete => unopened complete.1) _
            (Touched.of_store (List.replicate content.length 0)) result failed ?_
          simp only [copyContent, Process.bind_apply, Process.get_apply, callFs_apply, created,
            Process.pure_apply]
      | created creates opened =>
          exact copyContent_opened resolved different found (.inl creates) opened
            (Touched.of_store _) created
      | resized resizes =>
          exact copyContent_opened resolved different found (.inr resizes) resizes.opened
            (Touched.of_store _) created

end

theorem FileSystem.getFileSize_eq (fault : Fault) (file : FsPath) (fs : FileSystem) :
    fs.getFileSize fault file =
      if fault = none then .ok ((fs.files file).getD []).length else .error fault.result := by
  cases fault with
  | none => rfl
  | some failure => simp [FileSystem.getFileSize, rTry, failure.failed, Fault.result]

theorem AlbumFileId.Verified.withStorage {fileId : AlbumFileId} {settings : AlbumSettings}
    (verified : fileId.Verified settings) {storageId : StorageId} (valid : storageValid storageId) :
    AlbumFileId.Verified { fileId with storageId } settings :=
  { verified with storage := valid }

/-- Files on different storages are different files. -/
theorem copyTarget_ne (cipher : PathCipher) {sourceId : AlbumFileId} {destination : StorageId}
    (valid : storageValid sourceId.storageId) (destinationValid : storageValid destination)
    (different : destination ≠ sourceId.storageId) :
    albumFsPath cipher sourceId ≠ copyTarget cipher sourceId destination := by
  intro same
  exact mountName_ne valid destinationValid different (congrArg FsPath.mountName same).symm

section

variable {cipher : PathCipher} {faults : CopyFaults} {service : Service}
  {sourceId : AlbumFileId} {destination : StorageId}

theorem copyFile_of_reserved
    (reserved : ¬ service.manager.writeReserve.isReserved sourceId = false) :
    copyFile cipher faults sourceId destination service =
      (some albumFileNotFound.result, service) := by
  simp only [copyFile, Process.bind_apply, Process.get_apply, rUnless, if_neg reserved,
    Process.pure_apply]

variable (unwritten : service.manager.writeReserve.isReserved sourceId = false)

include unwritten

theorem copyFile_of_unverified
    (rejected : sourceId.verify service.manager.settings ≠ .success) :
    copyFile cipher faults sourceId destination service =
      (some (sourceId.verify service.manager.settings), service) := by
  simp only [copyFile, Process.bind_apply, Process.get_apply, rUnless, if_pos unwritten, rTry]
  rw [if_neg (by simpa using rejected)]
  rfl

variable (verified : sourceId.Verified service.manager.settings)

include verified

theorem copyFile_of_invalid (invalid : ¬ storageValid destination) :
    copyFile cipher faults sourceId destination service =
      (some albumInvalidStorage.result, service) := by
  have accepted := (sourceId.verify_eq_success_iff _).mpr verified
  simp only [copyFile, Process.bind_apply, Process.get_apply, rUnless, if_pos unwritten, accepted,
    rTry_success, verifyStorageId_of_invalid invalid]
  rfl

theorem copyFile_of_same (same : destination = sourceId.storageId) :
    copyFile cipher faults sourceId destination service = (some .success, service) := by
  have accepted := (sourceId.verify_eq_success_iff _).mpr verified
  have valid := verifyStorageId_eq_success_iff.mpr (same ▸ verified.storage)
  simp only [copyFile, Process.bind_apply, Process.get_apply, rUnless, if_pos unwritten, accepted,
    rTry_success, valid, if_pos same, Process.pure_apply]

end

/-- Behind the other checks, `CopyFile` goes on exactly when both storages can be
mounted, and then with all of them mounted. -/
theorem copyFile_mounts (cipher : PathCipher) (faults : CopyFaults) {service : Service}
    (mirrored : service.MountsMirrored) {sourceId : AlbumFileId} {destination : StorageId}
    (unwritten : service.manager.writeReserve.isReserved sourceId = false)
    (verified : sourceId.Verified service.manager.settings)
    (valid : storageValid destination = true) (different : destination ≠ sourceId.storageId) :
    let outcome := copyFile cipher faults sourceId destination service
    (service.Mountable sourceId.storageId faults.mountSource ∧
        service.Mountable destination faults.mountDestination ∧
        ∃ mounted, MountFrame service mounted ∧ mounted.MountsMirrored ∧
          (∀ storageId, storageValid storageId →
            (mounted.manager.mountStatus storageId).state = .mounted) ∧
          outcome = copyMounted cipher faults sourceId destination mounted) ∨
      (¬ (service.Mountable sourceId.storageId faults.mountSource ∧
          service.Mountable destination faults.mountDestination) ∧
        MountFrame service outcome.2 ∧ outcome.2.MountsMirrored ∧
        outcome.1 ≠ some .success) := by
  have accepted := (sourceId.verify_eq_success_iff _).mpr verified
  have validResult := verifyStorageId_eq_success_iff.mpr valid
  simp only [copyFile, Process.bind_apply, Process.get_apply, rUnless]
  rw [if_pos unwritten, accepted, rTry_success, validResult, rTry_success, if_neg different]
  rcases ensureMountState_then mirrored verified.storage faults.mountSource _ with
    ⟨source, first, firstStep, equal⟩ | ⟨unmountable, frame, after, failed⟩
  case inr => exact .inr ⟨fun both => unmountable both.1, frame, after, failed⟩
  have firstMirrored := firstStep.mirrored mirrored
  have sourceState := (firstStep.mounted_of_success mirrored rfl).2
  have target := firstStep.mountable_of_ne valid different faults.mountDestination
  rw [equal]
  rcases ensureMountState_then firstMirrored valid faults.mountDestination _ with
    ⟨mountable, second, secondStep, equal⟩ | ⟨unmountable, frame, after, failed⟩
  case inr =>
    exact .inr ⟨fun both => unmountable (target.mpr both.2), firstStep.frame.trans frame, after,
      failed⟩
  have sourceStays := secondStep.status_of_ne verified.storage (Ne.symm different)
  refine .inl ⟨source, target.mp mountable, second, firstStep.frame.trans secondStep.frame,
    secondStep.mirrored firstMirrored, ?_, equal⟩
  intro storageId storageIdValid
  rcases eq_or_eq_of_storageValid valid verified.storage different storageIdValid with same | same
  · exact same ▸ (secondStep.mounted_of_success firstMirrored rfl).2
  · exact same ▸ sourceStays ▸ sourceState

/-- The limit of a storage on the files of a type has not been reached. -/
def Service.BelowLimit (service : Service) (storageId : StorageId) (type : ContentType) : Prop :=
  service.manager.cache.getCount storageId type <
    service.manager.settings.getFileMaxCount storageId type

instance (service : Service) (storageId : StorageId) (type : ContentType) :
    Decidable (service.BelowLimit storageId type) :=
  inferInstanceAs (Decidable (_ < _))

/-- What is left of `CopyFile` with both storages mounted, check by check. -/
theorem copyMounted_eq (cipher : PathCipher) {service mounted : Service} (faults : CopyFaults)
    {sourceId : AlbumFileId} {destination : StorageId}
    (verified : sourceId.Verified service.manager.settings)
    (valid : storageValid destination = true) (frame : MountFrame service mounted)
    (sourceMounted : mountName sourceId.storageId ∈ mounted.fs.names) :
    copyMounted cipher faults sourceId destination mounted =
      rUnless (faults.openSource = none) (some faults.openSource.result, mounted)
      (match service.fs.files (albumFsPath cipher sourceId) with
      | none => (some Fs.pathNotFound.result, mounted)
      | some content =>
          rUnless (faults.getFileSize = none) (some faults.getFileSize.result, mounted) <|
          rUnless (content.length ≤ getAllowedFileSize sourceId.type service.manager.settings)
            (some albumFileNotFound.result, mounted) <|
          rUnless (service.BelowLimit destination sourceId.type)
            (some internalAlbumLimitationFileCountLimit.result, mounted) <|
          copyContent faults (albumFsPath cipher sourceId) content.length
            (getAlbumPath cipher 0x6d { sourceId with storageId := destination }) destination
            sourceId.type mounted) := by
  have resolved := resolve_getAlbumPath cipher verified mounted.fs
  rw [if_pos sourceMounted] at resolved
  simp only [copyMounted, Process.bind_apply, Process.get_apply, frame.settings, frame.files,
    frame.cache, makeAlbumPath_of_verified cipher verified,
    makeAlbumPath_of_verified cipher (verified.withStorage valid),
    FileSystem.openFile_of_resolve resolved, FileSystem.getFileSize_eq, rUnless]
  by_cases opened : faults.openSource = none
  case neg =>
    rw [if_neg opened, if_neg opened]
    rfl
  rw [if_pos opened, if_pos opened]
  cases found : service.fs.files (albumFsPath cipher sourceId) with
  | none => rfl
  | some content =>
      simp only [found, Option.isSome_some, if_true, Option.getD_some]
      by_cases sized : faults.getFileSize = none
      case neg =>
        rw [if_neg sized, if_neg sized]
        rfl
      rw [if_pos sized, if_pos sized]
      by_cases small : content.length ≤ getAllowedFileSize sourceId.type service.manager.settings
      case neg =>
        simp only [if_neg small, Process.pure_apply]
      simp only [if_pos small]
      by_cases below : service.BelowLimit destination sourceId.type
      · rw [if_pos below]
        exact congrFun (if_pos below) mounted
      · rw [if_neg below]
        exact congrFun (if_neg below) mounted

/-- The content of an admitted copy, with both storages mounted. -/
theorem copyContent_admitted_step {cipher : PathCipher} {service mounted : Service}
    {faults : CopyFaults} {sourceId : AlbumFileId} {destination : StorageId} {content : List UInt8}
    (admitted : CopyAdmitted cipher service faults sourceId destination content)
    (frame : MountFrame service mounted) (mirrored : mounted.MountsMirrored)
    (targetMounted : mountName destination ∈ mounted.fs.names) :
    CopyStep cipher service faults sourceId destination
      (copyContent faults (albumFsPath cipher sourceId) content.length
        (getAlbumPath cipher 0x6d { sourceId with storageId := destination }) destination
        sourceId.type mounted) := by
  have targetResolved :=
    resolve_getAlbumPath cipher (admitted.verified.withStorage admitted.valid) mounted.fs
  rw [if_pos targetMounted] at targetResolved
  have files := congrFun frame.files (albumFsPath cipher sourceId)
  have step := copyContent_step faults destination sourceId.type targetResolved
    (copyTarget_ne cipher admitted.verified.storage admitted.valid admitted.different)
    (files.trans admitted.found)
  cases step with
  | refused uncreated unresized result failed equal =>
      rw [frame.isQuest, frame.files] at uncreated unresized
      refine .untouched (fun mutates => ?_) (equal ▸ frame) (equal ▸ mirrored) ?_
      · exact mutates.2.elim uncreated unresized
      · rw [equal]
        exact fun success => absurd (Option.some.inj success) failed
  | spoiled mutates incomplete left touched result failed equal =>
      rw [frame.isQuest, frame.files] at mutates
      rw [CopyCompletes, frame.workMemorySize] at incomplete
      exact .spoiled ⟨⟨content, admitted⟩, mutates⟩ content admitted incomplete mounted frame
        mirrored left touched result failed equal
  | copied mutates complete left touched equal =>
      rw [frame.isQuest, frame.files] at mutates
      rw [CopyCompletes, frame.workMemorySize] at complete
      exact .copied ⟨⟨content, admitted⟩, mutates⟩ content admitted complete mounted frame
        mirrored left touched equal

/-- With both storages mounted. -/
theorem copyMounted_step (cipher : PathCipher) {service mounted : Service} {faults : CopyFaults}
    {sourceId : AlbumFileId} {destination : StorageId}
    (unwritten : service.manager.writeReserve.isReserved sourceId = false)
    (verified : sourceId.Verified service.manager.settings)
    (valid : storageValid destination = true) (different : destination ≠ sourceId.storageId)
    (source : service.Mountable sourceId.storageId faults.mountSource)
    (target : service.Mountable destination faults.mountDestination)
    (frame : MountFrame service mounted) (mirrored : mounted.MountsMirrored)
    (sourceMounted : mountName sourceId.storageId ∈ mounted.fs.names)
    (targetMounted : mountName destination ∈ mounted.fs.names) :
    CopyStep cipher service faults sourceId destination
      (copyMounted cipher faults sourceId destination mounted) := by
  -- a check that fails leaves everything as it was mounted
  have refused : ∀ {result : Result}, result ≠ .success →
      (∀ content, ¬ CopyAdmitted cipher service faults sourceId destination content) →
      CopyStep cipher service faults sourceId destination (some result, mounted) := by
    intro result failed unadmitted
    exact .untouched (fun mutates => unadmitted _ mutates.1.choose_spec) frame mirrored
      fun success => absurd (Option.some.inj success) failed
  rw [copyMounted_eq cipher faults verified valid frame sourceMounted, rUnless]
  by_cases opened : faults.openSource = none
  case neg =>
    rw [if_neg opened]
    exact refused (by simpa using opened) fun _ admitted => opened admitted.opened
  rw [if_pos opened]
  cases found : service.fs.files (albumFsPath cipher sourceId) with
  | none =>
      refine refused (by decide) fun _ admitted => ?_
      rw [admitted.found] at found
      cases found
  | some content =>
      simp only [rUnless]
      by_cases sized : faults.getFileSize = none
      case neg =>
        rw [if_neg sized]
        exact refused (by simpa using sized) fun _ admitted => sized admitted.sized
      by_cases small : content.length ≤ getAllowedFileSize sourceId.type service.manager.settings
      case neg =>
        rw [if_pos sized, if_neg small]
        refine refused (by decide) fun _ admitted => small ?_
        -- what is admitted is the content of the source
        have same := Option.some.inj (admitted.found.symm.trans found)
        exact same ▸ admitted.small
      by_cases below : service.BelowLimit destination sourceId.type
      case neg =>
        rw [if_pos sized, if_pos small, if_neg below]
        exact refused (by decide) fun _ admitted => below admitted.below
      rw [if_pos sized, if_pos small, if_pos below]
      have admitted : CopyAdmitted cipher service faults sourceId destination content :=
        ⟨unwritten, verified, valid, different, source, target, opened, found, sized, small, below⟩
      exact copyContent_admitted_step admitted frame mirrored targetMounted

theorem copyFile_step (cipher : PathCipher) (faults : CopyFaults) (sourceId : AlbumFileId)
    (destination : StorageId) {service : Service} (mirrored : service.MountsMirrored) :
    CopyStep cipher service faults sourceId destination
      (copyFile cipher faults sourceId destination service) := by
  have refused : ∀ {outcome : Option Result × Service},
      (∀ content, ¬ CopyAdmitted cipher service faults sourceId destination content) →
      MountFrame service outcome.2 → outcome.2.MountsMirrored →
      (outcome.1 = some .success → destination = sourceId.storageId) →
      CopyStep cipher service faults sourceId destination outcome :=
    fun unadmitted frame mirrored nothing =>
      .untouched (fun mutates => unadmitted _ mutates.1.choose_spec) frame mirrored nothing
  have unchanged := MountFrame.refl service
  by_cases unwritten : service.manager.writeReserve.isReserved sourceId = false
  case neg =>
    rw [copyFile_of_reserved unwritten]
    refine refused (fun _ admitted => unwritten admitted.unwritten) unchanged mirrored ?_
    exact fun success => absurd (Option.some.inj success) (by decide)
  by_cases accepted : sourceId.verify service.manager.settings = .success
  case neg =>
    rw [copyFile_of_unverified unwritten accepted]
    refine refused (fun _ admitted => ?_) unchanged mirrored ?_
    · exact accepted ((sourceId.verify_eq_success_iff _).mpr admitted.verified)
    · exact fun success => absurd (Option.some.inj success) accepted
  have verified := (sourceId.verify_eq_success_iff _).mp accepted
  by_cases valid : storageValid destination
  case neg =>
    rw [copyFile_of_invalid unwritten verified valid]
    refine refused (fun _ admitted => valid admitted.valid) unchanged mirrored ?_
    exact fun success => absurd (Option.some.inj success) (by decide)
  by_cases same : destination = sourceId.storageId
  · rw [copyFile_of_same unwritten verified same]
    exact refused (fun _ admitted => admitted.different same) unchanged mirrored fun _ => same
  rcases copyFile_mounts cipher faults mirrored unwritten verified valid same with
    ⟨source, target, mounted, frame, mirrored, state, equal⟩ | ⟨unmountable, frame, mirrored, failed⟩
  · rw [equal]
    exact copyMounted_step cipher unwritten verified valid same source target frame mirrored
      ((mirrored _ verified.storage).registered.mp (state _ verified.storage))
      ((mirrored _ valid).registered.mp (state _ valid))
  · exact refused (fun _ admitted => unmountable ⟨admitted.source, admitted.target⟩) frame mirrored
      fun success => absurd success failed

/-! ## Requests -/

namespace FileRequest

/-- The one file a request may change. -/
def target (cipher : PathCipher) : FileRequest → FsPath
  | deleteFile _ fileId => albumFsPath cipher fileId
  | copyFile _ sourceId destination => copyTarget cipher sourceId destination

/-- The request changes that file. -/
def Mutates (cipher : PathCipher) (service : Service) : FileRequest → Prop
  | deleteFile faults fileId =>
      DeleteAdmitted service faults fileId ∧ faults.deleteFile = none ∧
        (service.fs.files (albumFsPath cipher fileId)).isSome
  | copyFile faults sourceId destination =>
      CopyMutates cipher service faults sourceId destination

/-- The mount statuses stay in step with the mount table. -/
theorem preserves_mirrored (cipher : PathCipher) (request : FileRequest) :
    Process.Preserves Service.MountsMirrored (request.perform cipher) := by
  intro service mirrored
  cases request with
  | deleteFile faults fileId =>
      rw [perform]
      cases deleteFile_step cipher faults fileId mirrored with
      | refused _ _ after => exact after
      | deleted _ mounted _ after equal =>
          rw [equal]
          refine after.congr (fun _ => rfl) ?_
          rw [Service.deleted]
          split <;> rfl
  | copyFile faults sourceId destination =>
      rw [perform]
      cases copyFile_step cipher faults sourceId destination mirrored with
      | untouched _ _ after => exact after
      | spoiled _ _ _ _ mounted _ after left touched _ _ equal =>
          rw [equal]
          refine after.congr (fun _ => rfl) ?_
          split
          · exact touched.names
          · exact touched.names
      | copied _ _ _ _ mounted _ after left touched equal =>
          rw [equal]
          exact after.congr (fun _ => rfl) touched.names

end FileRequest

end Capsrv
