import Capsrv.AlbumCounts

/-! # What success says of deleting and copying

A copy that succeeds has run its loop to the end and is exact. What a success
does not say is whether the file system has deleted or flushed anything.
-/

namespace Capsrv

open Service

/-! ## The copying loop -/

/-- The loop of `CopyFile` from an offset on, with no bound on its rounds. That
it has an outcome says that it has ended. -/
inductive CopyLoop (faults : CopyFaults) (workMemorySize : Nat) (source destination : FsPath)
    (size : Nat) : Nat → FileSystem → Result × FileSystem → Prop
  | ended {offset : Nat} {fs : FileSystem} (beyond : ¬ offset < size) :
      CopyLoop faults workMemorySize source destination size offset fs (.success, fs)
  | unread {offset : Nat} {fs : FileSystem} {result : Result} (more : offset < size)
      (failed : fs.readFile (faults.readFile offset) source offset workMemorySize =
        .error result) :
      CopyLoop faults workMemorySize source destination size offset fs (result, fs)
  | unwritten {offset : Nat} {fs : FileSystem} {data : List UInt8} (more : offset < size)
      (read : fs.readFile (faults.readFile offset) source offset workMemorySize = .ok data)
      (failed : (fs.writeFile (faults.writeFile offset) destination offset data).1 ≠ .success) :
      CopyLoop faults workMemorySize source destination size offset fs
        (fs.writeFile (faults.writeFile offset) destination offset data)
  | copied {offset : Nat} {fs : FileSystem} {data : List UInt8}
      {outcome : Result × FileSystem} (more : offset < size)
      (read : fs.readFile (faults.readFile offset) source offset workMemorySize = .ok data)
      (written : (fs.writeFile (faults.writeFile offset) destination offset data).1 = .success)
      (rest : CopyLoop faults workMemorySize source destination size (offset + data.length)
        (fs.writeFile (faults.writeFile offset) destination offset data).2 outcome) :
      CopyLoop faults workMemorySize source destination size offset fs outcome

namespace FileSystem

variable {fs : FileSystem} {fault : Fault} {file : FsPath} {offset size : Nat}
  {data : List UInt8}

theorem readFile_eq_ok_iff :
    fs.readFile fault file offset size = .ok data ↔
      fault = none ∧ (((fs.files file).getD []).drop offset).take size = data := by
  rw [readFile_eq]
  by_cases clear : fault = none <;> simp [clear]

theorem writeFile_success_iff :
    (fs.writeFile fault file offset data).1 = .success ↔ fault = none := by
  rw [writeFile_eq]
  by_cases clear : fault = none <;> simp [clear]

theorem readFile_error_ne {result : Result}
    (failed : fs.readFile fault file offset size = .error result) : result ≠ .success := by
  rw [readFile_eq] at failed
  by_cases clear : fault = none
  · rw [if_pos clear] at failed
    cases failed
  · rw [if_neg clear] at failed
    rw [← Except.error.inj failed]
    simpa using clear

theorem writeFile_files_of_success
    (written : (fs.writeFile fault file offset data).1 = .success) :
    (fs.writeFile fault file offset data).2.files file =
      some (((fs.files file).getD []).take offset ++ data ++
        ((fs.files file).getD []).drop (offset + data.length)) := by
  rw [writeFile_eq, if_pos (writeFile_success_iff.mp written), store_files, FileStore.put_same]

theorem writeFile_files_of_ne {other : FsPath} (different : other ≠ file) :
    (fs.writeFile fault file offset data).2.files other = fs.files other := by
  rw [writeFile_eq]
  by_cases clear : fault = none
  · simp [clear, FileStore.put_of_ne _ _ different]
  · simp [clear]

end FileSystem

section

variable {faults : CopyFaults} {workMemorySize : Nat} {source destination : FsPath}
  {content : List UInt8}

variable (faults) in
/-- As many rounds as there are bytes left let the loop end: no chunk is empty. -/
theorem copyChunks_loop (positive : 0 < workMemorySize) (different : source ≠ destination)
    (rounds offset : Nat) {fs : FileSystem} (found : fs.files source = some content)
    (enough : content.length ≤ offset + rounds) :
    CopyLoop faults workMemorySize source destination content.length offset fs
      (copyChunks faults workMemorySize source destination content.length rounds offset fs) := by
  induction rounds generalizing offset fs with
  | zero => exact .ended (by omega)
  | succ rounds induction =>
      rw [copyChunks]
      by_cases more : offset < content.length
      case neg =>
        rw [if_neg more]
        exact .ended more
      rw [if_pos more]
      cases read : fs.readFile (faults.readFile offset) source offset workMemorySize with
      | error result => exact .unread more read
      | ok data =>
          have chunk := (FileSystem.readFile_eq_ok_iff.mp read).2
          rw [found, Option.getD_some] at chunk
          have nonempty : 0 < data.length := by
            rw [← chunk, List.length_take, List.length_drop]
            omega
          by_cases written :
              (fs.writeFile (faults.writeFile offset) destination offset data).1 = .success
          · simp only [written, rTry_success]
            refine .copied more read written (induction _ ?_ (by omega))
            rw [FileSystem.writeFile_files_of_ne different, found]
          · simp only [rTry]
            rw [if_neg (by simpa using written)]
            exact .unwritten more read written

/-- Writing the next bytes of a content over an equally long one that starts
with the bytes before them. -/
theorem overwrite_exact {before data : List UInt8} {offset : Nat}
    (sized : before.length = content.length) (agree : before.take offset = content.take offset)
    (within : offset ≤ content.length) (chunk : data <+: content.drop offset) :
    let after := before.take offset ++ data ++ before.drop (offset + data.length)
    offset + data.length ≤ content.length ∧ after.length = content.length ∧
      after.take (offset + data.length) = content.take (offset + data.length) := by
  have short := chunk.length_le
  rw [List.length_drop] at short
  have front : (before.take offset ++ data).length = offset + data.length := by
    rw [List.length_append, List.length_take]
    omega
  refine ⟨by omega, ?_, ?_⟩
  · rw [List.length_append, front, List.length_drop]
    omega
  · rw [List.take_left' front, List.take_add, agree, ← List.prefix_iff_eq_take.mp chunk]

/-- The bytes in front of the offset are copied already, and the destination is
as long as the source: so it is when the loop ends well. -/
theorem CopyLoop.exact {offset : Nat} {fs : FileSystem} {outcome : Result × FileSystem}
    (loop : CopyLoop faults workMemorySize source destination content.length offset fs outcome)
    (different : source ≠ destination) (found : fs.files source = some content)
    {before : List UInt8} (stored : fs.files destination = some before)
    (sized : before.length = content.length) (agree : before.take offset = content.take offset)
    (within : offset ≤ content.length) (success : outcome.1 = .success) :
    outcome.2.files destination = some content := by
  induction loop generalizing before with
  | @ended offset fs beyond =>
      have whole : offset = content.length := by omega
      rw [whole, ← sized, List.take_length, sized, List.take_length] at agree
      rw [stored, agree]
  | unread more failed => exact absurd success (FileSystem.readFile_error_ne failed)
  | unwritten more read failed => exact absurd success failed
  | @copied offset fs data outcome more read written rest induction =>
      have chunk := (FileSystem.readFile_eq_ok_iff.mp read).2
      rw [found, Option.getD_some] at chunk
      rcases overwrite_exact sized agree within (chunk ▸ List.take_prefix _ _) with
        ⟨stillWithin, stillSized, agreeFurther⟩
      refine induction ?_ ?_ stillSized agreeFurther stillWithin success
      · rw [FileSystem.writeFile_files_of_ne different, found]
      · rw [FileSystem.writeFile_files_of_success written, stored, Option.getD_some]

end

/-! ## From the destination on -/

section

variable {mounted : Service} {faults : CopyFaults} {sourceFile file : FsPath}
  {content : List UInt8} {path : Text} {destination : StorageId} {type : ContentType}

/-- What a successful `CopyFile` has done since its checks. -/
structure ContentCopied (mounted : Service) (faults : CopyFaults) (sourceFile file : FsPath)
    (path : Text) (content : List UInt8) (next : FileSystem) : Prop where
  ended : ∃ started, createAlbumFileImpl mounted.isQuest faults.toCreateFaults path
      content.length mounted.fs = (.ok file, started) ∧
    CopyLoop faults mounted.manager.workMemorySize sourceFile file content.length 0 started
      (.success, next)
  files : next.files = mounted.fs.files.put file content

/-- The loop starts on a file that is as long as the source. -/
theorem contentCopied_of_created (different : sourceFile ≠ file)
    (found : mounted.fs.files sourceFile = some content) {started : FileSystem}
    (created : createAlbumFileImpl mounted.isQuest faults.toCreateFaults path content.length
      mounted.fs = (.ok file, started))
    (touched : Touched file mounted.fs started) {before : List UInt8}
    (stored : started.files file = some before) (sized : before.length = content.length)
    (success : (copyContent faults sourceFile content.length path destination type
      mounted).1 = some .success) :
    ContentCopied mounted faults sourceFile file path content
      (copyContent faults sourceFile content.length path destination type mounted).2.fs := by
  have positive := mounted.manager.workMemory
  have startedFound := (touched.files_of_ne different).trans found
  have loop := copyChunks_loop faults positive different content.length 0 startedFound
    (by omega)
  have left := (copyChunks_whole faults positive different found touched).1
  have copied := loop.exact different startedFound stored sized rfl (Nat.zero_le _)
  simp only [copyContent, Process.bind_apply, Process.get_apply, callFs_apply, created] at success ⊢
  generalize copyChunks faults mounted.manager.workMemorySize sourceFile file content.length
    content.length 0 started = outcome at loop left copied success ⊢
  by_cases finished : outcome.1 = .success
  case neg =>
    rw [if_neg (by simpa using finished)] at success
    exact absurd (Option.some.inj success) finished
  rw [if_pos (by simpa using finished)]
  rcases left.files with ⟨final, files⟩
  have whole := copied finished
  rw [files, FileStore.put_same] at whole
  rw [Option.some.inj whole] at files
  refine ⟨⟨started, created, ?_⟩, files⟩
  rw [← finished]
  exact loop

theorem copyContent_copied (resolved : mounted.fs.resolve path = .ok file)
    (different : sourceFile ≠ file) (found : mounted.fs.files sourceFile = some content)
    (success : (copyContent faults sourceFile content.length path destination type
      mounted).1 = some .success) :
    ContentCopied mounted faults sourceFile file path content
      (copyContent faults sourceFile content.length path destination type mounted).2.fs := by
  have step := createAlbumFileImpl_step mounted.isQuest faults.toCreateFaults resolved
    content.length
  cases created : createAlbumFileImpl mounted.isQuest faults.toCreateFaults path content.length
      mounted.fs with
  | mk value fs =>
      -- without a destination there is no success
      have unsuccessful : ∀ {result : Result}, result ≠ .success → value = .error result →
          ContentCopied mounted faults sourceFile file path content
            (copyContent faults sourceFile content.length path destination type mounted).2.fs := by
        rintro result failed rfl
        simp only [copyContent, Process.bind_apply, Process.get_apply, callFs_apply, created,
          Process.pure_apply] at success
        exact absurd (Option.some.inj success) failed
      rw [created] at step
      cases step with
      | refused result failed => exact unsuccessful failed rfl
      | undone result failed => exact unsuccessful failed rfl
      | created creates opened =>
          exact contentCopied_of_created different found created (.of_store _)
            (FileStore.put_same _ _ _) List.length_replicate success
      | resized resizes =>
          refine contentCopied_of_created different found created (.of_store _)
            (FileStore.put_same _ _ _) ?_ success
          rw [List.length_append, List.length_take, List.length_replicate]
          omega

end

/-! ## Behind the checks -/

/-- The checks of `CopyFile` up to where the source is open and its size known. -/
structure CopyOpens (cipher : PathCipher) (service : Service) (faults : CopyFaults)
    (sourceId : AlbumFileId) (destination : StorageId) (content : List UInt8) : Prop where
  unwritten : service.manager.writeReserve.isReserved sourceId = false
  verified : sourceId.Verified service.manager.settings
  valid : storageValid destination = true
  different : destination ≠ sourceId.storageId
  source : service.Mountable sourceId.storageId faults.mountSource
  target : service.Mountable destination faults.mountDestination
  opened : faults.openSource = none
  found : service.fs.files (albumFsPath cipher sourceId) = some content
  sized : faults.getFileSize = none

section

variable {cipher : PathCipher} {service : Service} {faults : CopyFaults}
  {sourceId : AlbumFileId} {destination : StorageId} {content : List UInt8}

theorem copyAdmitted_iff :
    CopyAdmitted cipher service faults sourceId destination content ↔
      CopyOpens cipher service faults sourceId destination content ∧
        content.length ≤ getAllowedFileSize sourceId.type service.manager.settings ∧
        service.BelowLimit destination sourceId.type := by
  constructor
  · intro admitted
    exact ⟨{ admitted with }, admitted.small, admitted.below⟩
  · rintro ⟨opens, small, below⟩
    exact { opens with small, below }

/-- What is left of `CopyFile` once the source is open. -/
theorem copyFile_of_opens (mirrored : service.MountsMirrored)
    (opens : CopyOpens cipher service faults sourceId destination content) :
    ∃ mounted, MountFrame service mounted ∧ mounted.MountsMirrored ∧
      (∀ storageId, storageValid storageId →
        (mounted.manager.mountStatus storageId).state = .mounted) ∧
      copyFile cipher faults sourceId destination service =
        (rUnless (content.length ≤ getAllowedFileSize sourceId.type service.manager.settings)
          (some albumFileNotFound.result, mounted) <|
        rUnless (service.BelowLimit destination sourceId.type)
          (some internalAlbumLimitationFileCountLimit.result, mounted) <|
        copyContent faults (albumFsPath cipher sourceId) content.length
          (getAlbumPath cipher 0x6d { sourceId with storageId := destination }) destination
          sourceId.type mounted) := by
  have verified := opens.verified
  rcases copyFile_mounts cipher faults mirrored opens.unwritten verified opens.valid
    opens.different with ⟨-, -, mounted, frame, mountedMirrored, state, equal⟩ | ⟨unmountable, -⟩
  case inr => exact absurd ⟨opens.source, opens.target⟩ unmountable
  have registered := (mountedMirrored _ verified.storage).registered.mp (state _ verified.storage)
  refine ⟨mounted, frame, mountedMirrored, state, ?_⟩
  rw [equal, copyMounted_eq cipher faults verified opens.valid frame registered, rUnless,
    if_pos opens.opened, opens.found]
  simp only [rUnless, if_pos opens.sized]

/-- With all storages mounted, the path of the destination leads there. -/
theorem CopyOpens.resolved (opens : CopyOpens cipher service faults sourceId destination content)
    {mounted : Service} (mirrored : mounted.MountsMirrored)
    (state : ∀ storageId, storageValid storageId →
      (mounted.manager.mountStatus storageId).state = .mounted) :
    mounted.fs.resolve (getAlbumPath cipher 0x6d { sourceId with storageId := destination }) =
      .ok (copyTarget cipher sourceId destination) := by
  have resolved := resolve_getAlbumPath cipher (opens.verified.withStorage opens.valid) mounted.fs
  rwa [if_pos ((mirrored _ opens.valid).registered.mp (state _ opens.valid))] at resolved

end

/-! ## A successful copy -/

/-- A copy is exact: the loop has ended, the destination has the bytes of the
source, which is unchanged, and the copy is counted. -/
structure CopiesExactly (cipher : PathCipher) (service : Service) (faults : CopyFaults)
    (sourceId : AlbumFileId) (destination : StorageId) (next : Service)
    (content : List UInt8) : Prop where
  source : service.fs.files (albumFsPath cipher sourceId) = some content
  ended : ∃ mounted started, MountFrame service mounted ∧
    createAlbumFileImpl service.isQuest faults.toCreateFaults
        (getAlbumPath cipher 0x6d { sourceId with storageId := destination }) content.length
        mounted.fs = (.ok (copyTarget cipher sourceId destination), started) ∧
    CopyLoop faults service.manager.workMemorySize (albumFsPath cipher sourceId)
      (copyTarget cipher sourceId destination) content.length 0 started (.success, next.fs)
  copied : next.fs.files (copyTarget cipher sourceId destination) = some content
  unchanged : next.fs.files (albumFsPath cipher sourceId) = some content
  counted : (next.manager.cache.getCount destination sourceId.type).toNat =
    (service.manager.cache.getCount destination sourceId.type).toNat + 1

theorem copyFile_exact (cipher : PathCipher) (faults : CopyFaults) (sourceId : AlbumFileId)
    (destination : StorageId) (service : Service) (mirrored : service.MountsMirrored)
    (other : destination ≠ sourceId.storageId)
    (success : (copyFile cipher faults sourceId destination service).1 = some .success) :
    ∃ content, CopiesExactly cipher service faults sourceId destination
      (copyFile cipher faults sourceId destination service).2 content := by
  cases copyFile_step cipher faults sourceId destination mirrored with
  | untouched _ _ _ nothing => exact absurd (nothing success) other
  | spoiled _ _ _ _ _ _ _ _ _ result failed equal =>
      rw [equal] at success
      exact absurd (Option.some.inj success) failed
  | copied _ content admitted _ _ frame _ left _ equal =>
      have verified := admitted.verified
      have different := copyTarget_ne cipher verified.storage admitted.valid admitted.different
      rcases copyAdmitted_iff.mp admitted with ⟨opens, small, below⟩
      rcases copyFile_of_opens mirrored opens with
        ⟨mounted, mountedFrame, mountedMirrored, state, behind⟩
      rw [rUnless, if_pos small, rUnless, if_pos below] at behind
      have copied := copyContent_copied (opens.resolved mountedMirrored state) different
        ((congrFun mountedFrame.files _).trans admitted.found) (behind ▸ success)
      rw [← behind] at copied
      refine ⟨content, admitted.found, ?_, ?_, ?_, ?_⟩
      · rcases copied.ended with ⟨started, created, loop⟩
        rw [mountedFrame.isQuest] at created
        rw [mountedFrame.workMemorySize] at loop
        exact ⟨mounted, started, mountedFrame, created, loop⟩
      · rw [copied.files, FileStore.put_same]
      · rw [copied.files, FileStore.put_of_ne _ _ different, mountedFrame.files, admitted.found]
      · rw [equal]
        simp only [frame.cache]
        rw [AlbumManagerCache.getCount_increment _ admitted.valid verified.typeValid,
          if_pos ⟨rfl, rfl⟩]
        exact toNat_increment_of_lt below

/-- Copying the screenshot of three bytes to the SD card. -/
theorem copyFile_exact_savedScreenshot :
    let service := Service.announced fun path =>
      if path = albumFsPath (Equiv.refl Block) savedScreenshot then some [1, 2, 3] else none
    ∃ content, CopiesExactly (Equiv.refl Block) service .absent savedScreenshot .sd
      (copyFile (Equiv.refl Block) .absent savedScreenshot .sd service).2 content :=
  copyFile_exact (Equiv.refl Block) .absent savedScreenshot .sd _ (mirrored_announced _)
    (by decide) (by decide +kernel)

/-! ## What success tells -/

/-- The file that was to be deleted was there and is gone. -/
def FileDeleted (cipher : PathCipher) (fileId : AlbumFileId) (service next : Service) : Prop :=
  (service.fs.files (albumFsPath cipher fileId)).isSome ∧
    next.fs.files (albumFsPath cipher fileId) = none

/-- Every call that the result of a copy depends on has succeeded. -/
structure CopyCallsSucceed (cipher : PathCipher) (service : Service) (faults : CopyFaults)
    (sourceId : AlbumFileId) (destination : StorageId) (content : List UInt8) : Prop where
  openSource : faults.openSource = none
  found : service.fs.files (albumFsPath cipher sourceId) = some content
  getFileSize : faults.getFileSize = none
  create : Creates service.isQuest faults.toCreateFaults (copyTarget cipher sourceId destination)
      service.fs.files ∨
    Resizes service.isQuest faults.toCreateFaults (copyTarget cipher sourceId destination)
      service.fs.files
  openDestination : faults.openFile = none
  chunks : faults.Clear service.manager.workMemorySize content.length
  flush : faults.flushFile = none

namespace FileRequest

/-- A request that reports success has done what it was to do. -/
def SuccessTrue (cipher : PathCipher) (service : Service) (request : FileRequest) : Prop :=
  (request.perform cipher service).1 = some .success →
    match request with
    | deleteFile _ fileId => FileDeleted cipher fileId service (request.perform cipher service).2
    | copyFile faults sourceId destination =>
        destination ≠ sourceId.storageId →
          ∃ content, CopyCallsSucceed cipher service faults sourceId destination content

/-- What is behind the checks meets no fault that is not looked at. -/
def NothingHidden (cipher : PathCipher) (service : Service) : FileRequest → Prop
  | deleteFile faults fileId =>
      DeleteAdmitted service faults fileId →
        faults.deleteFile = none ∧ (service.fs.files (albumFsPath cipher fileId)).isSome
  | copyFile faults sourceId destination =>
      CopyMutates cipher service faults sourceId destination →
        (∀ content, CopyAdmitted cipher service faults sourceId destination content →
          CopyCompletes service faults content.length) →
        faults.flushFile = none

end FileRequest

section

variable {cipher : PathCipher} {service : Service}

/-- A deletion that passes its checks succeeds, whatever the file system says. -/
theorem deleteFile_successTrue_iff (mirrored : service.MountsMirrored) (faults : DeleteFaults)
    (fileId : AlbumFileId) :
    (FileRequest.deleteFile faults fileId).SuccessTrue cipher service ↔
      (FileRequest.deleteFile faults fileId).NothingHidden cipher service := by
  simp only [FileRequest.SuccessTrue, FileRequest.NothingHidden, FileRequest.perform]
  cases deleteFile_step cipher faults fileId mirrored with
  | refused reason _ _ failed =>
      exact iff_of_true (fun success => absurd success failed) fun admitted =>
        absurd admitted reason
  | deleted admitted mounted frame _ equal =>
      have before := congrFun frame.files (albumFsPath cipher fileId)
      simp only [equal, admitted, FileDeleted, Service.deleted, true_imp_iff, before]
      by_cases removes : faults.deleteFile = none ∧
          (service.fs.files (albumFsPath cipher fileId)).isSome
      · rw [if_pos removes]
        exact iff_of_true ⟨removes.2, FileStore.erase_same _ _⟩ removes
      · rw [if_neg removes]
        refine iff_of_false ?_ removes
        rintro ⟨found, gone⟩
        rw [← before, gone] at found
        cases found

/-- A copy that reports success has copied everything. -/
theorem copyFile_successTrue_iff (mirrored : service.MountsMirrored) (faults : CopyFaults)
    (sourceId : AlbumFileId) (destination : StorageId) :
    (FileRequest.copyFile faults sourceId destination).SuccessTrue cipher service ↔
      (FileRequest.copyFile faults sourceId destination).NothingHidden cipher service := by
  simp only [FileRequest.SuccessTrue, FileRequest.NothingHidden, FileRequest.perform]
  cases copyFile_step cipher faults sourceId destination mirrored with
  | untouched reason _ _ nothing =>
      exact iff_of_true (fun success other => absurd (nothing success) other) fun mutates =>
        absurd mutates reason
  | spoiled _ content admitted incomplete _ _ _ _ _ result failed equal =>
      rw [equal]
      exact iff_of_true (fun success => absurd (Option.some.inj success) failed)
        fun _ complete => absurd (complete content admitted) incomplete
  | copied mutates content admitted complete _ _ _ _ _ equal =>
      simp only [equal, mutates, true_imp_iff]
      constructor
      · intro tells _
        rcases tells admitted.different with ⟨_, succeed⟩
        exact succeed.flush
      · intro hidden _
        have flush := hidden fun other otherAdmitted =>
          admitted.unique otherAdmitted ▸ complete
        exact ⟨content, admitted.opened, admitted.found, admitted.sized, mutates.2, complete.1,
          complete.2, flush⟩

end

theorem fileRequest_successTrue_iff (cipher : PathCipher) (service : Service)
    (mirrored : service.MountsMirrored) (request : FileRequest) :
    request.SuccessTrue cipher service ↔ request.NothingHidden cipher service := by
  cases request with
  | deleteFile faults fileId => exact deleteFile_successTrue_iff mirrored faults fileId
  | copyFile faults sourceId destination =>
      exact copyFile_successTrue_iff mirrored faults sourceId destination

/-- A screenshot that is there is deleted. -/
theorem fileRequest_successTrue_savedScreenshot :
    let service := Service.announced fun path =>
      if path = albumFsPath (Equiv.refl Block) savedScreenshot then some [1, 2, 3] else none
    (FileRequest.deleteFile ⟨none, none⟩ savedScreenshot).SuccessTrue (Equiv.refl Block)
      service :=
  (fileRequest_successTrue_iff (Equiv.refl Block) _ (mirrored_announced _) _).mpr
    fun _ => ⟨rfl, by decide +kernel⟩

theorem notMounted_ne_success : Fs.notMounted.result ≠ .success := by decide

/-- Everything works but the flush at the end. -/
def CopyFaults.unflushed : CopyFaults :=
  { CopyFaults.absent with flushFile := some ⟨Fs.notMounted.result, notMounted_ne_success⟩ }

/-- Deleting a screenshot that is not there succeeds, and so does copying one
that cannot be flushed. -/
theorem fileRequest_not_successTrue :
    ¬ (FileRequest.deleteFile ⟨none, none⟩ savedScreenshot).SuccessTrue (Equiv.refl Block)
        (.announced fun _ => none) ∧
      ¬ (FileRequest.copyFile .unflushed savedScreenshot .sd).SuccessTrue (Equiv.refl Block)
        (.announced fun path =>
          if path = albumFsPath (Equiv.refl Block) savedScreenshot then some [1, 2, 3]
          else none) := by
  constructor
  · intro tells
    have deleted := tells (by decide +kernel)
    exact absurd deleted.1 (by decide)
  · intro tells
    rcases tells (by decide +kernel) (by decide) with ⟨_, succeed⟩
    exact absurd succeed.flush (by decide)

end Capsrv
