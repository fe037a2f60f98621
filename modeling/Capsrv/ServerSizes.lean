import Capsrv.AlbumIntegrity
import Capsrv.ServerObjects

/-! # The sizes that a server tells

When `GetAlbumFileSize` tells a client a size, and what the size has to do with the
files that were there when the server started.
-/

namespace Capsrv

open Server Service Process

/-! ## One request -/

/-- The conditions under which `GetFileSize` tells a size. -/
structure SizeTold (cipher : PathCipher) (faults : SizeFaults) (fileId : AlbumFileId)
    (service : Service) (size : Nat) : Prop where
  unwritten : service.manager.writeReserve.isReserved fileId = false
  verified : fileId.Verified service.manager.settings
  mountable : service.Mountable fileId.storageId faults.mount
  opened : faults.openFile = none
  measured : faults.getFileSize = none
  found : ∃ content, service.fs.files (albumFsPath cipher fileId) = some content ∧
    content.length = size
  allowed : size ≤ getAllowedFileSize fileId.type service.manager.settings

/-- What `GetFileSize` does with the file system behind the mount. -/
def measureFile (faults : SizeFaults) (path : Text) (allowedSize : Nat) (fs : FileSystem) :
    Result × Nat :=
  match fs.openFile faults.openFile path with
  | .error result => (result, 0)
  | .ok file =>
  match fs.getFileSize faults.getFileSize file with
  | .error result => (result, 0)
  | .ok fileSize =>
      rUnless (fileSize ≤ allowedSize) (albumFileNotFound.result, 0) (.success, fileSize)

section

variable {cipher : PathCipher} {service : Service} {faults : SizeFaults} {fileId : AlbumFileId}
  {size : Nat}

theorem measureFile_success_iff {fs : FileSystem} {path : Text} {file : FsPath}
    (resolved : fs.resolve path = .ok file) (allowedSize : Nat) :
    measureFile faults path allowedSize fs = (.success, size) ↔
      faults.openFile = none ∧ faults.getFileSize = none ∧
        (∃ content, fs.files file = some content ∧ content.length = size) ∧
          size ≤ allowedSize := by
  have refused : ∀ {rc : Result}, rc ≠ .success → ¬ (rc, 0) = (Result.success, size) :=
    fun failed same => failed (congrArg Prod.fst same)
  simp only [measureFile, FileSystem.openFile_of_resolve resolved, FileSystem.getFileSize_eq]
  cases opened : faults.openFile with
  | some failure => exact iff_of_false (refused failure.failed) (by simp)
  | none =>
  cases found : fs.files file with
  | none => exact iff_of_false (refused (by decide)) (by simp)
  | some content =>
  cases measured : faults.getFileSize with
  | some failure => exact iff_of_false (refused failure.failed) (by simp)
  | none =>
      simp only [if_true, Option.isSome_some, found, Option.getD_some, rUnless, true_and,
        Option.some.injEq, exists_eq_left']
      split
      case isTrue allowed =>
        constructor
        · intro same
          cases same
          exact ⟨rfl, allowed⟩
        · intro told
          rw [told.1]
      case isFalse large =>
        refine iff_of_false (refused (by decide)) fun told => large ?_
        rw [told.1]
        exact told.2

/-- Behind the checks and the mount, the file is measured. -/
theorem getFileSize_mounted (verified : fileId.Verified service.manager.settings)
    (unwritten : service.manager.writeReserve.isReserved fileId = false) {mounted : Service}
    (ensured : ensureMountState faults.mount fileId.storageId .mounted service =
      (some .success, mounted)) :
    (getFileSize cipher faults fileId service).1 =
      some (measureFile faults (getAlbumPath cipher 0x6d fileId)
        (getAllowedFileSize fileId.type service.manager.settings) mounted.fs) := by
  have accepted := (fileId.verify_eq_success_iff _).mpr verified
  simp only [getFileSize, Process.bind_apply, Process.get_apply, rUnless, rTry]
  rw [if_pos unwritten, if_pos (by simpa using accepted), bind_of_eq_some ensured,
    if_pos Result.isSuccess_success, makeAlbumPath_of_verified cipher verified, measureFile]
  simp only [Process.bind_apply, Process.get_apply]
  cases mounted.fs.openFile faults.openFile (getAlbumPath cipher 0x6d fileId) with
  | error result => rfl
  | ok file =>
  dsimp only
  cases mounted.fs.getFileSize faults.getFileSize file with
  | error result => rfl
  | ok fileSize =>
      dsimp only [rUnless]
      split <;> rfl

/-- A size that is told has passed the checks and the mount. -/
theorem getFileSize_admitted (mirrored : service.MountsMirrored)
    (told : (getFileSize cipher faults fileId service).1 = some (.success, size)) :
    service.manager.writeReserve.isReserved fileId = false ∧
      fileId.Verified service.manager.settings ∧
        service.Mountable fileId.storageId faults.mount := by
  simp only [getFileSize, Process.bind_apply, Process.get_apply, rUnless, rTry] at told
  by_cases unwritten : service.manager.writeReserve.isReserved fileId = false
  case neg =>
    rw [if_neg unwritten] at told
    cases told
  rw [if_pos unwritten] at told
  by_cases accepted : fileId.verify service.manager.settings = .success
  case neg =>
    rw [if_neg (by simpa using accepted)] at told
    exact absurd (congrArg Prod.fst (Option.some.inj told)) accepted
  rw [if_pos (by simpa using accepted)] at told
  refine ⟨unwritten, (fileId.verify_eq_success_iff _).mp accepted, ?_⟩
  have step := ensureMountState_step fileId.storageId mirrored faults.mount .mounted
  rcases ensured : ensureMountState faults.mount fileId.storageId .mounted service with
    ⟨_ | result, mounted⟩
  · rw [bind_of_eq_none ensured] at told
    cases told
  rw [bind_of_eq_some ensured] at told
  rw [ensured] at step
  by_cases succeeded : result = .success
  · exact ((step.success_iff mirrored).mp (congrArg some succeeded)).2
  · rw [if_neg (by simpa using succeeded)] at told
    exact absurd (congrArg Prod.fst (Option.some.inj told)) succeeded

theorem getFileSize_success_iff (mirrored : service.MountsMirrored) (faults : SizeFaults)
    (fileId : AlbumFileId) (size : Nat) :
    (getFileSize cipher faults fileId service).1 = some (.success, size) ↔
      SizeTold cipher faults fileId service size := by
  by_cases admitted : service.manager.writeReserve.isReserved fileId = false ∧
      fileId.Verified service.manager.settings ∧
        service.Mountable fileId.storageId faults.mount
  case neg =>
    exact iff_of_false (fun told => admitted (getFileSize_admitted mirrored told))
      fun told => admitted ⟨told.unwritten, told.verified, told.mountable⟩
  rcases admitted with ⟨unwritten, verified, mountable⟩
  have step := ensureMountState_step fileId.storageId mirrored faults.mount .mounted
  have ensured := (step.success_iff mirrored).mpr ⟨verified.storage, mountable⟩
  generalize outcome : ensureMountState faults.mount fileId.storageId .mounted service = mounted
    at step ensured
  have registered := (step.mirrored mirrored _ verified.storage).registered.mp
    (step.mounted_of_success mirrored ensured).2
  have resolved := resolve_getAlbumPath cipher verified mounted.2.fs
  rw [if_pos registered] at resolved
  have files : mounted.2.fs.files = service.fs.files := step.frame.files
  rw [getFileSize_mounted verified unwritten (outcome.trans (Prod.ext ensured rfl)),
    Option.some.injEq, measureFile_success_iff resolved, files]
  constructor
  · rintro ⟨opened, measured, found, allowed⟩
    exact ⟨unwritten, verified, mountable, opened, measured, found, allowed⟩
  · intro told
    exact ⟨told.opened, told.measured, told.found, told.allowed⟩

/-- Success is told with the size, everything else with an error. -/
theorem getAlbumFileSize_size_iff (environment : Environment) (faults : SizeFaults)
    (fileId : AlbumFileId) (server : Server) (size : Nat) :
    (AlbumAccessorService.getAlbumFileSize environment faults fileId server).1 =
        some (.ok (.size size)) ↔
      (getFileSize environment.cipher faults fileId server.album).1 = some (.success, size) := by
  rw [AlbumAccessorService.getAlbumFileSize]
  cases outcome : getFileSize environment.cipher faults fileId server.album with
  | mk value album =>
  have called : albumPart.focus (getFileSize environment.cipher faults fileId) server =
      (value, { server with album }) := by
    simp only [Part.focus, albumPart, outcome]
  cases value with
  | none =>
      rw [bind_of_eq_none called]
      exact iff_of_false (Option.some_ne_none _).symm (Option.some_ne_none _).symm
  | some told =>
      rw [bind_of_eq_some called, answer_eq, Process.pure_apply, rTry]
      split
      case isTrue success =>
        have succeeded : told.1 = .success := by simpa using success
        simp only [Option.some.injEq, Except.ok.injEq, Output.size.injEq]
        constructor
        · exact fun same => Prod.ext succeeded same
        · intro same
          rw [same]
      case isFalse failed =>
        refine iff_of_false (by simp) fun same => failed ?_
        rw [Option.some.inj same]
        rfl

end

/-! ## Runs -/

/-- The file whose size a message asks for. -/
def ServerMessage.sizeAsked (environment : Environment) (message : ServerMessage) :
    Option (SizeFaults × AlbumFileId) :=
  match message.dispatch environment with
  | .called (.accessor (.getAlbumFileSize faults fileId)) => some (faults, fileId)
  | _ => none

section

variable {environment : Environment} {settings : AlbumSettings} {server next reached : Server}
  {message : ServerMessage} {reply : Reply} {faults : SizeFaults} {fileId : AlbumFileId}
  {history : List (ServerMessage × Reply)}

theorem perform_of_sizeAsked (asked : message.sizeAsked environment = some (faults, fileId)) :
    message.perform environment =
      AlbumAccessorService.getAlbumFileSize environment faults fileId := by
  rw [ServerMessage.sizeAsked] at asked
  rw [ServerMessage.perform]
  cases dispatched : message.dispatch environment with
  | refused rc =>
      rw [dispatched] at asked
      cases asked
  | malformed rc =>
      rw [dispatched] at asked
      cases asked
  | called command =>
      rw [dispatched] at asked
      cases command with
      | control command => cases asked
      | accessor command =>
          cases command with
          | getAlbumFileSize faults fileId =>
              cases asked
              rfl
          | _ => cases asked
      | application command => cases asked

/-- In whatever run, a client is told a size exactly when the id is accepted, its
storage can be mounted, the system answers and the file is there and not too large.
If the clean-ups after the copies before it have worked, the size is one that the
file of the id had on one of the storages at the start. -/
theorem serverRun_sizes (holds : ServerInvariant settings server)
    (answered : Answered (ServerMessage.perform environment) server history reached) :
    ∀ earlier message reply later, history = earlier ++ (message, reply) :: later →
      ∀ faults fileId, message.sizeAsked environment = some (faults, fileId) →
      ∃ before, Answered (ServerMessage.perform environment) server earlier before ∧
        ∀ size, (reply = .ok (.size size) ↔
            SizeTold environment.cipher faults fileId before.album size) ∧
          ((∀ message ∈ earlier.map (·.1),
              message.FilesPermitted environment FileRequest.CleansUp) →
            reply = .ok (.size size) → ∃ storageId content, storageValid storageId = true ∧
              server.album.fs.files (albumFsPath environment.cipher { fileId with storageId }) =
                some content ∧ content.length = size) := by
  intro earlier message reply later split faults fileId asked
  rw [split] at answered
  rcases answered.at_entry with ⟨before, next, first, step⟩
  rw [perform_of_sizeAsked asked] at step
  have beforeHolds : ServerInvariant settings before := by
    have kept := preserves_serverInvariant environment settings (earlier.map (·.1)) server holds
    rwa [first.run] at kept
  have told : ∀ size, reply = .ok (.size size) ↔
      SizeTold environment.cipher faults fileId before.album size := by
    intro size
    rw [← getFileSize_success_iff beforeHolds.album.mounts.mirrored, ←
      getAlbumFileSize_size_iff, step, Option.some.injEq]
  refine ⟨before, first, fun size => ⟨told size, fun clean replied => ?_⟩⟩
  have descends := serverRun_files (server.album.fs.files.DescendsFrom FsPath.Twin id)
    (fun _ _ change => change.contents) holds clean
    (FileStore.descendsFrom_refl FsPath.Twin.refl _)
  rw [first.run] at descends
  have size := (told size).mp replied
  rcases size.found with ⟨content, found, length⟩
  rcases exists_at_start descends size.verified.storage found with ⟨storageId, valid, started⟩
  exact ⟨storageId, content, valid, started, length⟩

end

/-! ## The size of a copy -/

/-- The copy of the screenshot that has been deleted. -/
def sizeQuestion : ServerCommand :=
  .accessor (.getAlbumFileSize ⟨none, none, none⟩ copiedScreenshot)

theorem getFileSize_copiedScreenshot :
    (getFileSize plainEnvironment.cipher ⟨none, none, none⟩ copiedScreenshot
      (Process.run (ServerMessage.perform plainEnvironment)
        (copyingCommands.map ServerCommand.sent)
          (.around (startedAround savedPair))).2.album).1 = some (.success, 3) := by
  decide +kernel

theorem sizeAsked_sizeQuestion : sizeQuestion.sent.sizeAsked plainEnvironment =
    some (⟨none, none, none⟩, copiedScreenshot) := by
  have dispatched : sizeQuestion.sent.dispatch plainEnvironment = .called sizeQuestion :=
    ServerCommand.dispatch_sent rfl fun aruid unnamed => by cases unnamed
  rw [ServerMessage.sizeAsked, dispatched, sizeQuestion]

/-- After the copy and the deletion, the size of the copy is that of the original. -/
theorem serverRun_sizes_copying :
    ∃ history reached before, history.map (·.1) = copyingCommands.map ServerCommand.sent ∧
      Answered (ServerMessage.perform plainEnvironment) (.around (startedAround savedPair))
        (history ++ [(sizeQuestion.sent, .ok (.size 3))]) reached ∧
      SizeTold plainEnvironment.cipher ⟨none, none, none⟩ copiedScreenshot
        (before : Server).album 3 ∧
      ∃ storageId content, storageValid storageId = true ∧
        savedPair (albumFsPath plainEnvironment.cipher { copiedScreenshot with storageId }) =
          some content ∧ content.length = 3 := by
  rcases Answered.exists_of_run copyingCommands_return with ⟨history, sent, first⟩
  generalize reached : (Process.run (ServerMessage.perform plainEnvironment)
    (copyingCommands.map ServerCommand.sent) (.around (startedAround savedPair))).2 = server
      at first
  have told := getFileSize_copiedScreenshot
  rw [reached, ← getAlbumFileSize_size_iff] at told
  rw [← perform_of_sizeAsked sizeAsked_sizeQuestion] at told
  have answered := first.snoc (Prod.ext told rfl)
  rcases serverRun_sizes (serverInvariant_startedAround savedPair) answered history _ _ [] rfl
    ⟨none, none, none⟩ copiedScreenshot sizeAsked_sizeQuestion with ⟨before, _, sizes⟩
  refine ⟨history, _, before, sent, answered, (sizes 3).1.mp rfl, (sizes 3).2 ?_ rfl⟩
  rw [sent]
  exact filesPermitted_copyingCommands rfl trivial

end Capsrv
