import Capsrv.AlbumRequests
import Capsrv.Foundation.Recording

/-! # Requests with their accesses

The requests on albums, with what they access of the file system recorded.
Without the record they are the requests themselves.
-/

namespace Capsrv

open Service

/-- What a call of the file system layer names: a path, or a file that is open. -/
inductive FsAccess where
  | path (text : Text)
  | handle (file : FsPath)
deriving DecidableEq, Repr

/-- The access is to a mount. -/
def FsAccess.On (name : Text) : FsAccess → Prop
  | path text => ∃ subPath, Fs.getMountNameAndSubPath text = .ok (name, subPath)
  | handle file => file.mountName = name

abbrev RecordedService := Recorded Service FsAccess

namespace Recording

open Recorded

variable (cipher : PathCipher)

/-! ## Scans -/

/-- `ProcessImageDirectory`, with the directories it opens. -/
def processImageDirectory {τ : Type} (answers : ScanAnswers) (storageId : StorageId)
    (albumFileCallback : AlbumEntry → τ → τ × Bool) (outcome : τ) :
    Process RecordedService (Result × τ) := do
  let scan := scanImageDirectory cipher answers.reader storageId answers.stack albumFileCallback
    outcome
  record (scan.state.opened.map .path)
  pure (Capsrv.processImageDirectory cipher answers.reader storageId answers.stack
    albumFileCallback outcome)

def refreshCache (answers : ScanAnswers) (counts : ContentType → UInt64)
    (storageId : StorageId) : Process RecordedService Result :=
  rTry (verifyStorageId storageId) pure do
    let ensured ← lift (ensureMountState answers.mount storageId .mounted)
    rTry ensured pure do
      let scanned ← processImageDirectory cipher answers storageId refreshCallback counts
      lift (modifyManager fun manager =>
        { manager with cache := manager.cache.setAll storageId scanned.2 })
      pure .success

def countEntries (answers : ScanAnswers) (outCount : UInt64) (storageId : StorageId)
    (contentTypeFlags : UInt8) : Process RecordedService (Result × UInt64) :=
  rTry (verifyStorageId storageId) (fun result => pure (result, outCount)) do
    let ensured ← lift (ensureMountState answers.mount storageId .mounted)
    rTry ensured (fun result => pure (result, outCount)) do
      let manager := (← current).manager
      let scanned ← processImageDirectory cipher answers storageId
        (countCallback manager contentTypeFlags) 0
      pure (.success, scanned.2)

def listEntries (answers : ScanAnswers) (maxEntries : UInt64) (storageId : StorageId)
    (contentTypeFlags : UInt8) : Process RecordedService (Result × List AlbumEntry) := do
  let ensured ← lift (ensureMountState answers.mount storageId .mounted)
  rTry ensured (fun result => pure (result, [])) do
    let manager := (← current).manager
    let scanned ← processImageDirectory cipher answers storageId
      (listCallback manager contentTypeFlags maxEntries) []
    pure (.success, scanned.2)

/-! ## Files -/

def getFileSize (faults : SizeFaults) (fileId : AlbumFileId) :
    Process RecordedService (Result × Nat) := do
  let manager := (← current).manager
  rUnless (manager.writeReserve.isReserved fileId = false) (pure (albumFileNotFound.result, 0)) <|
  rTry (fileId.verify manager.settings) (fun result => pure (result, 0)) do
    let ensured ← lift (ensureMountState faults.mount fileId.storageId .mounted)
    rTry ensured (fun result => pure (result, 0)) <|
    match makeAlbumPath cipher manager.settings fileId with
    | .error result => pure (result, 0)
    | .ok path => do
        record [.path path]
        let fs := (← current).fs
        match fs.openFile faults.openFile path with
        | .error result => pure (result, 0)
        | .ok file => do
        record [.handle file]
        match fs.getFileSize faults.getFileSize file with
        | .error result => pure (result, 0)
        | .ok fileSize =>
            rUnless (fileSize ≤ getAllowedFileSize fileId.type manager.settings)
              (pure (albumFileNotFound.result, 0)) <|
            pure (.success, fileSize)

def deleteFile (faults : DeleteFaults) (fileId : AlbumFileId) :
    Process RecordedService Result := do
  let manager := (← current).manager
  rUnless (manager.readReserve.isReserved fileId = false)
    (pure albumDestinationAccessCorrupted.result) <|
  rUnless (manager.writeReserve.isReserved fileId = false) (pure albumFileNotFound.result) <|
  rTry (fileId.verify manager.settings) pure do
    let ensured ← lift (ensureMountState faults.mount fileId.storageId .mounted)
    rTry ensured pure <|
    match makeAlbumPath cipher manager.settings fileId with
    | .error result => pure result
    | .ok filePath => do
        record [.path filePath]
        let _ ← lift (callFs (FileSystem.deleteFile faults.deleteFile filePath))
        lift (modifyManager fun manager =>
          { manager with cache := manager.cache.decrement fileId.storageId fileId.type })
        pure .success

/-- The files of the loop are recorded in front of it. -/
def copyContent (faults : CopyFaults) (sourceFile : FsPath) (size : Nat)
    (destinationPath : Text) (destination : StorageId) (type : ContentType) :
    Process RecordedService Result := do
  let service ← current
  record [.path destinationPath]
  let created ← lift (callFs
    (createAlbumFileImpl service.isQuest faults.toCreateFaults destinationPath size))
  match created with
  | .error result => pure result
  | .ok destinationFile => do
      record [.handle sourceFile, .handle destinationFile]
      let copied ← lift (callFs (copyChunks faults service.manager.workMemorySize sourceFile
        destinationFile size size 0))
      if copied.isSuccess then do
        let _ ← lift (callFs (FileSystem.flushFile faults.flushFile destinationFile))
        lift (modifyManager fun manager =>
          { manager with cache := manager.cache.increment destination type })
        pure .success
      else do
        record [.path destinationPath]
        let _ ← lift (callFs (FileSystem.deleteFile faults.cleanUp destinationPath))
        pure copied

def copyMounted (faults : CopyFaults) (sourceId : AlbumFileId) (destination : StorageId) :
    Process RecordedService Result := do
  let service ← current
  let manager := service.manager
  let settings := manager.settings
  match makeAlbumPath cipher settings sourceId with
  | .error result => pure result
  | .ok sourcePath =>
  match makeAlbumPath cipher settings { sourceId with storageId := destination } with
  | .error result => pure result
  | .ok destinationPath => do
  record [.path sourcePath]
  match service.fs.openFile faults.openSource sourcePath with
  | .error result => pure result
  | .ok sourceFile => do
  record [.handle sourceFile]
  match service.fs.getFileSize faults.getFileSize sourceFile with
  | .error result => pure result
  | .ok size =>
      let type := sourceId.type
      rUnless (size ≤ getAllowedFileSize type settings) (pure albumFileNotFound.result) <|
      rUnless (manager.cache.getCount destination type < settings.getFileMaxCount destination type)
        (pure internalAlbumLimitationFileCountLimit.result) <|
      copyContent faults sourceFile size destinationPath destination type

def copyFile (faults : CopyFaults) (sourceId : AlbumFileId) (destination : StorageId) :
    Process RecordedService Result := do
  let manager := (← current).manager
  rUnless (manager.writeReserve.isReserved sourceId = false) (pure albumFileNotFound.result) <|
  rTry (sourceId.verify manager.settings) pure <|
  rTry (verifyStorageId destination) pure <|
  if destination = sourceId.storageId then pure .success
  else do
    let ensured ← lift (ensureMountState faults.mountSource sourceId.storageId .mounted)
    rTry ensured pure do
      let ensured ← lift (ensureMountState faults.mountDestination destination .mounted)
      rTry ensured pure <|
      copyMounted cipher faults sourceId destination

/-! ## Erasing the record -/

theorem erases_scan {τ β : Type} {answers : ScanAnswers} {storageId : StorageId}
    {albumFileCallback : AlbumEntry → τ → τ × Bool} {outcome : τ}
    {next : Result × τ → Process RecordedService β} {rest : Result × τ → Process Service β}
    (erases : ∀ scanned, Erases (next scanned) (rest scanned)) :
    Erases (processImageDirectory cipher answers storageId albumFileCallback outcome >>= next)
      (rest (Capsrv.processImageDirectory cipher answers.reader storageId answers.stack
        albumFileCallback outcome)) :=
  fun recorded => erases _ { recorded with events := recorded.events ++ _ }

theorem erases_refreshCache (answers : ScanAnswers) (counts : ContentType → UInt64)
    (storageId : StorageId) :
    Erases (refreshCache cipher answers counts storageId)
      (Capsrv.refreshCache answers.mount cipher answers.reader answers.stack counts
        storageId) := by
  refine Erases.ite ?_ (erases_pure _)
  refine (erases_lift _).bind fun ensured => Erases.ite ?_ (erases_pure _)
  exact erases_scan cipher fun scanned => (erases_lift _).bind fun _ => erases_pure _

theorem erases_countEntries (answers : ScanAnswers) (outCount : UInt64) (storageId : StorageId)
    (contentTypeFlags : UInt8) :
    Erases (countEntries cipher answers outCount storageId contentTypeFlags)
      (Capsrv.countEntries answers.mount cipher answers.reader answers.stack outCount storageId
        contentTypeFlags) := by
  refine Erases.ite ?_ (erases_pure _)
  refine (erases_lift _).bind fun ensured => Erases.ite ?_ (erases_pure _)
  exact (erases_lift _).bind fun service => erases_scan cipher fun scanned => erases_pure _

theorem erases_listEntries (answers : ScanAnswers) (maxEntries : UInt64) (storageId : StorageId)
    (contentTypeFlags : UInt8) :
    Erases (listEntries cipher answers maxEntries storageId contentTypeFlags)
      (Capsrv.listEntries answers.mount cipher answers.reader answers.stack maxEntries storageId
        contentTypeFlags) := by
  refine (erases_lift _).bind fun ensured => Erases.ite ?_ (erases_pure _)
  exact (erases_lift _).bind fun service => erases_scan cipher fun scanned => erases_pure _

theorem erases_getFileSize (faults : SizeFaults) (fileId : AlbumFileId) :
    Erases (getFileSize cipher faults fileId) (Capsrv.getFileSize cipher faults fileId) := by
  refine (erases_lift _).bind fun service => Erases.ite ?_ (erases_pure _)
  refine Erases.ite ?_ (erases_pure _)
  refine (erases_lift _).bind fun ensured => Erases.ite ?_ (erases_pure _)
  cases makeAlbumPath cipher service.manager.settings fileId with
  | error result => exact erases_pure _
  | ok path =>
      refine Erases.record_bind ((erases_lift _).bind fun service => ?_)
      dsimp only
      cases service.fs.openFile faults.openFile path with
      | error result => exact erases_pure _
      | ok file =>
          apply Erases.record_bind
          dsimp only
          cases service.fs.getFileSize faults.getFileSize file with
          | error result => exact erases_pure _
          | ok fileSize => exact Erases.ite (erases_pure _) (erases_pure _)

theorem erases_deleteFile (faults : DeleteFaults) (fileId : AlbumFileId) :
    Erases (deleteFile cipher faults fileId) (Capsrv.deleteFile cipher faults fileId) := by
  refine (erases_lift _).bind fun service => Erases.ite ?_ (erases_pure _)
  refine Erases.ite ?_ (erases_pure _)
  refine Erases.ite ?_ (erases_pure _)
  refine (erases_lift _).bind fun ensured => Erases.ite ?_ (erases_pure _)
  cases makeAlbumPath cipher service.manager.settings fileId with
  | error result => exact erases_pure _
  | ok filePath =>
      apply Erases.record_bind
      exact (erases_lift _).bind fun _ => (erases_lift _).bind fun _ => erases_pure _

theorem erases_copyContent (faults : CopyFaults) (sourceFile : FsPath) (size : Nat)
    (destinationPath : Text) (destination : StorageId) (type : ContentType) :
    Erases (copyContent faults sourceFile size destinationPath destination type)
      (Capsrv.copyContent faults sourceFile size destinationPath destination type) := by
  refine (erases_lift _).bind fun service => Erases.record_bind ?_
  refine (erases_lift _).bind fun created => ?_
  cases created with
  | error result => exact erases_pure _
  | ok destinationFile =>
      refine Erases.record_bind ((erases_lift _).bind fun copied => Erases.ite ?_ ?_)
      · exact (erases_lift _).bind fun _ => (erases_lift _).bind fun _ => erases_pure _
      · exact Erases.record_bind ((erases_lift _).bind fun _ => erases_pure _)

theorem erases_copyMounted (faults : CopyFaults) (sourceId : AlbumFileId)
    (destination : StorageId) :
    Erases (copyMounted cipher faults sourceId destination)
      (Capsrv.copyMounted cipher faults sourceId destination) := by
  refine (erases_lift _).bind fun service => ?_
  dsimp only
  cases makeAlbumPath cipher service.manager.settings sourceId with
  | error result => exact erases_pure _
  | ok sourcePath =>
  dsimp only
  cases makeAlbumPath cipher service.manager.settings
      { sourceId with storageId := destination } with
  | error result => exact erases_pure _
  | ok destinationPath =>
  apply Erases.record_bind
  dsimp only
  cases service.fs.openFile faults.openSource sourcePath with
  | error result => exact erases_pure _
  | ok sourceFile =>
  apply Erases.record_bind
  dsimp only
  cases service.fs.getFileSize faults.getFileSize sourceFile with
  | error result => exact erases_pure _
  | ok size =>
      refine Erases.ite (Erases.ite ?_ (erases_pure _)) (erases_pure _)
      exact erases_copyContent faults sourceFile size destinationPath destination sourceId.type

theorem erases_copyFile (faults : CopyFaults) (sourceId : AlbumFileId)
    (destination : StorageId) :
    Erases (copyFile cipher faults sourceId destination)
      (Capsrv.copyFile cipher faults sourceId destination) := by
  refine (erases_lift _).bind fun service => Erases.ite ?_ (erases_pure _)
  refine Erases.ite (Erases.ite ?_ (erases_pure _)) (erases_pure _)
  apply Erases.ite (erases_pure _)
  refine (erases_lift _).bind fun ensured => Erases.ite ?_ (erases_pure _)
  refine (erases_lift _).bind fun ensured => Erases.ite ?_ (erases_pure _)
  exact erases_copyMounted cipher faults sourceId destination

end Recording

/-! ## Recorded runs -/

/-- The request with its record. One that makes no access to a path or a file
has nothing to record. -/
def AlbumRequest.performRecorded (cipher : PathCipher) :
    AlbumRequest → Process RecordedService Result
  | refreshCache answers counts storageId =>
      Recording.refreshCache cipher answers counts storageId
  | countEntries answers outCount storageId contentTypeFlags => do
      pure (← Recording.countEntries cipher answers outCount storageId contentTypeFlags).1
  | listEntries answers maxEntries storageId contentTypeFlags => do
      pure (← Recording.listEntries cipher answers maxEntries storageId contentTypeFlags).1
  | getFileSize faults fileId => do pure (← Recording.getFileSize cipher faults fileId).1
  | deleteFile faults fileId => Recording.deleteFile cipher faults fileId
  | copyFile faults sourceId destination => Recording.copyFile cipher faults sourceId destination
  | request => Recorded.lift (request.perform cipher)

theorem AlbumRequest.erases_performRecorded (cipher : PathCipher) (request : AlbumRequest) :
    Recorded.Erases (request.performRecorded cipher) (request.perform cipher) := by
  open Recorded Recording in
  cases request with
  | refreshCache answers counts storageId =>
      exact erases_refreshCache cipher answers counts storageId
  | countEntries answers outCount storageId contentTypeFlags =>
      exact (erases_countEntries cipher answers outCount storageId contentTypeFlags).bind
        fun _ => erases_pure _
  | listEntries answers maxEntries storageId contentTypeFlags =>
      exact (erases_listEntries cipher answers maxEntries storageId contentTypeFlags).bind
        fun _ => erases_pure _
  | getFileSize faults fileId =>
      exact (erases_getFileSize cipher faults fileId).bind fun _ => erases_pure _
  | deleteFile faults fileId => exact erases_deleteFile cipher faults fileId
  | copyFile faults sourceId destination =>
      exact erases_copyFile cipher faults sourceId destination
  | _ => exact erases_lift _

/-- The record changes nothing about a run. -/
theorem AlbumRequest.erases_run (cipher : PathCipher) (requests : List AlbumRequest) :
    Recorded.Erases (Process.run (performRecorded cipher) requests)
      (Process.run (perform cipher) requests) :=
  Recorded.erases_run (erases_performRecorded cipher) requests

end Capsrv
