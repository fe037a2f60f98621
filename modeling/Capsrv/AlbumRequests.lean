import Capsrv.AlbumFile
import Capsrv.AlbumListing
import Capsrv.FileIdGenerator

/-! # The other requests on albums

The requests of `AlbumManager` that count, list, measure and load. Several of
them end where the storage has been mounted.
-/

namespace Capsrv

open Service

/-- `VerifyContentType`. -/
def verifyContentType (type : ContentType) (settings : AlbumSettings) : Result :=
  if settings.isTypeSupported type then .success else albumInvalidFileContents.result

/-! ## Counts -/

/-- The `AlbumFileCallback` of `RefreshCache`, on its array of counts. -/
def refreshCallback (entry : AlbumEntry) (counts : ContentType → UInt64) :
    (ContentType → UInt64) × Bool :=
  let type := entry.fileId.type
  (if contentTypeValid type then Function.update counts type (counts type + 1) else counts, false)

/-- The four counts of a storage. -/
def AlbumManagerCache.setAll (cache : AlbumManagerCache) (storageId : StorageId)
    (counts : ContentType → UInt64) : AlbumManagerCache :=
  (((cache.set storageId .screenshot (counts .screenshot)).set storageId .movie
    (counts .movie)).set storageId .extraScreenshot (counts .extraScreenshot)).set storageId
    .extraMovie (counts .extraMovie)

/-- `AlbumManager::RefreshCache`, with what was in its array of counts before.
The result of the scan is not looked at. -/
def refreshCache (fault : Fault) (cipher : PathCipher) (reader : DirectoryReader)
    (stack : Nat → Block) (counts : ContentType → UInt64) (storageId : StorageId) :
    Process Service Result :=
  rTry (verifyStorageId storageId) pure do
    let ensured ← ensureMountState fault storageId .mounted
    rTry ensured pure do
      let scanned := processImageDirectory cipher reader storageId stack refreshCallback counts
      modifyManager fun manager =>
        { manager with cache := manager.cache.setAll storageId scanned.2 }
      pure .success

/-- `AlbumManager::GetCache`. -/
def getCache (storageId : StorageId) (type : ContentType) : Process Service (Result × UInt64) := do
  let manager := (← Process.get).manager
  rTry (verifyStorageId storageId) (fun result => pure (result, 0)) <|
  rTry (verifyContentType type manager.settings) (fun result => pure (result, 0)) <|
  pure (.success, manager.cache.count storageId type)

/-- `AlbumManager::CanSave`. The number of files is not looked at. -/
def canSave (storageId : StorageId) (type : ContentType) (_count : UInt64) :
    Process Service Result := do
  let manager := (← Process.get).manager
  rTry (verifyStorageId storageId) pure <|
  rTry (verifyContentType type manager.settings) pure <|
  rUnless (manager.cache.getCount storageId type < manager.settings.getFileMaxCount storageId type)
    (pure internalAlbumLimitationFileCountLimit.result) <|
  pure .success

/-- The `AlbumFileCallback` of `CountEntries`, on the count. -/
def countCallback (manager : AlbumManager) (contentTypeFlags : UInt8) (entry : AlbumEntry)
    (count : UInt64) : UInt64 × Bool :=
  (if isListed manager contentTypeFlags entry then count + 1 else count, false)

/-- `AlbumManager::CountEntries`. The output is written on success only, and the
result of the scan is not looked at. -/
def countEntries (fault : Fault) (cipher : PathCipher) (reader : DirectoryReader)
    (stack : Nat → Block) (outCount : UInt64) (storageId : StorageId)
    (contentTypeFlags : UInt8) : Process Service (Result × UInt64) :=
  rTry (verifyStorageId storageId) (fun result => pure (result, outCount)) do
    let ensured ← ensureMountState fault storageId .mounted
    rTry ensured (fun result => pure (result, outCount)) do
      let manager := (← Process.get).manager
      let scanned := processImageDirectory cipher reader storageId stack
        (countCallback manager contentTypeFlags) 0
      pure (.success, scanned.2)

/-! ## Requests that only mount -/

/-- `AlbumManager::ListApplicationEntries`: no entry is listed. -/
def listApplicationEntries (fault : Fault) (storageId : StorageId) :
    Process Service (Result × UInt64) := do
  let ensured ← ensureMountState fault storageId .mounted
  rTry ensured (fun result => pure (result, 0)) <|
  pure (.success, 0)

/-- `AlbumManager::GetAlbumUsage`: the usage stays zero. -/
def getAlbumUsage (fault : Fault) (storageId : StorageId) : Process Service Result := do
  let ensured ← ensureMountState fault storageId .mounted
  rTry ensured pure <|
  pure .success

/-- `AlbumManager::GetRequiredStorageSpaceSizeToCopyAll`: the size is zero,
whether the storages are the same or not. -/
def getRequiredStorageSpaceSizeToCopyAll (sourceFault destinationFault : Fault)
    (source destination : StorageId) : Process Service (Result × UInt64) := do
  let ensured ← ensureMountState sourceFault source .mounted
  rTry ensured (fun result => pure (result, 0)) do
    let ensured ← ensureMountState destinationFault destination .mounted
    rTry ensured (fun result => pure (result, 0)) <|
    pure (.success, 0)

/-! ## Pictures -/

/-- What `LoadJpeg` and `LoadJpegThumbnail` have in common. The buffer stays
zero, with a size of zero. -/
def loadPicture (fault : Fault) (fileId : AlbumFileId) : Process Service Result := do
  let manager := (← Process.get).manager
  rUnless (manager.writeReserve.isReserved fileId = false) (pure albumFileNotFound.result) <|
  rTry (fileId.verify manager.settings) pure do
    let ensured ← ensureMountState fault fileId.storageId .mounted
    rTry ensured pure <|
    rUnless (manager.settings.isTypeSupported fileId.type) (pure albumInvalidFileContents.result) <|
    pure .success

def loadJpeg (fault : Fault) (fileId : AlbumFileId) : Process Service Result :=
  loadPicture fault fileId

def loadImage (fault : Fault) (fileId : AlbumFileId) : Process Service Result :=
  loadJpeg fault fileId

def loadJpegThumbnail (fault : Fault) (fileId : AlbumFileId) : Process Service Result :=
  loadPicture fault fileId

def loadThumbnailImage (fault : Fault) (fileId : AlbumFileId) : Process Service Result :=
  loadJpegThumbnail fault fileId

/-! ## Sizes -/

structure SizeFaults where
  mount : Fault
  openFile : Fault
  getFileSize : Fault

/-- `AlbumManager::GetFileSize`. -/
def getFileSize (cipher : PathCipher) (faults : SizeFaults) (fileId : AlbumFileId) :
    Process Service (Result × Nat) := do
  let manager := (← Process.get).manager
  rUnless (manager.writeReserve.isReserved fileId = false) (pure (albumFileNotFound.result, 0)) <|
  rTry (fileId.verify manager.settings) (fun result => pure (result, 0)) do
    let ensured ← ensureMountState faults.mount fileId.storageId .mounted
    rTry ensured (fun result => pure (result, 0)) <|
    match makeAlbumPath cipher manager.settings fileId with
    | .error result => pure (result, 0)
    | .ok path => do
        let fs := (← Process.get).fs
        match fs.openFile faults.openFile path with
        | .error result => pure (result, 0)
        | .ok file =>
        match fs.getFileSize faults.getFileSize file with
        | .error result => pure (result, 0)
        | .ok fileSize =>
            rUnless (fileSize ≤ getAllowedFileSize fileId.type manager.settings)
              (pure (albumFileNotFound.result, 0)) <|
            pure (.success, fileSize)

/-! ## All of them -/

/-- What the file system answers a scan, and what is on its stack. -/
structure ScanAnswers where
  mount : Fault
  reader : DirectoryReader
  stack : Nat → Block

/-- The requests on albums, with what the system answers to their calls. -/
inductive AlbumRequest where
  | mount (request : MountRequest)
  | refreshCache (answers : ScanAnswers) (counts : ContentType → UInt64) (storageId : StorageId)
  | getCache (storageId : StorageId) (type : ContentType)
  | canSave (storageId : StorageId) (type : ContentType) (count : UInt64)
  | countEntries (answers : ScanAnswers) (outCount : UInt64) (storageId : StorageId)
      (contentTypeFlags : UInt8)
  | listEntries (answers : ScanAnswers) (maxEntries : UInt64) (storageId : StorageId)
      (contentTypeFlags : UInt8)
  | listApplicationEntries (fault : Fault) (storageId : StorageId)
  | getFileSize (faults : SizeFaults) (fileId : AlbumFileId)
  | loadJpeg (fault : Fault) (fileId : AlbumFileId)
  | loadImage (fault : Fault) (fileId : AlbumFileId)
  | loadJpegThumbnail (fault : Fault) (fileId : AlbumFileId)
  | loadThumbnailImage (fault : Fault) (fileId : AlbumFileId)
  | deleteFile (faults : DeleteFaults) (fileId : AlbumFileId)
  | copyFile (faults : CopyFaults) (sourceId : AlbumFileId) (destination : StorageId)
  | getAlbumUsage (fault : Fault) (storageId : StorageId)
  | getRequiredStorageSpaceSizeToCopyAll (sourceFault destinationFault : Fault)
      (source destination : StorageId)
  | getAutoSavingStorage (answers : SavingAnswers) (type : ContentType)

/-- The result of the request; what else it returns is left out. -/
def AlbumRequest.perform (cipher : PathCipher) : AlbumRequest → Process Service Result
  | mount request => request.perform
  | refreshCache answers counts storageId =>
      Capsrv.refreshCache answers.mount cipher answers.reader answers.stack counts storageId
  | getCache storageId type => do pure (← Capsrv.getCache storageId type).1
  | canSave storageId type count => Capsrv.canSave storageId type count
  | countEntries answers outCount storageId contentTypeFlags => do
      pure (← Capsrv.countEntries answers.mount cipher answers.reader answers.stack outCount
        storageId contentTypeFlags).1
  | listEntries answers maxEntries storageId contentTypeFlags => do
      pure (← Capsrv.listEntries answers.mount cipher answers.reader answers.stack maxEntries
        storageId contentTypeFlags).1
  | listApplicationEntries fault storageId => do
      pure (← Capsrv.listApplicationEntries fault storageId).1
  | getFileSize faults fileId => do pure (← Capsrv.getFileSize cipher faults fileId).1
  | loadJpeg fault fileId => Capsrv.loadJpeg fault fileId
  | loadImage fault fileId => Capsrv.loadImage fault fileId
  | loadJpegThumbnail fault fileId => Capsrv.loadJpegThumbnail fault fileId
  | loadThumbnailImage fault fileId => Capsrv.loadThumbnailImage fault fileId
  | deleteFile faults fileId => Capsrv.deleteFile cipher faults fileId
  | copyFile faults sourceId destination => Capsrv.copyFile cipher faults sourceId destination
  | getAlbumUsage fault storageId => Capsrv.getAlbumUsage fault storageId
  | getRequiredStorageSpaceSizeToCopyAll sourceFault destinationFault source destination => do
      pure (← Capsrv.getRequiredStorageSpaceSizeToCopyAll sourceFault destinationFault source
        destination).1
  | getAutoSavingStorage answers type => do
      match ← Capsrv.getAutoSavingStorage answers type with
      | .error result => pure result
      | .ok _ => pure .success

end Capsrv
