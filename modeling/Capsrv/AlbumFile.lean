import Capsrv.AlbumPath
import Capsrv.Mount

/-! # Deleting and copying album files

`AlbumManager::DeleteFile` and `AlbumManager::CopyFile`. Closing a file has no
effect on it, and nothing waits for a flush.
-/

namespace Capsrv

open Service

/-! ## Deleting -/

structure DeleteFaults where
  mount : Fault
  deleteFile : Fault

/-- `AlbumManager::DeleteFile`. The result of the file system is not looked at. -/
def deleteFile (cipher : PathCipher) (faults : DeleteFaults) (fileId : AlbumFileId) :
    Process Service Result := do
  let manager := (← Process.get).manager
  rUnless (manager.readReserve.isReserved fileId = false)
    (pure albumDestinationAccessCorrupted.result) <|
  rUnless (manager.writeReserve.isReserved fileId = false) (pure albumFileNotFound.result) <|
  rTry (fileId.verify manager.settings) pure do
    let ensured ← ensureMountState faults.mount fileId.storageId .mounted
    rTry ensured pure <|
    match makeAlbumPath cipher manager.settings fileId with
    | .error result => pure result
    | .ok filePath => do
        let _ ← callFs (FileSystem.deleteFile faults.deleteFile filePath)
        modifyManager fun manager =>
          { manager with cache := manager.cache.decrement fileId.storageId fileId.type }
        pure .success

/-! ## Creating -/

/-- The faults of `CreateAlbumFileImpl`; the last is that of undoing it. -/
structure CreateFaults where
  ensureParent : Fault
  createFile : Fault
  openFile : Fault
  setFileSize : Fault
  cleanUp : Fault

/-- `CreateAlbumFileImpl` on a file that is there: its size is overwritten. -/
def openExistingFile (faults : CreateFaults) (path : Text) (size : Nat) (fs : FileSystem) :
    Except Result FsPath × FileSystem :=
  match fs.openFile faults.openFile path with
  | .error result => (.error result, fs)
  | .ok file =>
      let resized := fs.setFileSize faults.setFileSize file size
      rTry resized.1 (fun result => (.error result, resized.2))
      (.ok file, resized.2)

/-- `CreateAlbumFileImpl` on a file it has created: that it cannot be opened
deletes it again. -/
def openCreatedFile (faults : CreateFaults) (path : Text) (fs : FileSystem) :
    Except Result FsPath × FileSystem :=
  match fs.openFile faults.openFile path with
  | .error result => (.error result, (fs.deleteFile faults.cleanUp path).2)
  | .ok file => (.ok file, fs)

def createAlbumFileImpl (isQuest : Bool) (faults : CreateFaults) (path : Text) (size : Nat)
    (fs : FileSystem) : Except Result FsPath × FileSystem :=
  rUnless (isQuest = false) (.error albumIsFull.result, fs) <|
  rTry (fs.ensureParentDirectoryRecursively faults.ensureParent path)
    (fun result => (.error result, fs)) <|
  let created := fs.createFile faults.createFile path size
  if Fs.pathAlreadyExists.includes created.1 then
    openExistingFile faults path size created.2
  else
    rTry created.1 (fun result => (.error result, created.2)) <|
    openCreatedFile faults path created.2

/-! ## Copying -/

/-- The faults of `CopyFile`, those of a chunk by its offset. -/
structure CopyFaults extends CreateFaults where
  mountSource : Fault
  mountDestination : Fault
  openSource : Fault
  getFileSize : Fault
  readFile : Nat → Fault
  writeFile : Nat → Fault
  flushFile : Fault

/-- The loop of `CopyFile`. A chunk is never empty, so that `size` rounds are
more than enough. -/
def copyChunks (faults : CopyFaults) (workMemorySize : Nat) (source destination : FsPath)
    (size : Nat) : (rounds offset : Nat) → FileSystem → Result × FileSystem
  | 0, _, fs => (.success, fs)
  | rounds + 1, offset, fs =>
      if offset < size then
        match fs.readFile (faults.readFile offset) source offset workMemorySize with
        | .error result => (result, fs)
        | .ok data =>
            let written := fs.writeFile (faults.writeFile offset) destination offset data
            rTry written.1 (·, written.2) <|
            copyChunks faults workMemorySize source destination size rounds
              (offset + data.length) written.2
      else (.success, fs)

/-- `CopyFile` from the creation of the destination on. -/
def copyContent (faults : CopyFaults) (sourceFile : FsPath) (size : Nat)
    (destinationPath : Text) (destination : StorageId) (type : ContentType) :
    Process Service Result := do
  let service ← Process.get
  let created ← callFs
    (createAlbumFileImpl service.isQuest faults.toCreateFaults destinationPath size)
  match created with
  | .error result => pure result
  | .ok destinationFile => do
      let copied ← callFs (copyChunks faults service.manager.workMemorySize sourceFile
        destinationFile size size 0)
      if copied.isSuccess then do
        let _ ← callFs (FileSystem.flushFile faults.flushFile destinationFile)
        modifyManager fun manager =>
          { manager with cache := manager.cache.increment destination type }
        pure .success
      else do
        let _ ← callFs (FileSystem.deleteFile faults.cleanUp destinationPath)
        pure copied

/-- `CopyFile` from the making of the paths on. -/
def copyMounted (cipher : PathCipher) (faults : CopyFaults) (sourceId : AlbumFileId)
    (destination : StorageId) : Process Service Result := do
  let service ← Process.get
  let manager := service.manager
  let settings := manager.settings
  match makeAlbumPath cipher settings sourceId with
  | .error result => pure result
  | .ok sourcePath =>
  match makeAlbumPath cipher settings { sourceId with storageId := destination } with
  | .error result => pure result
  | .ok destinationPath =>
  match service.fs.openFile faults.openSource sourcePath with
  | .error result => pure result
  | .ok sourceFile =>
  match service.fs.getFileSize faults.getFileSize sourceFile with
  | .error result => pure result
  | .ok size =>
      let type := sourceId.type
      rUnless (size ≤ getAllowedFileSize type settings) (pure albumFileNotFound.result) <|
      rUnless (manager.cache.getCount destination type < settings.getFileMaxCount destination type)
        (pure internalAlbumLimitationFileCountLimit.result) <|
      copyContent faults sourceFile size destinationPath destination type

/-- `AlbumManager::CopyFile`. -/
def copyFile (cipher : PathCipher) (faults : CopyFaults) (sourceId : AlbumFileId)
    (destination : StorageId) : Process Service Result := do
  let manager := (← Process.get).manager
  rUnless (manager.writeReserve.isReserved sourceId = false) (pure albumFileNotFound.result) <|
  rTry (sourceId.verify manager.settings) pure <|
  rTry (verifyStorageId destination) pure <|
  if destination = sourceId.storageId then pure .success
  else do
    let ensured ← ensureMountState faults.mountSource sourceId.storageId .mounted
    rTry ensured pure do
      let ensured ← ensureMountState faults.mountDestination destination .mounted
      rTry ensured pure <|
      copyMounted cipher faults sourceId destination

/-! ## Requests -/

/-- The requests that change album files. -/
inductive FileRequest where
  | deleteFile (faults : DeleteFaults) (fileId : AlbumFileId)
  | copyFile (faults : CopyFaults) (sourceId : AlbumFileId) (destination : StorageId)

def FileRequest.perform (cipher : PathCipher) : FileRequest → Process Service Result
  | deleteFile faults fileId => Capsrv.deleteFile cipher faults fileId
  | copyFile faults sourceId destination => Capsrv.copyFile cipher faults sourceId destination

end Capsrv
