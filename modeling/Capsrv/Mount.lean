import Capsrv.AlbumManager

/-! # Mounting the album storages

`MountAlbum`, `UnmountAlbum` and the requests that move the state of a storage.
-/

namespace Capsrv

open Service

/-- `MountAlbum`. Mounting a host directory as the SD card is not implemented. -/
def mountAlbum (fault : Fault) (storageId : StorageId) : Process Service Result := do
  let service ← Process.get
  if storageId = .sd ∧ service.manager.settings.getCustomImageDirectoryPath ≠ none then
    Process.abort
  else
    rTry (verifyStorageId storageId) pure do
      let result ← callFs (FileSystem.mountImageDirectory fault (mountName storageId))
      if Fs.mountNameAlreadyExists.includes result || Fs.allocationFailure.includes result then
        Process.abort
      else if Fs.sdCardAccessFailed.includes result then pure albumStorageUnavailable.result
      else if Fs.pathAlreadyExists.includes result then pure albumPathUnavailable.result
      else if result.isFailure then pure albumError.result
      else pure .success

/-- `fs::Unmount`. -/
def unmount (name : Text) : Process Service Unit := do
  let result ← callFs (FileSystem.unmount name)
  if result.isSuccess then pure () else Process.abort

def unmountAlbum (storageId : StorageId) : Process Service Result := do
  let service ← Process.get
  if storageId = .sd ∧ service.manager.settings.getCustomImageDirectoryPath ≠ none then do
    unmount (ascii "SD")
    pure .success
  else
    rTry (verifyStorageId storageId) pure do
      unmount (mountName storageId)
      pure .success

/-- `MovieController::CloseStreamsByStorageId`. Closing a stream is not
implemented, and no slot is ever used. -/
def closeStreamsByStorageId (_storageId : StorageId) : Process Service Unit := do
  let controller := (← Process.get).manager.movieController
  if (∃ slot, controller.outputStreamStatus slot ≠ .unused) ∨
      ∃ slot, controller.inputStreamStatus slot ≠ .unused then
    Process.abort
  else pure ()

/-! ## The requests -/

/-- What `MountImageDirectory` and `EnsureMountState` do with an available
storage. -/
def tryMount (fault : Fault) (storageId : StorageId) : Process Service Result := do
  let result ← mountAlbum fault storageId
  let status : MountStatus :=
    if result.isSuccess then ⟨.mounted, .success⟩
    else if albumPathUnavailable.includes result then ⟨.unmounted, albumPathNotFound.result⟩
    else if albumUnexpected.includes result then ⟨.unmounted, albumIsNotMounted.result⟩
    else ⟨.available, albumIsNotMounted.result⟩
  modifyManager (·.setMountStatus storageId status)
  pure status.lastError

def mountImageDirectory (fault : Fault) (storageId : StorageId) : Process Service Result :=
  rTry (verifyStorageId storageId) pure do
    let status := (← Process.get).manager.mountStatus storageId
    rUnless (status.state = .available) (pure status.lastError) <|
    tryMount fault storageId

def ensureMountState (fault : Fault) (storageId : StorageId) (mountState : MountState) :
    Process Service Result :=
  rTry (verifyStorageId storageId) pure do
    let status := (← Process.get).manager.mountStatus storageId
    if status.state ≠ .available then
      if status.lastError.isSuccess then pure .success
      else if status.lastError.value ≠ 206 then pure status.lastError
      else if albumPathUnavailable.includes status.lastError then pure status.lastError
      else if mountState ≠ .mounted then pure albumPathUnavailable.result
      else pure albumUnknown73.result
    else tryMount fault storageId

/-- What `CloseImageDirectory` and `UnmountImageDirectory` have in common: a
mounted storage is unmounted, and `state` is where the storage ends. -/
def leaveImageDirectory (state : MountState) (storageId : StorageId) : Process Service Result :=
  rTry (verifyStorageId storageId) pure do
    let status := (← Process.get).manager.mountStatus storageId
    let unmounted ←
      if status.state = .mounted then do
        closeStreamsByStorageId storageId
        unmountAlbum storageId
      else pure .success
    rTry unmounted pure do
      modifyManager (·.setMountStatus storageId ⟨state, albumIsNotMounted.result⟩)
      pure .success

def closeImageDirectory (storageId : StorageId) : Process Service Result :=
  leaveImageDirectory .unmounted storageId

def unmountImageDirectory (storageId : StorageId) : Process Service Result :=
  leaveImageDirectory .available storageId

/-! ## Start and end -/

/-- The mounting of the save data in `AlbumManager::Initialize`. The first fault
is that of creating it, the second that of mounting it. -/
def mountSaveData (createFault mountFault : Fault) : Process Service Unit := do
  if createFault.result.isFailure && !Fs.pathAlreadyExists.includes createFault.result then
    Process.abort
  else
    let mounted ← callFs (FileSystem.mountSystemSaveData mountFault (ascii "TM"))
    if mounted.isSuccess then pure () else Process.abort

/-- `AlbumManager::Initialize`. -/
def albumManagerInitialize (settings : AlbumSettings) (createFault mountFault : Fault) :
    Process Service Unit := do
  modifyManager fun manager => { manager with settings }
  if .version4 ≤ (← Process.get).hosVersion then
    mountSaveData createFault mountFault
  modifyManager fun manager =>
    { manager with
      nandMountStatus := {}
      sdMountStatus := {}
      readReserve := .empty
      writeReserve := .empty }

/-- The part of `AlbumManager::Exit` that leaves one storage. -/
def exitStorage (storageId : StorageId) : Process Service Unit := do
  closeStreamsByStorageId storageId
  if ((← Process.get).manager.mountStatus storageId).state = .mounted then
    let _ ← unmountAlbum storageId
  modifyManager (·.setMountStatus storageId {})

/-- `AlbumManager::Exit`. -/
def albumManagerExit : Process Service Unit := do
  exitStorage .nand
  exitStorage .sd
  unmount (ascii "TM")

end Capsrv
