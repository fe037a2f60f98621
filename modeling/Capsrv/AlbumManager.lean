import Capsrv.AlbumTables
import Capsrv.FileSystem
import Capsrv.Foundation.Process

/-! # The album manager

The state of `AlbumManager`, and with it the state of the service: the manager,
the file system layer under it and the environment it runs in.
-/

namespace Capsrv

structure MountStatus where
  state : MountState := .unmounted
  lastError : Result := albumIsNotMounted.result
deriving DecidableEq, Repr

inductive StreamSlotStatus where
  | unused
deriving DecidableEq, Repr

structure MovieController where
  outputStreamStatus : Fin 4 → StreamSlotStatus
  inputStreamStatus : Fin 2 → StreamSlotStatus

/-- The manager has been given its work memory. What is in that memory between
two requests is never read. -/
structure AlbumManager where
  workMemorySize : Nat
  workMemory : 0 < workMemorySize
  nandMountStatus : MountStatus
  sdMountStatus : MountStatus
  cache : AlbumManagerCache
  readReserve : AlbumReserve
  writeReserve : AlbumReserve
  settings : AlbumSettings
  movieController : MovieController

namespace AlbumManager

/-- `AlbumManager::AlbumManager`, with the memory the server gives it. -/
def constructed (settings : AlbumSettings) : AlbumManager where
  workMemorySize := 0x51000
  workMemory := by decide
  nandMountStatus := {}
  sdMountStatus := {}
  cache := ⟨fun _ _ => 0⟩
  readReserve := .empty
  writeReserve := .empty
  settings := settings
  movieController := ⟨fun _ => .unused, fun _ => .unused⟩

/-- The reference each request takes to the status of its storage. -/
def mountStatus (manager : AlbumManager) (storageId : StorageId) : MountStatus :=
  if storageId = .nand then manager.nandMountStatus else manager.sdMountStatus

def setMountStatus (manager : AlbumManager) (storageId : StorageId) (status : MountStatus) :
    AlbumManager :=
  if storageId = .nand then { manager with nandMountStatus := status }
  else { manager with sdMountStatus := status }

section

variable (manager : AlbumManager) (storageId : StorageId) (status : MountStatus)

@[simp] theorem mountStatus_setMountStatus :
    (manager.setMountStatus storageId status).mountStatus storageId = status := by
  by_cases nand : storageId = .nand <;> simp [setMountStatus, mountStatus, nand]

theorem mountStatus_setMountStatus_of_ne {other : StorageId} (valid : storageValid storageId)
    (otherValid : storageValid other) (different : other ≠ storageId) :
    (manager.setMountStatus storageId status).mountStatus other =
      manager.mountStatus other := by
  simp only [storageValid, Bool.or_eq_true, decide_eq_true_eq] at valid otherValid
  have distinct : StorageId.sd ≠ .nand := by decide
  rcases valid with rfl | rfl <;> rcases otherValid with rfl | rfl
  · exact absurd rfl different
  · simp [setMountStatus, mountStatus, distinct]
  · simp [setMountStatus, mountStatus, distinct]
  · exact absurd rfl different

@[simp] theorem setMountStatus_cache :
    (manager.setMountStatus storageId status).cache = manager.cache := by
  unfold setMountStatus
  split <;> rfl

@[simp] theorem setMountStatus_readReserve :
    (manager.setMountStatus storageId status).readReserve = manager.readReserve := by
  unfold setMountStatus
  split <;> rfl

@[simp] theorem setMountStatus_writeReserve :
    (manager.setMountStatus storageId status).writeReserve = manager.writeReserve := by
  unfold setMountStatus
  split <;> rfl

@[simp] theorem setMountStatus_settings :
    (manager.setMountStatus storageId status).settings = manager.settings := by
  unfold setMountStatus
  split <;> rfl

@[simp] theorem setMountStatus_workMemorySize :
    (manager.setMountStatus storageId status).workMemorySize = manager.workMemorySize := by
  unfold setMountStatus
  split <;> rfl

@[simp] theorem setMountStatus_movieController :
    (manager.setMountStatus storageId status).movieController = manager.movieController := by
  unfold setMountStatus
  split <;> rfl

end

end AlbumManager

/-! ## Firmware versions -/

/-- `hos::Version`. -/
structure HosVersion where
  value : UInt32
deriving DecidableEq, Repr

namespace HosVersion

instance : LE HosVersion := ⟨fun version other => version.value ≤ other.value⟩

instance (version other : HosVersion) : Decidable (version ≤ other) :=
  inferInstanceAs (Decidable (version.value ≤ other.value))

/-- `ATMOSPHERE_TARGET_FIRMWARE`. -/
def targetFirmware (major minor micro : UInt32) : HosVersion :=
  ⟨major <<< 24 ||| minor <<< 16 ||| micro <<< 8⟩

def version1 : HosVersion := targetFirmware 1 0 0
def version2 : HosVersion := targetFirmware 2 0 0
def version3 : HosVersion := targetFirmware 3 0 0
def version4 : HosVersion := targetFirmware 4 0 0
def version5 : HosVersion := targetFirmware 5 0 0
def version6 : HosVersion := targetFirmware 6 0 0
def version7 : HosVersion := targetFirmware 7 0 0

/-- `Version_Min`. -/
def min : HosVersion := targetFirmware 0 0 0

/-- `Version_Max`. -/
def max : HosVersion := targetFirmware 10 0 4

end HosVersion

/-! ## The service -/

/-- The service. `isQuest` and the firmware version do not change while it runs. -/
structure Service where
  manager : AlbumManager
  fs : FileSystem
  isQuest : Bool
  hosVersion : HosVersion

namespace Service

/-- A service that has not been started, over the given files. -/
def constructed (files : FileStore FsPath (List UInt8)) : Service where
  manager := .constructed .unset
  fs := ⟨∅, [], files, []⟩
  isQuest := false
  hosVersion := .version5

/-- A service both of whose storages have been announced. -/
def announced (files : FileStore FsPath (List UInt8)) : Service where
  manager := { AlbumManager.constructed .unset with
    nandMountStatus := ⟨.available, albumIsNotMounted.result⟩
    sdMountStatus := ⟨.available, albumIsNotMounted.result⟩ }
  fs := ⟨∅, [], files, []⟩
  isQuest := false
  hosVersion := .version5

/-- A call of the file system layer. -/
def callFs {α : Type} (call : FileSystem → α × FileSystem) : Process Service α := fun service =>
  (some (call service.fs).1, { service with fs := (call service.fs).2 })

def modifyManager (change : AlbumManager → AlbumManager) : Process Service Unit :=
  Process.modify fun service => { service with manager := change service.manager }

@[simp] theorem callFs_apply {α : Type} (call : FileSystem → α × FileSystem) (service : Service) :
    callFs call service = (some (call service.fs).1, { service with fs := (call service.fs).2 }) :=
  rfl

@[simp] theorem modifyManager_apply (change : AlbumManager → AlbumManager) (service : Service) :
    modifyManager change service =
      (some (), { service with manager := change service.manager }) := rfl

end Service

end Capsrv
