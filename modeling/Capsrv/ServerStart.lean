import Capsrv.Foundation.Aborts
import Capsrv.LastErrors

/-! # The start of the server

`server::Initialize` on a server that is not initialized yet: the album manager
is initialized, the services are registered, and the NAND storage is mounted and
counted. The results of the last two steps are ignored.
-/

namespace Capsrv

open Service Process

/-- What the system answers while the server starts, and what is in the array of
`RefreshCache` before. -/
structure StartAnswers where
  createSaveData : Fault
  mountSaveData : Fault
  registerControlServer : Fault
  registerAccessorServer : Fault
  registerApplicationServer : Fault
  mountNand : Fault
  refresh : ScanAnswers
  counts : ContentType → UInt64

/-! ## Registrations -/

/-- `ServerManager::RegisterServer` under `R_ABORT_UNLESS`, on the number of servers
that the manager has allocated. `AllocateServer` finds no room for another one. -/
def registerServer (maxServers : Nat) (fault : Fault) : Process Nat Unit := do
  if fault.result.isFailure then Process.abort
  else if (← Process.get) < maxServers then Process.modify (· + 1)
  else Process.abort

def initializeAlbumControlServerServer (answers : StartAnswers) : Process Nat Unit :=
  registerServer 1 answers.registerControlServer

def initializeAlbumServerServer (hosVersion : HosVersion) (answers : StartAnswers) :
    Process Nat Unit := do
  registerServer 2 answers.registerAccessorServer
  if .version5 ≤ hosVersion then registerServer 2 answers.registerApplicationServer
  else pure ()

theorem registerServer_eq_some {maxServers allocated next : Nat} {fault : Fault}
    (returned : registerServer maxServers fault allocated = (some (), next)) :
    allocated < maxServers ∧ next = allocated + 1 := by
  rw [registerServer] at returned
  split at returned
  case isTrue => cases returned
  case isFalse =>
    rw [bind_apply, get_apply] at returned
    dsimp only at returned
    split at returned
    case isTrue room =>
      cases returned
      exact ⟨room, rfl⟩
    case isFalse => cases returned

/-- A registration with a manager that has not allocated a server yet. -/
def firstRegistration (registration : Process Nat Unit) : Process Service Unit :=
  fun service => ((registration 0).1, service)

/-! ## The start -/

/-- `server::Initialize` up to the first use of a storage. -/
def serverPrepare (settings : AlbumSettings) (answers : StartAnswers) : Process Service Unit := do
  albumManagerInitialize settings answers.createSaveData answers.mountSaveData
  firstRegistration (initializeAlbumControlServerServer answers)
  firstRegistration (initializeAlbumServerServer (← Process.get).hosVersion answers)

/-- The two requests at the end of `server::Initialize`, with their results. -/
def startNand (cipher : PathCipher) (answers : StartAnswers) :
    Process Service (Result × Result) := do
  let mounted ← mountImageDirectory answers.mountNand .nand
  let refreshed ← refreshCache answers.refresh.mount cipher answers.refresh.reader
    answers.refresh.stack answers.counts .nand
  pure (mounted, refreshed)

/-- `server::Initialize`. -/
def serverInitialize (cipher : PathCipher) (settings : AlbumSettings) (answers : StartAnswers) :
    Process Service Result := do
  serverPrepare settings answers
  let _ ← startNand cipher answers
  pure .success

section

variable {settings : AlbumSettings} {answers : StartAnswers} {service prepared : Service}

/-- Behind the initialization of the manager, the preparation leaves everything alone. -/
theorem serverPrepare_begun
    (returned : serverPrepare settings answers service = (some (), prepared)) :
    albumManagerInitialize settings answers.createSaveData answers.mountSaveData service =
      (some (), prepared) := by
  rcases exists_of_bind returned with ⟨_, started, begun, registrations⟩
  rcases exists_of_bind registrations with ⟨_, middle, control, album⟩
  rcases exists_of_bind album with ⟨_, _, ⟨⟩, album⟩
  cases (Prod.mk.inj control).2
  cases (Prod.mk.inj album).2
  exact begun

/-- Before the first use of a storage both statuses are those of a new one. -/
theorem serverPrepare_status
    (returned : serverPrepare settings answers service = (some (), prepared))
    (storageId : StorageId) : prepared.manager.mountStatus storageId = {} :=
  albumManagerInitialize_status (serverPrepare_begun returned) storageId

/-- A storage with the status of a new one is refused by both entry points. -/
theorem ensureMountState_of_new {storageId : StorageId} (valid : storageValid storageId)
    (new : service.manager.mountStatus storageId = {}) (fault : Fault) (mountState : MountState) :
    ensureMountState fault storageId mountState service =
      (some albumIsNotMounted.result, service) := by
  simp only [ensureMountState, rTry, verifyStorageId_eq_success_iff.mpr valid,
    Result.isSuccess_success, if_true, Process.bind_apply, Process.get_apply, new]
  rfl

theorem mountImageDirectory_of_new {storageId : StorageId} (valid : storageValid storageId)
    (new : service.manager.mountStatus storageId = {}) (fault : Fault) :
    mountImageDirectory fault storageId service = (some albumIsNotMounted.result, service) := by
  simp only [mountImageDirectory, rTry, rUnless, verifyStorageId_eq_success_iff.mpr valid,
    Result.isSuccess_success, if_true, Process.bind_apply, Process.get_apply, new]
  rfl

/-- The requests at the end of the start fail, and change nothing. -/
theorem startNand_of_new (cipher : PathCipher)
    (new : prepared.manager.mountStatus .nand = {}) :
    startNand cipher answers prepared =
      (some (albumIsNotMounted.result, albumIsNotMounted.result), prepared) := by
  have valid : storageValid .nand := by decide
  have refreshed : refreshCache answers.refresh.mount cipher answers.refresh.reader
      answers.refresh.stack answers.counts .nand prepared =
        (some albumIsNotMounted.result, prepared) := by
    have ensured := ensureMountState_of_new valid new answers.refresh.mount .mounted
    simp only [refreshCache, rTry, verifyStorageId_eq_success_iff.mpr valid,
      Result.isSuccess_success, if_true, Process.bind_of_eq_some ensured]
    rfl
  rw [startNand, Process.bind_of_eq_some (mountImageDirectory_of_new valid new answers.mountNand),
    Process.bind_of_eq_some refreshed, Process.pure_apply]

end

/-! ## The NAND storage after the start -/

/-- The storage is mounted and registered, it passes `EnsureMountState`, and it
has been counted. -/
structure NandOnline (cipher : PathCipher) (settings : AlbumSettings) (answers : StartAnswers)
    (service : Service) : Prop where
  mounted : ((serverInitialize cipher settings answers service).2.manager.mountStatus
    .nand).state = .mounted
  registered : mountName .nand ∈ (serverInitialize cipher settings answers service).2.fs.names
  ensured : ∀ fault, (ensureMountState fault .nand .mounted
    (serverInitialize cipher settings answers service).2).1 = some .success
  refreshed : ∃ prepared result, serverPrepare settings answers service = (some (), prepared) ∧
    (startNand cipher answers prepared).1 = some (result, .success)

/-- A start that returns leaves the storage unmounted, whatever the system
answers: a new status is not available, so nothing is even attempted. -/
theorem serverInitialize_nand (cipher : PathCipher) {settings : AlbumSettings}
    {answers : StartAnswers} {service prepared : Service}
    (returned : serverPrepare settings answers service = (some (), prepared)) :
    serverInitialize cipher settings answers service = (some .success, prepared) ∧
      (prepared.manager.mountStatus .nand).state = .unmounted ∧
      ∀ fault mountState, ensureMountState fault .nand mountState prepared =
        (some albumIsNotMounted.result, prepared) := by
  have new := serverPrepare_status returned .nand
  refine ⟨?_, by rw [new], fun fault mountState => ?_⟩
  · rw [serverInitialize, Process.bind_of_eq_some returned,
      Process.bind_of_eq_some (startNand_of_new cipher new), Process.pure_apply]
  · exact ensureMountState_of_new (by decide) new fault mountState

/-- No start brings the storage online. -/
theorem not_nandOnline (cipher : PathCipher) (settings : AlbumSettings) (answers : StartAnswers)
    (service : Service) : ¬ NandOnline cipher settings answers service := by
  intro online
  rcases online.refreshed with ⟨prepared, result, returned, -⟩
  have mounted := online.mounted
  rcases serverInitialize_nand cipher returned with ⟨started, unmounted, -⟩
  rw [started, unmounted] at mounted
  cases mounted

/-- A system that answers every call, with no album in it. -/
def answeringSystem : StartAnswers where
  createSaveData := none
  mountSaveData := none
  registerControlServer := none
  registerAccessorServer := none
  registerApplicationServer := none
  mountNand := none
  refresh := ⟨none, ⟨fun _ _ => .ok []⟩, fun _ _ => 0⟩
  counts := fun _ => 0

theorem not_nandOnline_answeringSystem :
    ¬ (∀ (cipher : PathCipher) (settings : AlbumSettings) (answers : StartAnswers)
        (files : FileStore FsPath (List UInt8)),
      settings.getCustomImageDirectoryPath = none → answers.createSaveData = none →
      answers.mountSaveData = none → answers.registerControlServer = none →
      answers.registerAccessorServer = none → answers.registerApplicationServer = none →
      answers.mountNand = none → answers.refresh.mount = none →
      NandOnline cipher settings answers (.constructed files)) := by
  intro always
  have online := always (Equiv.refl Block) .unset answeringSystem (fun _ => none) rfl rfl rfl rfl
    rfl rfl rfl rfl
  have unmounted : ((serverInitialize (Equiv.refl Block) .unset answeringSystem
      (.constructed fun _ => none)).2.manager.mountStatus .nand).state = .unmounted := by
    decide
  rw [online.mounted] at unmounted
  cases unmounted

end Capsrv
