import Capsrv.AlbumIntegrity
import Capsrv.SettingsObject

/-! # The life of the server

`main` starts the server, lets the services run until they end and leaves the server
again. What the start makes of the settings, and what the end leaves of the mount
table, the registrations and the settings. The managers keep their servers, so that
the server can be started once.
-/

namespace Capsrv

open Server Process

/-! ## The process -/

/-- The settings, the shared objects and the numbers of servers that the managers of
the two threads have allocated. -/
structure ServerProcess where
  settings : AlbumSettingsObject
  server : Server
  controlServers : Nat
  albumServers : Nat
  isInitialized : Bool

namespace ServerProcess

def settingsPart : Part ServerProcess AlbumSettingsObject where
  get := settings
  set settings process := { process with settings }
  get_set _ _ := rfl
  set_get _ := rfl
  set_set _ _ _ := rfl

def serverPart : Part ServerProcess Server where
  get := server
  set server process := { process with server }
  get_set _ _ := rfl
  set_get _ := rfl
  set_set _ _ _ := rfl

def controlServersPart : Part ServerProcess Nat where
  get := controlServers
  set controlServers process := { process with controlServers }
  get_set _ _ := rfl
  set_get _ := rfl
  set_set _ _ _ := rfl

def albumServersPart : Part ServerProcess Nat where
  get := albumServers
  set albumServers process := { process with albumServers }
  get_set _ _ := rfl
  set_get _ := rfl
  set_set _ _ _ := rfl

/-- All objects after their constructors, over the given files. -/
def constructed (environment : Environment) (files : FileStore FsPath (List UInt8)) :
    ServerProcess where
  settings := .constructed
  server := .around { Service.constructed files with hosVersion := environment.hosVersion }
  controlServers := 0
  albumServers := 0
  isInitialized := false

end ServerProcess

open ServerProcess

/-- What the system answers in a life, and what clients send. -/
structure ServerLife where
  settings : SettingsAnswers
  start : StartAnswers
  messages : List ServerMessage

/-! ## Start and end -/

/-- `Initialize` of the objects that nothing can keep from it. -/
def Server.initializeObjects (server : Server) : Server :=
  { server with fileIds := .initialized, overlay := .initialized }

/-- `server::Initialize`, from the settings on. -/
def serverStart (environment : Environment) (life : ServerLife) : Process ServerProcess Unit := do
  if (← Process.get).isInitialized then Process.abort
  else do
    settingsPart.focus (albumSettingsInitialize environment.hosVersion life.settings)
    serverPart.focus (errorConverterPart.focus (modify fun _ => .initialized))
    let settings := (← Process.get).settings.toAlbumSettings
    serverPart.focus (albumPart.focus
      (albumManagerInitialize settings life.start.createSaveData life.start.mountSaveData))
    serverPart.focus (modify Server.initializeObjects)
    controlServersPart.focus (initializeAlbumControlServerServer life.start)
    albumServersPart.focus (initializeAlbumServerServer environment.hosVersion life.start)
    let _ ← serverPart.focus (albumPart.focus (startNand environment.cipher life.start))
    modify fun process => { process with isInitialized := true }

/-- The messages of a life. -/
def serveMessages (environment : Environment) (life : ServerLife) : Process ServerProcess Unit :=
  serverPart.focus (Process.run (ServerMessage.perform environment) life.messages)

/-- `server::Exit`. -/
def serverExit : Process ServerProcess Unit := do
  if ¬ (← Process.get).isInitialized then Process.abort
  else do
    serverPart.focus (applicationsPart.focus (modify ApplicationAlbumManager.exit))
    serverPart.focus (albumPart.focus albumManagerExit)
    settingsPart.focus (modify albumSettingsExit)
    modify fun process => { process with isInitialized := false }

/-! ## The names beside the albums -/

/-- Names that are not of an album are registered as before. -/
structure KeepsOtherNames (service next : Service) : Prop where
  names : ∀ name, (∀ storageId, name ≠ mountName storageId) →
    (name ∈ next.fs.names ↔ name ∈ service.fs.names)
  hosVersion : next.hosVersion = service.hosVersion

/-- From 4.0.0 on the save data is mounted, and nothing else beside the albums is. -/
def Service.SaveDataMounted (service : Service) : Prop :=
  ∀ name, (∀ storageId, name ≠ mountName storageId) →
    (name ∈ service.fs.names ↔ name = ascii "TM" ∧ .version4 ≤ service.hosVersion)

section

variable {service next : Service} {storageId : StorageId}

theorem keepsOtherNames_of_eq (names : next.fs.names = service.fs.names)
    (hosVersion : next.hosVersion = service.hosVersion) :
    KeepsOtherNames service next :=
  ⟨fun name _ => by rw [names], hosVersion⟩

theorem MountStep.keepsOtherNames {fault : Fault} {outcome : Option Result × Service}
    (step : MountStep service storageId fault outcome) : KeepsOtherNames service outcome.2 := by
  cases step with
  | invalid => exact keepsOtherNames_of_eq rfl rfl
  | settled => exact keepsOtherNames_of_eq rfl rfl
  | tried valid available step =>
      cases step with
      | refused => exact keepsOtherNames_of_eq rfl rfl
      | aborted => exact keepsOtherNames_of_eq rfl rfl
      | failed => exact keepsOtherNames_of_eq rfl rfl
      | mounted =>
          refine ⟨fun name other => ?_, rfl⟩
          simp [Finset.mem_insert, other storageId]

theorem LeaveStep.keepsOtherNames {state : MountState} {outcome : Option Result × Service}
    (step : LeaveStep service storageId state outcome) : KeepsOtherNames service outcome.2 := by
  cases step with
  | invalid => exact keepsOtherNames_of_eq rfl rfl
  | settled => exact keepsOtherNames_of_eq rfl rfl
  | unmounted =>
      refine ⟨fun name other => ?_, rfl⟩
      simp [Finset.mem_erase, other storageId]

theorem LeaveStep.files {state : MountState} {outcome : Option Result × Service}
    (step : LeaveStep service storageId state outcome) :
    outcome.2.fs.files = service.fs.files := by
  cases step <;> rfl

theorem MountRequest.keepsOtherNames (request : MountRequest) (mirrored : service.MountsMirrored) :
    KeepsOtherNames service (request.perform service).2 := by
  cases request with
  | mountImageDirectory fault storageId =>
      exact (mountImageDirectory_step mirrored fault).keepsOtherNames
  | ensureMountState fault storageId mountState =>
      exact (ensureMountState_step _ mirrored fault mountState).keepsOtherNames
  | closeImageDirectory storageId =>
      exact (leaveImageDirectory_step mirrored .unmounted).keepsOtherNames
  | unmountImageDirectory storageId =>
      exact (leaveImageDirectory_step mirrored .available).keepsOtherNames

theorem Service.SaveDataMounted.keeps (mounted : service.SaveDataMounted)
    (keeps : KeepsOtherNames service next) : next.SaveDataMounted := by
  intro name other
  rw [keeps.names name other, keeps.hosVersion]
  exact mounted name other

end

/-- What holds of the album manager while the server is started. -/
structure AlbumServed (settings : AlbumSettings) (firmware : HosVersion) (service : Service) :
    Prop where
  invariant : AlbumInvariant settings service
  saveData : service.SaveDataMounted
  hosVersion : service.hosVersion = firmware

theorem preservedByFileSteps_albumServed (settings : AlbumSettings) (firmware : HosVersion) :
    PreservedByFileSteps (AlbumServed settings firmware) := by
  have steps := preservedByFileSteps_albumInvariant settings
  refine ⟨⟨?mounting, ?counts⟩, ?calls⟩
  case mounting =>
    intro request service holds
    have keeps := request.keepsOtherNames holds.invariant.mounts.mirrored
    exact ⟨steps.mounting request service holds.invariant, holds.saveData.keeps keeps,
      keeps.hosVersion.trans holds.hosVersion⟩
  case counts =>
    intro change service holds
    exact ⟨steps.counts change service holds.invariant,
      holds.saveData.keeps (keepsOtherNames_of_eq rfl rfl), holds.hosVersion⟩
  case calls =>
    intro α call keeps service holds
    exact ⟨steps.calls call keeps service holds.invariant,
      holds.saveData.keeps (keepsOtherNames_of_eq (keeps service.fs).names rfl),
      holds.hosVersion⟩

/-! ## The album manager from its start to its end -/

section

variable {service next : Service} {settings : AlbumSettings}

/-- What is left when no storage is mounted and the server is left in order. -/
structure AlbumAtRest (firmware : HosVersion) (service : Service) : Prop where
  names : service.fs.names = ∅
  calls : service.fs.CallsSound
  hosVersion : service.hosVersion = firmware

/-- The mount table that `Initialize` leaves when it returns. -/
theorem albumManagerInitialize_names {createFault mountFault : Fault}
    (begun : albumManagerInitialize settings createFault mountFault service =
      (some (), next)) :
    next.fs.names = if .version4 ≤ service.hosVersion then insert (ascii "TM") service.fs.names
      else service.fs.names := by
  rw [albumManagerInitialize] at begun
  rcases exists_of_bind begun with ⟨_, _, changed, begun⟩
  cases changed
  rcases exists_of_bind begun with ⟨_, _, read, begun⟩
  cases read
  dsimp only at begun
  split at begun
  case isTrue late =>
    rcases exists_of_bind begun with ⟨_, mounted, saveData, begun⟩
    cases mountSaveData_success saveData
    cases begun
    exact (if_pos late).symm
  case isFalse early =>
    cases begun
    exact (if_neg early).symm

theorem albumServed_of_initialized {firmware : HosVersion} {createFault mountFault : Fault}
    (rest : AlbumAtRest firmware service)
    (begun : albumManagerInitialize settings createFault mountFault service =
      (some (), next)) : AlbumServed settings firmware next := by
  have names := albumManagerInitialize_names begun
  have statuses := albumManagerInitialize_status begun
  rcases albumManagerInitialize_started begun with ⟨_, -, rfl⟩
  rw [rest.names, rest.hosVersion] at names
  have unregistered : ∀ storageId, mountName storageId ∉
      if .version4 ≤ firmware then insert (ascii "TM") (∅ : Finset Text) else ∅ := by
    intro storageId member
    have other := ne_mountName_TM storageId
    split at member <;> simp_all
  constructor
  case invariant =>
    refine ⟨⟨?mirrored, rest.calls⟩, rfl, ?left, rfl, rfl⟩
    case mirrored =>
      apply MountsMirrored.of_unmounted
      · rw [names]
        exact unregistered
      · intro storageId
        rw [statuses]
        decide
      · intro storageId
        rw [statuses]
        decide
    case left =>
      intro storageId
      rw [statuses]
      exact .isNotMounted .unmounted (by decide)
  case saveData =>
    intro name other
    rw [names]
    change _ ↔ name = ascii "TM" ∧ .version4 ≤ service.hosVersion
    rw [rest.hosVersion]
    split <;> simp [*]
  case hosVersion => exact rest.hosVersion

/-- Both storages are left, and beside them only the save data can be mounted. -/
theorem exitStorages (holds : MountInvariant service) (saveData : service.SaveDataMounted) :
    ∃ next, (exitStorage .nand >>= fun _ => exitStorage .sd) service = (some (), next) ∧
      next.fs.names = (if .version4 ≤ service.hosVersion then {ascii "TM"} else ∅) ∧
      next.fs.CallsSound ∧ next.hosVersion = service.hosVersion ∧
      next.fs.files = service.fs.files := by
  rcases exitStorages_left holds with
    ⟨first, second, exitNand, leftNand, exitSd, leftSd, calls, absent⟩
  have left := (saveData.keeps leftNand.keepsOtherNames).keeps leftSd.keepsOtherNames
  have hosVersion : second.hosVersion = service.hosVersion :=
    leftSd.keepsOtherNames.hosVersion.trans leftNand.keepsOtherNames.hosVersion
  refine ⟨second, ?_, ?_, calls, hosVersion, leftSd.files.trans leftNand.files⟩
  · rw [Process.bind_of_eq_some exitNand, exitSd]
  · ext name
    by_cases album : ∃ storageId, name = mountName storageId
    · rcases album with ⟨storageId, rfl⟩
      have other := ne_mountName_TM storageId
      refine iff_of_false (absent storageId) ?_
      split <;> simp [other]
    · rw [not_exists] at album
      rw [left name album, hosVersion]
      split <;> simp [*]

theorem unmount_of_unregistered {name : Text} (unregistered : name ∉ service.fs.names) :
    unmount name service =
      (none, { service with fs := service.fs.called (.unmount name false) }) := by
  have refused : service.fs.unmount name =
      (Fs.notMounted.result, service.fs.called (.unmount name false)) := by
    simp [FileSystem.unmount, rUnless, unregistered]
  simp only [unmount, Process.bind_apply, Service.callFs_apply, refused]
  rfl

/-- The last call of `Exit` finds the save data only from 4.0.0 on. Before, the
process ends there. -/
theorem albumManagerExit_eq {firmware : HosVersion} (served : AlbumServed settings firmware service) :
    ∃ next, albumManagerExit service = (if .version4 ≤ firmware then some () else none, next) ∧
      AlbumAtRest firmware next ∧ next.fs.files = service.fs.files := by
  rcases exitStorages served.invariant.mounts served.saveData with
    ⟨left, returned, names, calls, hosVersion, files⟩
  rw [served.hosVersion] at names hosVersion
  have steps : albumManagerExit service = unmount (ascii "TM") left := by
    have split : albumManagerExit =
        (exitStorage .nand >>= fun _ => exitStorage .sd) >>= fun _ => unmount (ascii "TM") := by
      rw [albumManagerExit, bind_assoc]
    rw [split, Process.bind_of_eq_some returned]
  have sound : ∀ registered, (MountCall.unmount (ascii "TM") registered).Sound := by
    rintro registered ⟨storageId, same⟩
    exact absurd same.symm (ne_mountName_TM storageId)
  rw [steps]
  by_cases late : HosVersion.version4 ≤ firmware
  case pos =>
    rw [if_pos late] at names ⊢
    have registered : ascii "TM" ∈ left.fs.names := by
      rw [names]
      exact Finset.mem_singleton_self _
    rw [unmount_of_registered registered]
    refine ⟨_, rfl, ⟨?_, calls.called (sound true), hosVersion⟩, files⟩
    change left.fs.names.erase (ascii "TM") = ∅
    rw [names, Finset.erase_singleton]
  case neg =>
    rw [if_neg late] at names ⊢
    have unregistered : ascii "TM" ∉ left.fs.names := by
      rw [names]
      exact Finset.notMem_empty _
    rw [unmount_of_unregistered unregistered]
    exact ⟨_, rfl, ⟨names, calls.called (sound false), hosVersion⟩, files⟩

end

/-! ## The start -/

/-- A process that has not been started, or has been left in order. -/
structure AtRest (environment : Environment) (process : ServerProcess) : Prop where
  isInitialized : process.isInitialized = false
  album : AlbumAtRest environment.hosVersion process.server.album
  applications : process.server.applications = .constructed
  directory : process.settings.customDirectoryPath = none
  allocated : process.settings.allocated = 0

/-- A process whose server has been started. -/
structure Served (environment : Environment) (object : AlbumSettingsObject)
    (process : ServerProcess) : Prop where
  isInitialized : process.isInitialized = true
  settings : process.settings = object
  album : AlbumServed object.toAlbumSettings environment.hosVersion process.server.album
  server : ServerInvariant object.toAlbumSettings process.server
  controlServers : 0 < process.controlServers

/-- The steps of a start that returns. -/
structure StartReturned (environment : Environment) (life : ServerLife)
    (process started : ServerProcess) : Prop where
  unstarted : process.isInitialized = false
  settings : albumSettingsInitialize environment.hosVersion life.settings process.settings =
    (some (), started.settings)
  album : ∃ album results, albumManagerInitialize started.settings.toAlbumSettings
      life.start.createSaveData life.start.mountSaveData process.server.album =
        (some (), album) ∧
      startNand environment.cipher life.start album = (some results, started.server.album)
  server : started.server = { process.server with
    album := started.server.album
    fileIds := .initialized
    overlay := .initialized
    errorConverter := .initialized }
  controlServers : initializeAlbumControlServerServer life.start process.controlServers =
    (some (), started.controlServers)
  albumServers : initializeAlbumServerServer environment.hosVersion life.start
    process.albumServers = (some (), started.albumServers)
  isInitialized : started.isInitialized = true

section

variable {environment : Environment} {life : ServerLife} {process started next : ServerProcess}

theorem atRest_constructed (environment : Environment) (files : FileStore FsPath (List UInt8)) :
    AtRest environment (.constructed environment files) where
  isInitialized := rfl
  album := ⟨rfl, fun _ member => absurd member List.not_mem_nil, rfl⟩
  applications := rfl
  directory := rfl
  allocated := rfl

theorem startReturned (returned : serverStart environment life process = (some (), started)) :
    StartReturned environment life process started := by
  rcases exists_of_bind returned with ⟨_, _, ⟨⟩, steps⟩
  split at steps
  case isTrue => cases steps
  case isFalse unstarted =>
    clear returned
    rcases exists_of_bind steps with ⟨_, _, first, steps1⟩
    rcases settingsPart.exists_of_focus first with ⟨object, settings, rfl⟩
    rcases exists_of_bind steps1 with ⟨_, _, ⟨⟩, steps2⟩
    rcases exists_of_bind steps2 with ⟨_, _, ⟨⟩, steps3⟩
    clear steps steps1 steps2
    rcases exists_of_bind steps3 with ⟨_, _, second, steps4⟩
    rcases serverPart.exists_of_focus second with ⟨server, onServer, rfl⟩
    rcases albumPart.exists_of_focus onServer with ⟨begun, album, rfl⟩
    rcases exists_of_bind steps4 with ⟨_, _, ⟨⟩, steps5⟩
    clear steps3 steps4
    rcases exists_of_bind steps5 with ⟨_, _, third, steps6⟩
    rcases controlServersPart.exists_of_focus third with ⟨controlServers, control, rfl⟩
    rcases exists_of_bind steps6 with ⟨_, _, fourth, steps7⟩
    rcases albumServersPart.exists_of_focus fourth with ⟨albumServers, accessor, rfl⟩
    clear steps5 steps6
    rcases exists_of_bind steps7 with ⟨results, _, fifth, steps8⟩
    rcases serverPart.exists_of_focus fifth with ⟨server, onServer, rfl⟩
    rcases albumPart.exists_of_focus onServer with ⟨ended, mounted, rfl⟩
    cases steps8
    exact ⟨by simpa using unstarted, settings, ⟨begun, results, album, mounted⟩, rfl, control,
      accessor, rfl⟩

theorem serverStart_served (rest : AtRest environment process)
    (returned : serverStart environment life process = (some (), started)) :
    SettingsStarted environment.hosVersion life.settings process.settings started.settings ∧
      Served environment started.settings started ∧
      started.server.album.fs.files = process.server.album.fs.files := by
  have steps := startReturned returned
  rcases steps.album with ⟨album, results, begun, mounted⟩
  have served := albumServed_of_initialized rest.album begun
  have same : album = started.server.album := (Prod.mk.inj ((startNand_of_new environment.cipher
    (albumManagerInitialize_status begun .nand)).symm.trans mounted)).2
  have files : album.fs.files = process.server.album.fs.files := by
    rcases albumManagerInitialize_started begun with ⟨_, -, rfl⟩
    rfl
  rw [same] at served files
  refine ⟨settingsStarted_of_returned rest.directory steps.settings,
    ⟨steps.isInitialized, rfl, served, ⟨served.invariant, ?_, ?_, ?_⟩, ?_⟩, files⟩
  · rw [steps.server, rest.applications]
    exact ApplicationAlbumManager.wellFormed_constructed
  · rw [steps.server]
    exact overlaySettled_initialized
  · rw [steps.server]
    exact Nat.zero_le 99
  · rw [(registerServer_eq_some steps.controlServers).2]
    exact Nat.succ_pos _

/-- The manager of the control service has no room for a second server. -/
theorem serverStart_aborts (registered : 0 < process.controlServers) :
    (serverStart environment life).Aborts process := by
  rcases outcome : serverStart environment life process with ⟨_ | value, started⟩
  · rw [Aborts, outcome]
  · have steps := startReturned outcome
    have room := (registerServer_eq_some steps.controlServers).1
    omega

end

/-! ## The end -/

section

variable {environment : Environment} {life : ServerLife} {process started : ServerProcess}

/-- Messages do not change what kind of server it is. -/
theorem preserves_served (environment : Environment) (object : AlbumSettingsObject)
    (messages : List ServerMessage) :
    Preserves (Served environment object)
      (serverPart.focus (Process.run (ServerMessage.perform environment) messages)) := by
  intro process served
  have steps := preservedByFileSteps_albumServed object.toAlbumSettings environment.hosVersion
  have anything := fun message (_ : message ∈ messages) =>
    message.filesPermitted_true environment
  have calls := containsCalls_album environment object.toAlbumSettings fun _ => True
  constructor
  case isInitialized => exact served.isInitialized
  case settings => exact served.settings
  case album =>
    exact (calls.run anything).preserves
      (fun request _ => steps.request environment.cipher request) process.server served.album
  case server =>
    exact preserves_serverInvariant environment object.toAlbumSettings messages process.server
      served.server
  case controlServers => exact served.controlServers

/-- `Exit` ends in order from 4.0.0 on, and ends the process before. Either way no name
stays in the mount table. -/
theorem serverExit_eq {object : AlbumSettingsObject} (served : Served environment object process) :
    ∃ album : Service, AlbumAtRest environment.hosVersion album ∧
      album.fs.files = process.server.album.fs.files ∧
      serverExit process =
        if .version4 ≤ environment.hosVersion then
          (some (), { process with
            settings := albumSettingsExit object
            server := { process.server with applications := .constructed, album }
            isInitialized := false })
        else (none, { process with
          server := { process.server with applications := .constructed, album } }) := by
  rcases albumManagerExit_eq served.album with ⟨album, exited, rest, files⟩
  refine ⟨album, rest, files, ?_⟩
  let left : ServerProcess :=
    { process with server := { process.server with applications := .constructed } }
  have applicationsLeft : serverPart.focus
      (applicationsPart.focus (modify ApplicationAlbumManager.exit)) process =
        (some (), left) := by
    have empty := ApplicationAlbumManager.exit_eq_constructed served.server.applications
    simp only [left, ← empty]
    rfl
  have albumLeft : serverPart.focus (albumPart.focus albumManagerExit) left =
      ((albumManagerExit process.server.album).1,
        { left with server := { left.server with
          album := (albumManagerExit process.server.album).2 } }) := rfl
  rw [exited] at albumLeft
  have initialized : ¬ ¬ process.isInitialized = true := not_not.mpr served.isInitialized
  rw [serverExit, Process.bind_apply, Process.get_apply]
  dsimp only
  rw [if_neg initialized, Process.bind_of_eq_some applicationsLeft]
  by_cases late : HosVersion.version4 ≤ environment.hosVersion
  · rw [if_pos late] at albumLeft
    rw [if_pos late, Process.bind_of_eq_some albumLeft, ← served.settings]
    rfl
  · rw [if_neg late] at albumLeft
    rw [if_neg late, Process.bind_of_eq_none albumLeft]

/-- An array is allocated only for a directory, and deleted with it. -/
theorem allocated_exit (rest : AtRest environment process)
    (settings : SettingsStarted environment.hosVersion life.settings process.settings
      started.settings) :
    (albumSettingsExit started.settings).allocated = 0 := by
  have allocated := settings.allocated
  rw [rest.allocated, ← settings.directory] at allocated
  simp only [albumSettingsExit, allocated]
  cases started.settings.customDirectoryPath <;> rfl

end

/-! ## The life -/

/-- What the start of a life has made of the settings, and what its end leaves. -/
structure LifeInOrder (environment : Environment) (served : ServerProcess) : Prop where
  settings : served.server.album.manager.settings = served.settings.toAlbumSettings
  directory : served.settings.getCustomImageDirectoryPath = none
  limits : if .version4 ≤ environment.hosVersion then served.settings.Limits 1000 100 10000 1000
    else served.settings.Limits 0 0 0 0
  returns : (serverExit served).1.isSome ↔ .version4 ≤ environment.hosVersion
  names : (serverExit served).2.server.album.fs.names = ∅
  after : .version4 ≤ environment.hosVersion → AtRest environment (serverExit served).2
  once : ∀ later : ServerLife, (serverStart environment later).Aborts served ∧
    (serverStart environment later).Aborts (serverExit served).2

/-- Whatever the items say, in its only life the server uses no custom directory, and
the limits are those of the firmware. `Exit` leaves nothing mounted, nobody registered
and no array, and from then on no start returns. Before 4.0.0 `Exit` itself does not. -/
theorem serverLife_inOrder (environment : Environment) (files : FileStore FsPath (List UInt8))
    (life : ServerLife) (started served : ServerProcess)
    (begun : serverStart environment life (.constructed environment files) = (some (), started))
    (answered : serveMessages environment life started = (some (), served)) :
    LifeInOrder environment served := by
  have rest := atRest_constructed environment files
  rcases serverStart_served rest begun with ⟨settings, serving, -⟩
  have reached := preserves_served environment started.settings life.messages started serving
  rw [serveMessages] at answered
  rw [answered] at reached
  rcases serverExit_eq reached with ⟨album, albumRest, -, exited⟩
  have limits := settings.limits
  rw [← reached.settings] at limits
  constructor
  case settings =>
    rw [reached.settings]
    exact reached.album.invariant.settings
  case directory =>
    rw [reached.settings, AlbumSettings.getCustomImageDirectoryPath, settings.defaultDirectory]
    rfl
  case limits => exact limits
  case returns =>
    rw [exited]
    split
    case isTrue late => exact iff_of_true rfl late
    case isFalse early => exact iff_of_false Bool.false_ne_true early
  case names =>
    rw [exited]
    split
    case isTrue => exact albumRest.names
    case isFalse => exact albumRest.names
  case after =>
    intro late
    rw [exited, if_pos late]
    exact ⟨rfl, albumRest, rfl, rfl, allocated_exit rest settings⟩
  case once =>
    intro later
    refine ⟨serverStart_aborts reached.controlServers, serverStart_aborts ?_⟩
    rw [exited]
    split
    case isTrue => exact reached.controlServers
    case isFalse => exact reached.controlServers

/-- A life in the debug mode, with a directory in the items. -/
def debugLife (environment : Environment) : ServerLife where
  settings :=
    { isDebugModeEnabled := some true
      screenshotFiledataVerification := some (0, false)
      screenshotFileSupport := some (0, false)
      movieFileSupport := some (0, false)
      movieFilesignVerification := some (0, false)
      movieFilehashVerification := some (0, false)
      directoryChange := some (1, true)
      directoryPath := some (8, ascii "C:/Album") }
  start := answeringSystem
  messages := copyingCommands.map fun command => command.message environment 5

def debugStarted (environment : Environment) : ServerProcess :=
  (serverStart environment (debugLife environment) (.constructed environment savedPair)).2

theorem serverLife_inOrder_debugLife :
    LifeInOrder plainEnvironment (serveMessages plainEnvironment (debugLife plainEnvironment)
      (debugStarted plainEnvironment)).2 := by
  have answered : (serveMessages plainEnvironment (debugLife plainEnvironment)
      (debugStarted plainEnvironment)).1 = some () := by
    decide +kernel
  exact serverLife_inOrder plainEnvironment savedPair (debugLife plainEnvironment)
    (debugStarted plainEnvironment) _ rfl (Prod.ext answered rfl)

/-! ## Early firmwares -/

section

variable {cipher : PathCipher} {settings : AlbumSettings} {service : Service}

theorem getFileMaxCount_of_limits (limits : settings.Limits 0 0 0 0) (storageId : StorageId)
    (type : ContentType) : settings.getFileMaxCount storageId type = 0 := by
  rw [AlbumSettings.getFileMaxCount, limits.nandScreenshot, limits.nandMovie, limits.sdScreenshot,
    limits.sdMovie]
  simp only [ite_self]

variable (cipher) in
/-- No copy is admitted where no file may be. -/
theorem not_copyMutates_of_limits (limits : service.manager.settings.Limits 0 0 0 0)
    (faults : CopyFaults) (sourceId : AlbumFileId) (destination : StorageId) :
    ¬ CopyMutates cipher service faults sourceId destination := by
  rintro ⟨⟨content, admitted⟩, -⟩
  have below := admitted.below
  rw [getFileMaxCount_of_limits limits] at below
  exact Nat.not_lt_zero _ (UInt64.lt_iff_toNat_lt.mp below)

/-- Each file is what it was, or gone. -/
def OnlyDeleted (files next : FileStore FsPath (List UInt8)) : Prop :=
  ∀ path, next path = files path ∨ next path = none

theorem OnlyDeleted.erase {files next : FileStore FsPath (List UInt8)}
    (deleted : OnlyDeleted files next) (path : FsPath) :
    OnlyDeleted files (next.erase path) := by
  intro other
  by_cases same : other = path
  · rw [same]
    exact .inr (FileStore.erase_same _ _)
  · rw [FileStore.erase_of_ne _ same]
    exact deleted other

/-- Where no file may be, requests delete files and do nothing else to them. -/
theorem onlyDeleted_request (mirrored : service.MountsMirrored)
    (limits : service.manager.settings.Limits 0 0 0 0)
    {files : FileStore FsPath (List UInt8)} (deleted : OnlyDeleted files service.fs.files)
    (request : AlbumRequest) :
    OnlyDeleted files (request.perform cipher service).2.fs.files := by
  have reads : ∀ other : AlbumRequest, other.Reads →
      OnlyDeleted files (other.perform cipher service).2.fs.files := by
    intro other only
    have same := (preservedByReads_files service.fs.files).request cipher only service rfl
    rw [same]
    exact deleted
  cases request with
  | deleteFile faults fileId =>
      change OnlyDeleted files (deleteFile cipher faults fileId service).2.fs.files
      cases deleteFile_step cipher faults fileId mirrored with
      | refused _ frame _ _ =>
          rw [frame.files]
          exact deleted
      | deleted _ mounted frame _ equal =>
          rw [equal]
          change OnlyDeleted files
            (if _ then mounted.fs.remove (albumFsPath cipher fileId) else mounted.fs).files
          rw [← frame.files] at deleted
          split
          · exact deleted.erase _
          · exact deleted
  | copyFile faults sourceId destination =>
      change OnlyDeleted files (copyFile cipher faults sourceId destination service).2.fs.files
      have refused := not_copyMutates_of_limits cipher limits faults sourceId destination
      cases copyFile_step cipher faults sourceId destination mirrored with
      | untouched _ frame _ _ =>
          rw [frame.files]
          exact deleted
      | spoiled mutates => exact absurd mutates refused
      | copied mutates => exact absurd mutates refused
  | _ => exact reads _ trivial

end

/-- Before 4.0.0 no limit is ever set, and so no file is ever saved: whatever clients
send in the life of the server, every file stays as it was or is deleted, also when the
server is left. -/
theorem serverLife_onlyDeletes (environment : Environment)
    (early : ¬ .version4 ≤ environment.hosVersion) (files : FileStore FsPath (List UInt8))
    (life : ServerLife) (started : ServerProcess)
    (begun : serverStart environment life (.constructed environment files) =
      (some (), started)) :
    let served := (serveMessages environment life started).2
    served.server.album.manager.settings.Limits 0 0 0 0 ∧
      OnlyDeleted files served.server.album.fs.files ∧
      OnlyDeleted files (serverExit served).2.server.album.fs.files := by
  dsimp only
  rcases serverStart_served (atRest_constructed environment files) begun with
    ⟨settings, served, sameFiles⟩
  have limits : started.settings.Limits 0 0 0 0 := by
    have limits := settings.limits
    rw [if_neg early] at limits
    exact limits
  have steps := preservedByFileSteps_albumInvariant started.settings.toAlbumSettings
  have kept : ∀ request : AlbumRequest, request.FilesPermitted (fun _ => True) →
      Preserves (fun service => AlbumInvariant started.settings.toAlbumSettings service ∧
        OnlyDeleted files service.fs.files) (request.perform environment.cipher) := by
    rintro request - service ⟨invariant, deleted⟩
    refine ⟨steps.request environment.cipher request service invariant, ?_⟩
    exact onlyDeleted_request invariant.mounts.mirrored (invariant.settings ▸ limits) deleted request
  have anything := fun message (_ : message ∈ life.messages) =>
    message.filesPermitted_true environment
  have follows := (containsCalls_album environment started.settings.toAlbumSettings
    fun _ => True).run anything
  have untouched : OnlyDeleted files started.server.album.fs.files := by
    rw [sameFiles]
    exact fun path => .inl rfl
  have deleted := (follows.preserves kept started.server ⟨served.server.album, untouched⟩).2
  have reached := preserves_served environment started.settings life.messages started served
  refine ⟨?_, deleted, ?_⟩
  · rw [serveMessages, reached.album.invariant.settings]
    exact limits
  · rcases serverExit_eq reached with ⟨album, -, same, exited⟩
    rw [serveMessages, exited, if_neg early]
    change OnlyDeleted files album.fs.files
    rw [same]
    exact deleted

theorem serverLife_onlyDeletes_version3 :
    let environment : Environment := { plainEnvironment with hosVersion := .version3 }
    let served := (serveMessages environment (debugLife environment)
      (debugStarted environment)).2
    served.server.album.manager.settings.Limits 0 0 0 0 ∧
      OnlyDeleted savedPair served.server.album.fs.files ∧
      OnlyDeleted savedPair (serverExit served).2.server.album.fs.files :=
  serverLife_onlyDeletes { plainEnvironment with hosVersion := .version3 } (by decide)
    savedPair (debugLife _) _ rfl

end Capsrv
