import Capsrv.GeneratedFileId
import Capsrv.ServerRuns
import Capsrv.ServerStart

/-! # The invariant of the server

What holds of all shared objects from the end of `server::Initialize` on, between
any two messages and at the moment of an abort.
-/

namespace Capsrv

open Server Process

/-! ## The album manager -/

/-- What holds of the album manager: its statuses mirror the mount table and are
ones that mount requests leave, the settings are those of the start, and nothing
is reserved. -/
structure AlbumInvariant (settings : AlbumSettings) (service : Service) : Prop where
  mounts : MountInvariant service
  settings : service.manager.settings = settings
  statuses : ∀ storageId, LeftStatus (service.manager.mountStatus storageId)
  readReserve : service.manager.readReserve = .empty
  writeReserve : service.manager.writeReserve = .empty

section

variable (settings : AlbumSettings)

theorem preservedBySteps_reserves (readReserve writeReserve : AlbumReserve) :
    PreservedBySteps fun service => service.manager.readReserve = readReserve ∧
      service.manager.writeReserve = writeReserve := by
  apply preservedBySteps_of_manager fun manager =>
    manager.readReserve = readReserve ∧ manager.writeReserve = writeReserve
  · intro manager storageId status _ same
    rw [AlbumManager.setMountStatus_readReserve, AlbumManager.setMountStatus_writeReserve]
    exact same
  · intro manager cache same
    exact same

theorem preservedByFileSteps_albumInvariant :
    PreservedByFileSteps (AlbumInvariant settings) := by
  have statuses : PreservedBySteps fun service =>
      ∀ storageId, LeftStatus (service.manager.mountStatus storageId) :=
    preservedBySteps_statuses fun _ left => left
  have reserves := preservedBySteps_reserves .empty .empty
  refine ⟨⟨?mounting, ?counts⟩, ?calls⟩
  case mounting =>
    intro request service holds
    have empty := reserves.mounting request service ⟨holds.readReserve, holds.writeReserve⟩
    exact ⟨request.preserves service holds.mounts,
      (preservedBySteps_settings settings).mounting request service holds.settings,
      statuses.mounting request service holds.statuses, empty.1, empty.2⟩
  case counts =>
    intro change service holds
    exact ⟨preservedByFileSteps_mountInvariant.counts change service holds.mounts,
      holds.settings, holds.statuses, holds.readReserve, holds.writeReserve⟩
  case calls =>
    intro α call keeps service holds
    exact ⟨preservedByFileSteps_mountInvariant.calls call keeps service holds.mounts,
      holds.settings, holds.statuses, holds.readReserve, holds.writeReserve⟩

end

/-! ## The overlay holder and the generator -/

/-- No slot of the holder is occupied, and all buffers have their full size. -/
structure OverlaySettled (holder : OverlayThumbnailHolder) : Prop where
  free : ∀ type, (holder.data type).status = .free
  full : ∀ type, (holder.data type).buffer.length = overlayBufferSize

theorem overlaySettled_initialized : OverlaySettled .initialized where
  free _ := rfl
  full _ := List.length_replicate

theorem OverlaySettled.setData {holder : OverlayThumbnailHolder} (settled : OverlaySettled holder)
    (type : OverlayType) {data : OverlayCacheData} (free : data.status = .free)
    (full : data.buffer.length = overlayBufferSize) :
    OverlaySettled (holder.setData type data) := by
  constructor
  · intro other
    by_cases same : other = type
    · rw [same, OverlayThumbnailHolder.setData_same]
      exact free
    · rw [OverlayThumbnailHolder.setData_of_ne same]
      exact settled.free other
  · intro other
    by_cases same : other = type
    · rw [same, OverlayThumbnailHolder.setData_same]
      exact full
    · rw [OverlayThumbnailHolder.setData_of_ne same]
      exact settled.full other

/-- No call on the holder has to wait. -/
theorem OverlaySettled.getOverlayBuffer {holder : OverlayThumbnailHolder}
    (settled : OverlaySettled holder) (fileId : AlbumFileId) (type : OverlayType) :
    holder.getOverlayBuffer fileId type =
      some (holder.setData type { holder.data type with fileId }) := by
  have occupied : (holder.data type).status ≠ .occupied := by
    rw [settled.free type]
    decide
  exact if_neg occupied

theorem OverlaySettled.copyPixels {holder : OverlayThumbnailHolder}
    (settled : OverlaySettled holder) {pixels : List UInt8}
    (full : pixels.length = overlayBufferSize) (type : OverlayType) :
    OverlaySettled (holder.copyPixels pixels type) :=
  settled.setData type (settled.free type) full

theorem OverlaySettled.signal {holder : OverlayThumbnailHolder}
    (settled : OverlaySettled holder) (type : OverlayType) :
    OverlaySettled (holder.signal type) :=
  settled.setData type rfl (settled.full type)

theorem preserves_setOverlayThumbnailData (type : OverlayType) (buffer : List UInt8)
    (fileId : AlbumFileId) :
    Preserves (fun server => OverlaySettled server.overlay)
      (AlbumControlService.setOverlayThumbnailData type buffer fileId) := by
  unfold AlbumControlService.setOverlayThumbnailData rUnless
  by_cases long : overlayBufferSize ≤ buffer.length
  · rw [if_pos long]
    refine Preserves.bind ?_ fun _ => Preserves.bind ?_ fun _ => Preserves.bind ?_
      fun _ => preserves_pure _ _
    · apply overlayPart.preserves_focus
      intro holder settled
      rw [awaited, settled.getOverlayBuffer]
      exact settled.setData type (settled.free type) (settled.full type)
    · apply overlayPart.preserves_focus
      intro holder settled
      exact settled.copyPixels (List.length_take_of_le long) type
    · apply overlayPart.preserves_focus
      intro holder settled
      exact settled.signal type
  · rw [if_neg long]
    exact preserves_pure _ _

/-- Reading a thumbnail leaves the holder alone. -/
theorem awaited_reading_snd {α : Type} (read : OverlayThumbnailHolder → Option α)
    (holder : OverlayThumbnailHolder) :
    (awaited (fun holder => (read holder).map fun value => (value, holder)) holder).2 =
      holder := by
  simp only [awaited]
  cases read holder <;> rfl

theorem containsCalls_overlaySettled (environment : Environment) (settings : AlbumSettings) :
    ContainsCalls environment settings (fun _ => True)
      (.preserving fun server => OverlaySettled server.overlay) where
  album program _ _ _ := album_independent_overlay.preserves_focus OverlaySettled program
  applications program _ _ :=
    applications_independent_overlay.preserves_focus OverlaySettled program
  generateFileId answers clock applicationId type :=
    fileIds_independent_overlay.preserves_focus OverlaySettled
      (generateFileIdOn environment.calendar answers clock applicationId type)
  getLastOverlayThumbnail outBufferSize type := by
    apply overlayPart.preserves_focus
    intro holder settled
    rw [awaited_reading_snd]
    exact settled
  setOverlayThumbnailData := preserves_setOverlayThumbnailData
  setMode mode := overlay_independent_errorConverter.symm.preserves_focus OverlaySettled
    (Process.modify (·.setMode mode))

theorem twoDigits_advance (generator : AlbumFileIdGenerator) (timestamp : UInt64) :
    (generator.advance timestamp).counter.toNat ≤ 99 := by
  unfold AlbumFileIdGenerator.advance
  split
  case isTrue condition =>
    have small := UInt32.lt_iff_toNat_lt.mp condition.2
    rw [UInt32.toNat_add]
    exact le_trans (Nat.mod_le _ _) small
  case isFalse => exact Nat.zero_le 99

theorem generateFileIdOn_twoDigits (calendar : Calendar) (answers : SavingAnswers)
    (clock : Except Failure UInt64) (applicationId : UInt64) (type : ContentType) :
    Preserves (fun pair => pair.1.counter.toNat ≤ 99)
      (generateFileIdOn calendar answers clock applicationId type) := by
  intro pair twoDigits
  simp only [generateFileIdOn, AlbumFileIdGenerator.generateFileId, Process.bind_apply]
  rcases Capsrv.getAutoSavingStorage answers type pair.2 with ⟨_ | result | storageId, service⟩
  · exact twoDigits
  · exact twoDigits
  · cases clock with
    | error failure => exact twoDigits
    | ok timestamp =>
        have advanced := twoDigits_advance pair.1 timestamp
        cases converted : calendar timestamp with
        | error failure =>
            simp only [converted]
            exact advanced
        | ok time =>
            simp only [converted]
            exact advanced

theorem containsCalls_twoDigits (environment : Environment) (settings : AlbumSettings) :
    ContainsCalls environment settings (fun _ => True)
      (.preserving fun server => server.fileIds.counter.toNat ≤ 99) where
  album _ _ _ _ _ twoDigits := twoDigits
  applications _ _ _ _ twoDigits := twoDigits
  generateFileId answers clock applicationId type :=
    fileIdsPart.preserves_focus
      (generateFileIdOn_twoDigits environment.calendar answers clock applicationId type)
  getLastOverlayThumbnail _ _ _ twoDigits := twoDigits
  setOverlayThumbnailData := contains_setOverlayThumbnailData _ fun _ _ twoDigits => twoDigits
  setMode _ _ twoDigits := twoDigits

/-! ## The whole server -/

structure ServerInvariant (settings : AlbumSettings) (server : Server) : Prop where
  album : AlbumInvariant settings server.album
  applications : server.applications.WellFormed
  overlay : OverlaySettled server.overlay
  twoDigits : server.fileIds.counter.toNat ≤ 99

/-- Messages preserve the invariant, whatever they ask for and the system
answers. -/
theorem preserves_serverInvariant (environment : Environment) (settings : AlbumSettings)
    (messages : List ServerMessage) :
    Preserves (ServerInvariant settings)
      (Process.run (ServerMessage.perform environment) messages) := by
  intro server holds
  have steps := preservedByFileSteps_albumInvariant settings
  have anything := fun message (_ : message ∈ messages) =>
    message.filesPermitted_true environment
  exact ⟨((containsCalls_album environment settings _).run anything).preserves
      (fun request _ => steps.request environment.cipher request) server holds.album,
    ((containsCalls_applications environment settings _).run anything).preserves
      (fun request _ => ApplicationAlbumManager.perform_wellFormed environment.ciphers settings
        request) server holds.applications,
    (containsCalls_overlaySettled environment settings).run anything server holds.overlay,
    (containsCalls_twoDigits environment settings).run anything server holds.twoDigits⟩

/-! ## The start -/

/-- A start that returns ends as `AlbumManager::Initialize` does. -/
theorem serverInitialize_begun {cipher : PathCipher} {settings : AlbumSettings}
    {answers : StartAnswers} {service started : Service} {rc : Result}
    (returned : serverInitialize cipher settings answers service = (some rc, started)) :
    albumManagerInitialize settings answers.createSaveData answers.mountSaveData service =
      (some (), started) := by
  rcases exists_of_bind returned with ⟨_, middle, prepared, -⟩
  have ended := (serverInitialize_nand cipher prepared).1
  rw [returned] at ended
  cases (Prod.mk.inj ended).2
  exact serverPrepare_begun prepared

theorem serverInvariant_started {cipher : PathCipher} {settings : AlbumSettings}
    {answers : StartAnswers} {service started : Service} {rc : Result}
    (absent : ∀ storageId, mountName storageId ∉ service.fs.names)
    (quiet : service.fs.calls = [])
    (returned : serverInitialize cipher settings answers service = (some rc, started)) :
    ServerInvariant settings (.around started) := by
  have begun := serverInitialize_begun returned
  have mounts := albumManagerInitialize_invariant absent quiet begun
  have statuses := albumManagerInitialize_status begun
  refine ⟨⟨mounts, ?_, ?_, ?_, ?_⟩, ApplicationAlbumManager.wellFormed_constructed,
    overlaySettled_initialized, Nat.zero_le 99⟩
  · rcases albumManagerInitialize_started begun with ⟨names, -, rfl⟩
    rfl
  · intro storageId
    change LeftStatus (started.manager.mountStatus storageId)
    rw [statuses]
    exact .isNotMounted .unmounted (by decide)
  · rcases albumManagerInitialize_started begun with ⟨names, -, rfl⟩
    rfl
  · rcases albumManagerInitialize_started begun with ⟨names, -, rfl⟩
    rfl

/-- From the start on, the invariant holds after any messages of any clients, and
where a message has aborted the process. -/
theorem serverInvariant_reached (environment : Environment) (settings : AlbumSettings)
    (answers : StartAnswers) (service started : Service) (rc : Result)
    (absent : ∀ storageId, mountName storageId ∉ service.fs.names)
    (quiet : service.fs.calls = [])
    (returned : serverInitialize environment.cipher settings answers service =
      (some rc, started))
    (messages : List ServerMessage) :
    ServerInvariant settings
      (Process.run (ServerMessage.perform environment) messages (.around started)).2 :=
  preserves_serverInvariant environment settings messages _
    (serverInvariant_started absent quiet returned)

/-- A server whose keys leave every block as it is. -/
def plainEnvironment : Environment where
  cipher := Equiv.refl Block
  ciphers := identityCiphers
  calendar := minuteCalendar
  isDebug := false
  hosVersion := .version5
  cmifInHeaderMagic := 0x49434653

/-- The end of `server::Initialize` on a system that answers. -/
def startedAround (files : FileStore FsPath (List UInt8)) : Service :=
  (serverInitialize plainEnvironment.cipher .unset answeringSystem (.constructed files)).2

theorem serverInvariant_startedAround (files : FileStore FsPath (List UInt8)) :
    ServerInvariant .unset (.around (startedAround files)) := by
  have returned : serverInitialize plainEnvironment.cipher .unset answeringSystem
      (.constructed files) = (some .success, startedAround files) := rfl
  exact serverInvariant_started (fun _ => Finset.notMem_empty _) rfl returned

/-- The message for a command from a process. -/
def ServerCommand.sent (command : ServerCommand) : ServerMessage :=
  command.message plainEnvironment 5

theorem ServerCommand.dispatch_sent {command : ServerCommand}
    (known : command.Known plainEnvironment)
    (own : ∀ aruid ∈ command.client, aruid = 5 ∨ aruid = 0) :
    command.sent.dispatch plainEnvironment = .called command :=
  dispatch_message known own

/-- The copy of the first screenshot on the SD card. -/
def copiedScreenshot : AlbumFileId :=
  { savedScreenshot with storageId := .sd }

theorem verified_copiedScreenshot : copiedScreenshot.Verified .unset :=
  (copiedScreenshot.verify_eq_success_iff _).mp (by decide)

/-- Two screenshots on the NAND storage. -/
def savedPair : FileStore FsPath (List UInt8) := fun path =>
  if path = albumFsPath plainEnvironment.cipher savedScreenshot then some [1, 2, 3]
  else if path = albumFsPath plainEnvironment.cipher secondScreenshot then some [4]
  else none

/-- The first screenshot is copied to the SD card and deleted; in between an application
is let in and sets its version, and a thumbnail is set. -/
def copyingCommands : List ServerCommand :=
  [ .accessor (.resetAlbumMountStatus .nand),
    .accessor (.resetAlbumMountStatus .sd),
    .accessor (.storageCopyAlbumFile .absent .sd savedScreenshot),
    .control (.registerAppletResourceUserId drawnKey 5 savedScreenshot.applicationId),
    .application (.setShimLibraryVersion 1 5),
    .control (.setOverlayScreenShotThumbnailData blackThumbnail.buffer savedScreenshot),
    .accessor (.deleteAlbumFile ⟨none, none⟩ savedScreenshot) ]

/-- Each of these messages comes to its handler. -/
theorem dispatch_copyingCommands {command : ServerCommand} (member : command ∈ copyingCommands) :
    command.sent.dispatch plainEnvironment = .called command := by
  simp only [copyingCommands, List.mem_cons, List.not_mem_nil, or_false] at member
  rcases member with rfl | rfl | rfl | rfl | rfl | rfl | rfl
  all_goals
    apply ServerCommand.dispatch_sent
    · rfl
    · simp [ServerCommand.client, AccessorCommand.client, ControlCommand.client,
        ApplicationCommand.client]

/-- None of them ends the process. -/
theorem copyingCommands_return :
    (Process.run (ServerMessage.perform plainEnvironment)
      (copyingCommands.map ServerCommand.sent) (.around (startedAround savedPair))).1 =
        some () := by
  decide +kernel

/-- Two of them make requests on files. -/
theorem filesPermitted_copyingCommands {permitted : FileRequest → Prop}
    (copy : permitted (.copyFile .absent savedScreenshot .sd))
    (deletion : permitted (.deleteFile ⟨none, none⟩ savedScreenshot)) :
    ∀ message ∈ copyingCommands.map ServerCommand.sent,
      message.FilesPermitted plainEnvironment permitted := by
  intro message member accessor request dispatched asked
  rcases List.mem_map.mp member with ⟨command, listed, rfl⟩
  rw [dispatch_copyingCommands listed] at dispatched
  cases dispatched
  simp only [copyingCommands, List.mem_cons, List.not_mem_nil, or_false,
    ServerCommand.accessor.injEq, reduceCtorEq, false_or] at listed
  rcases listed with rfl | rfl | rfl | rfl
  · cases asked
  · cases asked
  · cases asked
    exact copy
  · cases asked
    exact deletion

theorem serverInvariant_reached_copying :
    ServerInvariant .unset (Process.run (ServerMessage.perform plainEnvironment)
      (copyingCommands.map ServerCommand.sent) (.around (startedAround savedPair))).2 :=
  serverInvariant_reached plainEnvironment .unset answeringSystem (.constructed savedPair)
    (startedAround savedPair) .success (fun _ => Finset.notMem_empty _) rfl rfl
    (copyingCommands.map ServerCommand.sent)

end Capsrv
