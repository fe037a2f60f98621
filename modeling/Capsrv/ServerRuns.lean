import Capsrv.Foundation.Follows
import Capsrv.RequestInvariants
import Capsrv.ServerMessages

/-! # Runs of messages

Whatever clients send, the album manager goes through a run of its own requests
and the application album manager through a run of registrations and lookups.
What is known of such runs is known of the server.
-/

namespace Capsrv

open Server

/-! ## Independent parts -/

namespace Server

theorem album_independent_applications : albumPart.Independent applicationsPart where
  get_set _ _ := rfl
  set_comm _ _ _ := rfl

theorem album_independent_overlay : albumPart.Independent overlayPart where
  get_set _ _ := rfl
  set_comm _ _ _ := rfl

theorem album_independent_errorConverter : albumPart.Independent errorConverterPart where
  get_set _ _ := rfl
  set_comm _ _ _ := rfl

theorem applications_independent_overlay : applicationsPart.Independent overlayPart where
  get_set _ _ := rfl
  set_comm _ _ _ := rfl

theorem applications_independent_errorConverter :
    applicationsPart.Independent errorConverterPart where
  get_set _ _ := rfl
  set_comm _ _ _ := rfl

theorem fileIds_independent_applications : fileIdsPart.Independent applicationsPart where
  get_set _ _ := rfl
  set_comm _ _ _ := rfl

theorem fileIds_independent_overlay : fileIdsPart.Independent overlayPart where
  get_set _ _ := rfl
  set_comm _ _ _ := rfl

theorem overlay_independent_errorConverter : overlayPart.Independent errorConverterPart where
  get_set _ _ := rfl
  set_comm _ _ _ := rfl

end Server

/-! ## What the handlers are made of -/

/-- A request that returns outputs as well does what its result alone does. -/
theorem discard_first {σ α β : Type} (process : Process σ (α × β)) :
    process.discard = (process >>= fun outcome => pure outcome.1).discard := by
  rw [Process.discard, Process.discard, bind_assoc]
  rfl

/-- Of the saving storage the answer alone is looked at. -/
theorem discard_getAutoSavingStorage (cipher : PathCipher) (answers : SavingAnswers)
    (type : ContentType) :
    (Capsrv.getAutoSavingStorage answers type).discard =
      (AlbumRequest.perform cipher (.getAutoSavingStorage answers type)).discard := by
  rw [AlbumRequest.perform, Process.discard, Process.discard, bind_assoc]
  congr 1
  funext found
  cases found <;> rfl

/-- Loading the maker note leaves the settings as they were. -/
theorem setVerifyScreenshotFiledata_restored (settings : AlbumSettings) :
    ((settings.setVerifyScreenshotFiledata false).2.setVerifyScreenshotFiledata
      (settings.setVerifyScreenshotFiledata false).1).2 = settings := by
  rcases settings with ⟨defaultDirectory⟩
  cases defaultDirectory <;> rfl

theorem loadMakerNoteInfoForDebug_state (environment : Environment)
    (makernoteSize workSize : Nat) (fileId : AlbumFileId) (server : Server) :
    (AlbumAccessorService.loadMakerNoteInfoForDebug environment makernoteSize workSize fileId
      server).2 = server := by
  have restored := setVerifyScreenshotFiledata_restored server.album.manager.settings
  unfold AlbumAccessorService.loadMakerNoteInfoForDebug rUnless
  split
  · split
    · split
      · simp only [answer_eq, loadMakerNoteInfo, setVerifyScreenshotFiledata, Part.focus_pure,
          Process.bind_apply, Process.pure_apply, Part.focus, Process.returning_apply, albumPart]
        rw [restored]
      · rfl
    · rfl
  · rfl

/-- A thumbnail is set in three calls of the holder. -/
theorem contains_setOverlayThumbnailData (programs : ProgramClass Server)
    (focused : ∀ program : Process OverlayThumbnailHolder Unit,
      programs.Contains (overlayPart.focus program))
    (type : OverlayType) (buffer : List UInt8) (fileId : AlbumFileId) :
    programs.Contains (AlbumControlService.setOverlayThumbnailData type buffer fileId) := by
  apply programs.contains_ite
  · apply programs.contains_bind (focused _)
    intro _
    apply programs.contains_bind (focused _)
    intro _
    exact programs.contains_bind (focused _) fun _ => programs.contains_pure _
  · exact programs.contains_pure _

/-- The request on files that a handler makes. -/
def AccessorCommand.fileRequest : AccessorCommand → Option FileRequest
  | deleteAlbumFile faults fileId => some (.deleteFile faults fileId)
  | storageCopyAlbumFile faults dst fileId => some (.copyFile faults fileId dst)
  | _ => none

/-- A request on files is a permitted one. -/
def AlbumRequest.FilesPermitted (permitted : FileRequest → Prop) : AlbumRequest → Prop
  | deleteFile faults fileId => permitted (.deleteFile faults fileId)
  | copyFile faults sourceId destination => permitted (.copyFile faults sourceId destination)
  | _ => True

namespace ServerMessage

/-- A message that makes a request on files makes a permitted one. -/
def FilesPermitted (environment : Environment) (permitted : FileRequest → Prop)
    (message : ServerMessage) : Prop :=
  ∀ command request, message.dispatch environment = .called (.accessor command) →
    command.fileRequest = some request → permitted request

theorem filesPermitted_true (environment : Environment) (message : ServerMessage) :
    message.FilesPermitted environment fun _ => True :=
  fun _ _ _ _ => trivial

end ServerMessage

/-- The calls that the handlers make of the shared objects. -/
structure ContainsCalls (environment : Environment) (settings : AlbumSettings)
    (permitted : FileRequest → Prop) (programs : ProgramClass Server) : Prop where
  album : ∀ {α : Type} (program : Process Service α) (request : AlbumRequest),
    request.FilesPermitted permitted →
    program.discard = (request.perform environment.cipher).discard →
    programs.Contains (albumPart.focus program)
  applications : ∀ {α : Type} (program : Process ApplicationAlbumManager α)
    (request : ApplicationRequest),
    program.discard = (request.perform environment.ciphers settings).discard →
    programs.Contains (applicationsPart.focus program)
  generateFileId : ∀ answers clock applicationId type, programs.Contains
    (fileIdsPart.focus (generateFileIdOn environment.calendar answers clock applicationId type))
  getLastOverlayThumbnail : ∀ outBufferSize type, programs.Contains
    (overlayPart.focus (awaited fun holder =>
      (holder.getLastOverlayThumbnail outBufferSize type).map fun read => (read, holder)))
  setOverlayThumbnailData : ∀ type buffer fileId, programs.Contains
    (AlbumControlService.setOverlayThumbnailData type buffer fileId)
  setMode : ∀ mode, programs.Contains
    (errorConverterPart.focus (Process.modify (·.setMode mode)))

namespace ContainsCalls

variable {environment : Environment} {settings : AlbumSettings} {permitted : FileRequest → Prop}
  {programs : ProgramClass Server}
  (calls : ContainsCalls environment settings permitted programs)

theorem answer {α : Type} (output : α → Output) (outcome : Result × α) :
    programs.Contains (answer output outcome) := by
  rw [answer_eq]
  exact programs.contains_pure _

/-- A handler that answers what a call returns. -/
theorem answered {α : Type} {process : Process Server (Result × α)} (output : α → Output)
    (call : programs.Contains process) :
    programs.Contains (process >>= Server.answer output) :=
  programs.contains_bind call fun outcome => answer output outcome

theorem answeredResult {process : Process Server Result} (call : programs.Contains process) :
    programs.Contains (process >>= answerResult) :=
  programs.contains_bind call fun rc => answer _ (rc, ())

include calls

theorem album_mount (request : MountRequest) :
    programs.Contains (albumPart.focus request.perform) :=
  calls.album _ (.mount request) trivial rfl

/-- A lookup that leaves the table alone. -/
theorem applications_reading {α : Type} (read : ApplicationAlbumManager → α) :
    programs.Contains
      (applicationsPart.focus (Process.returning fun manager => (read manager, manager))) :=
  calls.applications _ (.lookup (.checkApplicationIdRegistered 0)) rfl

theorem getLastThumbnail (outBufferSize : Nat) (type : OverlayType) :
    programs.Contains (AlbumAccessorService.getLastOverlayThumbnail outBufferSize type) := by
  apply programs.contains_bind (calls.getLastOverlayThumbnail outBufferSize type)
  intro read
  cases read with
  | error rc => exact answer _ _
  | ok thumbnail => exact answer _ _

theorem setShimLibraryVersion (version aruid : UInt64) :
    programs.Contains (AlbumControlService.setShimLibraryVersion version aruid) :=
  answeredResult (calls.applications _ (.lookup (.setShimLibraryVersion version aruid)) rfl)

omit calls in
theorem openSession (faults : SessionFaults) : programs.Contains (Server.openSession faults) :=
  programs.contains_ite (programs.contains_ite (programs.contains_pure _) programs.contains_abort)
    programs.contains_abort

omit calls in
theorem saveAlbumScreenShot (image : List UInt8) (fileId : AlbumFileId) :
    programs.Contains (AlbumControlService.saveAlbumScreenShot image fileId) := by
  apply answeredResult
  rw [saveScreenshotFile, Part.focus_pure]
  exact programs.contains_pure _

theorem usage (fault : Fault) (storageId : StorageId) :
    programs.Contains (AlbumAccessorService.usage fault storageId) :=
  answeredResult (calls.album _ (.getAlbumUsage fault storageId) trivial rfl)

theorem accessor (command : AccessorCommand)
    (permits : ∀ request, command.fileRequest = some request → permitted request) :
    programs.Contains (command.perform environment) := by
  cases command with
  | getAlbumFileCount answers storageId =>
      exact answered _ (calls.album _
        (.countEntries answers 0 storageId contentTypeFlagNormal) trivial (discard_first _))
  | getAlbumFileList answers maxEntries storageId =>
      exact answered _ (calls.album _
        (.listEntries answers maxEntries storageId contentTypeFlagNormal) trivial
        (discard_first _))
  | loadAlbumFile fault fileId =>
      exact programs.contains_bind (calls.album _ (.loadJpeg fault fileId) trivial rfl)
        fun rc => answer _ _
  | deleteAlbumFile faults fileId =>
      exact answeredResult (calls.album _ (.deleteFile faults fileId) (permits _ rfl) rfl)
  | storageCopyAlbumFile faults dst fileId =>
      exact answeredResult (calls.album _ (.copyFile faults fileId dst) (permits _ rfl) rfl)
  | isAlbumMounted fault storageId =>
      exact programs.contains_bind (calls.album_mount (.mountImageDirectory fault storageId))
        fun rc => programs.contains_pure _
  | getAlbumUsage fault storageId => exact calls.usage fault storageId
  | getAlbumFileSize faults fileId =>
      exact answered _ (calls.album _ (.getFileSize faults fileId) trivial (discard_first _))
  | loadAlbumFileThumbnail fault fileId =>
      exact programs.contains_bind (calls.album _ (.loadJpegThumbnail fault fileId) trivial rfl)
        fun rc => answer _ _
  | getAlbumEntryFromApplicationAlbumEntry temporary out appEntry applicationId =>
      exact programs.contains_bind programs.contains_get
        fun server => answered _ (calls.applications_reading _)
  | getAlbumUsage3 fault storageId => exact calls.usage fault storageId
  | getAlbumMountResult fault storageId =>
      exact answeredResult (calls.album_mount (.mountImageDirectory fault storageId))
  | getAlbumUsage16 fault storageId flags => exact calls.usage fault storageId
  | getAlbumFileCountEx0 answers storageId flags =>
      exact answered _ (calls.album _ (.countEntries answers 0 storageId flags) trivial
        (discard_first _))
  | getAlbumFileListEx0 answers maxEntries storageId flags =>
      exact answered _ (calls.album _ (.listEntries answers maxEntries storageId flags) trivial
        (discard_first _))
  | saveEditedScreenShot => exact programs.contains_abort
  | getLastOverlayScreenShotThumbnail outBufferSize =>
      exact calls.getLastThumbnail outBufferSize .screenshot
  | getLastOverlayMovieThumbnail outBufferSize =>
      exact calls.getLastThumbnail outBufferSize .movie
  | getAutoSavingStorage answers =>
      apply programs.contains_bind (calls.album _ (.getAutoSavingStorage answers .screenshot)
        trivial (discard_getAutoSavingStorage _ answers .screenshot))
      intro found
      cases found with
      | error rc => exact answer _ _
      | ok storageId => exact answer _ _
  | getRequiredStorageSpaceSizeToCopyAll sourceFault destinationFault dst src =>
      exact answered _ (calls.album _
        (.getRequiredStorageSpaceSizeToCopyAll sourceFault destinationFault src dst) trivial
        (discard_first _))
  | forceAlbumUnmounted storageId =>
      exact answeredResult (calls.album_mount (.closeImageDirectory storageId))
  | resetAlbumMountStatus storageId =>
      exact answeredResult (calls.album_mount (.unmountImageDirectory storageId))
  | refreshAlbumCache answers counts storageId =>
      exact answeredResult (calls.album _ (.refreshCache answers counts storageId) trivial rfl)
  | getAlbumCache storageId =>
      apply programs.contains_ite
      · exact answered _ (calls.album _ (.getCache storageId .screenshot) trivial
          (discard_first _))
      · exact programs.contains_pure _
  | getAlbumCacheEx storageId type =>
      exact answered _ (calls.album _ (.getCache storageId type) trivial (discard_first _))
  | getAlbumEntryFromApplicationAlbumEntryAruid temporary out appEntry aruid =>
      exact programs.contains_bind programs.contains_get
        fun server => answered _ (calls.applications_reading _)
  | setInternalErrorConversionEnabled mode =>
      exact programs.contains_bind (calls.setMode mode) fun _ => programs.contains_pure _
  | loadMakerNoteInfoForDebug makernoteSize workSize fileId =>
      exact programs.contains_of_unchanged
        (loadMakerNoteInfoForDebug_state environment makernoteSize workSize fileId)
  | openAccessorSession faults aruid => exact openSession faults
  | _ => exact programs.contains_pure _

theorem control (command : ControlCommand) :
    programs.Contains (command.perform environment) := by
  cases command with
  | setShimLibraryVersion version aruid => exact calls.setShimLibraryVersion version aruid
  | notifyAlbumStorageIsAvailable answers counts storageId =>
      apply programs.contains_bind (calls.album_mount (.unmountImageDirectory storageId))
      intro rc
      apply programs.contains_ite
      · exact answeredResult (calls.album _ (.refreshCache answers counts storageId) trivial rfl)
      · exact answeredResult (programs.contains_pure rc)
  | notifyAlbumStorageIsUnavailable storageId =>
      exact answeredResult (calls.album_mount (.closeImageDirectory storageId))
  | registerAppletResourceUserId key aruid applicationId =>
      exact answeredResult (calls.applications _ (.register key aruid applicationId) rfl)
  | unregisterAppletResourceUserId aruid applicationId =>
      exact programs.contains_bind (calls.applications _ (.unregister aruid applicationId) rfl)
        fun _ => programs.contains_pure _
  | getApplicationIdFromAruid aruid => exact answered _ (calls.applications_reading _)
  | checkApplicationIdRegistered applicationId =>
      exact answeredResult (calls.applications_reading _)
  | generateCurrentAlbumFileId answers clock applicationId type =>
      apply programs.contains_bind (calls.generateFileId answers clock applicationId type)
      intro generated
      cases generated with
      | error rc => exact answer _ _
      | ok fileId => exact answer _ _
  | generateApplicationAlbumEntry temporary out entry applicationId =>
      exact answered _ (calls.applications_reading _)
  | saveAlbumScreenShotFile image fileId => exact saveAlbumScreenShot image fileId
  | saveAlbumScreenShotFileEx image fileId unk0 unk1 unk2 =>
      exact saveAlbumScreenShot image fileId
  | setOverlayScreenShotThumbnailData buffer fileId =>
      exact calls.setOverlayThumbnailData .screenshot buffer fileId
  | setOverlayMovieThumbnailData buffer fileId =>
      exact calls.setOverlayThumbnailData .movie buffer fileId
  | openControlSession faults aruid => exact openSession faults
  | _ => exact programs.contains_abort

theorem application (command : ApplicationCommand) : programs.Contains command.perform := by
  cases command with
  | setShimLibraryVersion version aruid => exact calls.setShimLibraryVersion version aruid
  | openAccessorSessionForApplication faults aruid => exact openSession faults
  | _ => exact programs.contains_abort

/-- Every handler is made of these calls, and so is a message. -/
theorem message {message : ServerMessage} (permits : message.FilesPermitted environment permitted) :
    programs.Contains (message.perform environment) := by
  rcases message.perform_cases environment with ⟨rc, refused⟩ | malformed |
    ⟨command, dispatched, called⟩
  · rw [refused]
    exact programs.contains_pure _
  · rw [malformed]
    exact programs.contains_abort
  · rw [called]
    cases command with
    | control command => exact calls.control command
    | accessor command =>
        exact calls.accessor command fun request => permits command request dispatched
    | application command => exact calls.application command

theorem run {messages : List ServerMessage}
    (permits : ∀ message ∈ messages, message.FilesPermitted environment permitted) :
    programs.Contains (Process.run (ServerMessage.perform environment) messages) :=
  programs.contains_run fun message member => calls.message (permits message member)

end ContainsCalls

/-! ## Runs of the managers -/

/-- A generated id asks where to save, and nothing else, of the album manager. -/
theorem generateFileIdOn_album (calendar : Calendar) (answers : SavingAnswers)
    (clock : Except Failure UInt64) (applicationId : UInt64) (type : ContentType)
    (pair : AlbumFileIdGenerator × Service) :
    let outcome := generateFileIdOn calendar answers clock applicationId type pair
    outcome.2.2 = (Capsrv.getAutoSavingStorage answers type pair.2).2 ∧
      outcome.1.isSome = (Capsrv.getAutoSavingStorage answers type pair.2).1.isSome := by
  simp only [generateFileIdOn, AlbumFileIdGenerator.generateFileId, Process.bind_apply]
  rcases Capsrv.getAutoSavingStorage answers type pair.2 with ⟨_ | result | storageId, service⟩
  · exact ⟨rfl, rfl⟩
  · exact ⟨rfl, rfl⟩
  · cases clock with
    | error failure => exact ⟨rfl, rfl⟩
    | ok timestamp =>
        cases converted : calendar timestamp with
        | error failure =>
            simp only [converted]
            exact ⟨rfl, rfl⟩
        | ok time =>
            simp only [converted]
            exact ⟨rfl, rfl⟩

section

variable (environment : Environment) (settings : AlbumSettings) (permitted : FileRequest → Prop)

theorem containsCalls_album : ContainsCalls environment settings permitted
    (albumPart.following (AlbumRequest.perform environment.cipher)
      (AlbumRequest.FilesPermitted permitted)) where
  album _ request permits same := Part.follows_focus request permits same
  applications program _ _ := album_independent_applications.symm.follows_focus program
  generateFileId answers clock applicationId type := by
    intro server
    rcases generateFileIdOn_album environment.calendar answers clock applicationId type
      (server.fileIds, server.album) with ⟨reached, returns⟩
    have same := discard_getAutoSavingStorage environment.cipher answers type
    refine ⟨[.getAutoSavingStorage answers type], ?_, ?_, fun returned => ?_⟩
    · intro request member
      rw [List.mem_singleton.mp member]
      trivial
    · rw [Process.run_eq_discard, ← same, Process.discard_snd]
      exact reached
    · have answered :
          ((Capsrv.getAutoSavingStorage answers type).discard server.album).1.isSome := by
        rw [Process.discard_isSome, ← returns]
        exact returned
      rw [same] at answered
      rcases Option.isSome_iff_exists.mp answered with ⟨⟨⟩, outcome⟩
      exact outcome
  getLastOverlayThumbnail _ _ := album_independent_overlay.symm.follows_focus _
  setOverlayThumbnailData := contains_setOverlayThumbnailData _
    fun program => album_independent_overlay.symm.follows_focus program
  setMode _ := album_independent_errorConverter.symm.follows_focus _

theorem containsCalls_applications : ContainsCalls environment settings permitted
    (applicationsPart.following (ApplicationRequest.perform environment.ciphers settings)
      fun _ => True) where
  album program _ _ _ := album_independent_applications.follows_focus program
  applications _ request same := Part.follows_focus request trivial same
  generateFileId _ _ _ _ := fileIds_independent_applications.follows_focus _
  getLastOverlayThumbnail _ _ := applications_independent_overlay.symm.follows_focus _
  setOverlayThumbnailData := contains_setOverlayThumbnailData _
    fun program => applications_independent_overlay.symm.follows_focus program
  setMode _ := applications_independent_errorConverter.symm.follows_focus _

end

/-- A run of messages is a run of requests to the album manager and a run of
requests to the application album manager, and both return if it does. -/
theorem serverRun_follows (environment : Environment) (settings : AlbumSettings)
    (messages : List ServerMessage) (server : Server) :
    let ended := Process.run (ServerMessage.perform environment) messages server
    (∃ requests, ended.2.album =
        (Process.run (AlbumRequest.perform environment.cipher) requests server.album).2 ∧
      (ended.1.isSome →
        (Process.run (AlbumRequest.perform environment.cipher) requests server.album).1 =
          some ())) ∧
      ∃ requests, ended.2.applications =
          (Process.run (ApplicationRequest.perform environment.ciphers settings) requests
            server.applications).2 ∧
        (ended.1.isSome →
          (Process.run (ApplicationRequest.perform environment.ciphers settings) requests
            server.applications).1 = some ()) := by
  have anything := fun message (_ : message ∈ messages) => message.filesPermitted_true environment
  rcases (containsCalls_album environment settings _).run anything server with
    ⟨albumRequests, -, album⟩
  rcases (containsCalls_applications environment settings _).run anything server with
    ⟨applicationRequests, -, applications⟩
  exact ⟨⟨albumRequests, album⟩, applicationRequests, applications⟩

end Capsrv
