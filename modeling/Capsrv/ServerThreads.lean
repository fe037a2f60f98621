import Capsrv.Foundation.ThreadProgress
import Capsrv.ServerAborts
import Mathlib.Data.Finite.Defs

/-! # The threads of the server

Two threads answer messages: one those of the control service, one those of the
accessor and the application service. Which locks a handler takes, on which of the
shared objects it works, and why the order of the threads does not matter.
-/

namespace Capsrv

open Server Process Threads

/-! ## Threads, locks and objects -/

/-- The threads that `main` starts. -/
inductive ServerThread where
  | system
  | application
deriving DecidableEq

instance : Finite ServerThread := by
  apply Finite.of_injective fun thread : ServerThread => decide (thread = .system)
  intro thread other
  cases thread <;> cases other <;> decide

/-- `g_AlbumMutex`, and the mutexes of the application album manager and of the
overlay holder. `g_ApplicationMutex` is never taken. -/
inductive ServerLock where
  | album
  | applications
  | overlay
deriving DecidableEq

/-- The place of a lock in the order in which the locks are taken. -/
def ServerLock.rank : ServerLock → Nat
  | album => 0
  | applications => 1
  | overlay => 2

/-- The shared objects, and nothing for a thread of its own. -/
inductive ServerRegion where
  | album
  | fileIds
  | overlay
  | applications
  | errorConverter
  | own (thread : ServerThread)
deriving DecidableEq

namespace Server

def nothingPart : Part Server Unit where
  get _ := ()
  set _ server := server
  get_set _ _ := rfl
  set_get _ := rfl
  set_set _ _ _ := rfl

def Cell : ServerRegion → Type
  | .album => Service
  | .fileIds => AlbumFileIdGenerator
  | .overlay => OverlayThumbnailHolder
  | .applications => ApplicationAlbumManager
  | .errorConverter => AlbumErrorConverter
  | .own _ => Unit

def regionPart : ∀ region, Part Server (Cell region)
  | .album => albumPart
  | .fileIds => generatorPart
  | .overlay => overlayPart
  | .applications => applicationsPart
  | .errorConverter => errorConverterPart
  | .own _ => nothingPart

theorem regionPart_independent (region other : ServerRegion) (different : region ≠ other) :
    (regionPart region).Independent (regionPart other) := by
  cases region <;> cases other <;>
    first
      | exact absurd rfl different
      | exact ⟨fun _ _ => rfl, fun _ _ _ => rfl⟩

def layout : Layout Server ServerRegion :=
  ⟨Cell, regionPart, regionPart_independent⟩

/-- The objects are the whole server. -/
theorem eq_of_regions {server other : Server}
    (same : ∀ region, (layout.part region).get server = (layout.part region).get other) :
    server = other := by
  have album : server.album = other.album := same .album
  have fileIds : server.fileIds = other.fileIds := same .fileIds
  have overlay : server.overlay = other.overlay := same .overlay
  have applications : server.applications = other.applications := same .applications
  have errorConverter : server.errorConverter = other.errorConverter := same .errorConverter
  cases server
  cases other
  cases album
  cases fileIds
  cases overlay
  cases applications
  cases errorConverter
  rfl

end Server

/-! ## What the handlers lock -/

/-- The locks a handler takes, in this order, and the object it works on while it
holds them. -/
structure Footprint where
  locks : List ServerLock
  region : ServerRegion

namespace Footprint

def album : Footprint := ⟨[.album], .album⟩
def applications : Footprint := ⟨[.applications], .applications⟩
def shim : Footprint := ⟨[.album, .applications], .applications⟩
def overlay : Footprint := ⟨[.overlay], .overlay⟩
def picture : Footprint := ⟨[.album], .own .application⟩
def untouched (thread : ServerThread) : Footprint := ⟨[], .own thread⟩

/-- A footprint of a thread: the locks are in order, and the object is its own or
the lock of the object is taken. -/
structure Fits (thread : ServerThread) (footprint : Footprint) : Prop where
  ordered : footprint.locks.Pairwise fun first second => first.rank < second.rank
  album : footprint.region = .album → .album ∈ footprint.locks
  applications : footprint.region = .applications → .applications ∈ footprint.locks
  overlay : footprint.region = .overlay → .overlay ∈ footprint.locks
  fileIds : footprint.region ≠ .fileIds
  errorConverter : footprint.region = .errorConverter → thread = .application
  own : ∀ other, footprint.region = .own other → thread = other

theorem fits_untouched (thread : ServerThread) : (untouched thread).Fits thread where
  ordered := .nil
  album := nofun
  applications := nofun
  overlay := nofun
  fileIds := nofun
  errorConverter := nofun
  own other same := by
    cases same
    rfl

theorem fits_album (thread : ServerThread) : album.Fits thread :=
  ⟨List.pairwise_singleton _ _, fun _ => by decide, nofun, nofun, nofun, nofun, nofun⟩

theorem fits_applications (thread : ServerThread) : applications.Fits thread :=
  ⟨List.pairwise_singleton _ _, nofun, fun _ => by decide, nofun, nofun, nofun, nofun⟩

theorem fits_shim (thread : ServerThread) : shim.Fits thread :=
  ⟨by decide, nofun, fun _ => by decide, nofun, nofun, nofun, nofun⟩

theorem fits_overlay (thread : ServerThread) : overlay.Fits thread :=
  ⟨List.pairwise_singleton _ _, nofun, nofun, fun _ => by decide, nofun, nofun, nofun⟩

theorem fits_picture : picture.Fits .application where
  ordered := List.pairwise_singleton _ _
  album := nofun
  applications := nofun
  overlay := nofun
  fileIds := nofun
  errorConverter := nofun
  own other same := by
    cases same
    rfl

theorem fits_ite {condition : Prop} [Decidable condition] {thread : ServerThread}
    {first second footprint : Footprint} (holds : first.Fits thread) (fails : second.Fits thread)
    (same : some (if condition then first else second) = some footprint) :
    footprint.Fits thread := by
  cases same
  split
  · exact holds
  · exact fails

/-- Two threads on one object take its lock. -/
theorem Fits.common {thread other : ServerThread} {footprint otherFootprint : Footprint}
    (fits : footprint.Fits thread) (otherFits : otherFootprint.Fits other)
    (different : thread ≠ other) (same : footprint.region = otherFootprint.region) :
    ∃ lock ∈ footprint.locks, lock ∈ otherFootprint.locks := by
  cases region : footprint.region with
  | album => exact ⟨.album, fits.album region, otherFits.album (same.symm.trans region)⟩
  | fileIds => exact absurd region fits.fileIds
  | overlay => exact ⟨.overlay, fits.overlay region, otherFits.overlay (same.symm.trans region)⟩
  | applications =>
      exact ⟨.applications, fits.applications region,
        otherFits.applications (same.symm.trans region)⟩
  | errorConverter =>
      have first := fits.errorConverter region
      exact absurd (first.trans (otherFits.errorConverter (same.symm.trans region)).symm) different
  | own owner =>
      have first := fits.own owner region
      exact absurd (first.trans (otherFits.own owner (same.symm.trans region)).symm) different

end Footprint

namespace AccessorCommand

/-- None for a handler that works on an object without its lock: in debug mode the
maker note is loaded between two changes of the settings. -/
def footprint (environment : Environment) : AccessorCommand → Option Footprint
  | getAlbumEntryFromApplicationAlbumEntry _ _ _ _ => some .applications
  | getAlbumEntryFromApplicationAlbumEntryAruid _ _ _ _ => some .applications
  | getLastOverlayScreenShotThumbnail outBufferSize =>
      some (if overlayBufferSize ≤ outBufferSize then .overlay else .untouched .application)
  | getLastOverlayMovieThumbnail outBufferSize =>
      some (if overlayBufferSize ≤ outBufferSize then .overlay else .untouched .application)
  | getAlbumCache _ =>
      some (if environment.hosVersion.value < HosVersion.version4.value then .album
        else .untouched .application)
  | setInternalErrorConversionEnabled _ => some ⟨[], .errorConverter⟩
  | getMinMaxAppletId _ => some (.untouched .application)
  | saveEditedScreenShot => some (.untouched .application)
  | loadMakerNoteInfoForDebug _ _ _ =>
      if environment.isDebug then none else some (.untouched .application)
  | openAccessorSession _ _ => some (.untouched .application)
  | loadAlbumScreenShotImage => some .picture
  | loadAlbumScreenShotThumbnailImage => some .picture
  | loadAlbumScreenShotImageEx => some .picture
  | loadAlbumScreenShotThumbnailImageEx => some .picture
  | loadAlbumScreenShotImageEx0 => some .picture
  | loadAlbumScreenShotThumbnailImageEx0 => some .picture
  | loadAlbumScreenShotImageEx1 => some .picture
  | loadAlbumScreenShotThumbnailImageEx1 => some .picture
  | _ => some .album

end AccessorCommand

namespace ControlCommand

/-- None for a file id, which is generated without `g_AlbumMutex`, and for a thumbnail
that is long enough: its pixels are copied between two calls of the holder, which take
its mutex and may wait in it. -/
def footprint : ControlCommand → Option Footprint
  | setShimLibraryVersion _ _ => some .shim
  | notifyAlbumStorageIsAvailable _ _ _ => some .album
  | notifyAlbumStorageIsUnavailable _ => some .album
  | registerAppletResourceUserId _ _ _ => some .applications
  | unregisterAppletResourceUserId _ _ => some .applications
  | getApplicationIdFromAruid _ => some .applications
  | checkApplicationIdRegistered _ => some .applications
  | generateCurrentAlbumFileId _ _ _ _ => none
  | generateApplicationAlbumEntry _ _ _ _ => some .applications
  | saveAlbumScreenShotFile _ _ => some .album
  | saveAlbumScreenShotFileEx _ _ _ _ _ => some .album
  | setOverlayScreenShotThumbnailData buffer _ =>
      if overlayBufferSize ≤ buffer.length then none else some (.untouched .system)
  | setOverlayMovieThumbnailData buffer _ =>
      if overlayBufferSize ≤ buffer.length then none else some (.untouched .system)
  | _ => some (.untouched .system)

end ControlCommand

def ApplicationCommand.footprint : ApplicationCommand → Footprint
  | setShimLibraryVersion _ _ => .shim
  | _ => .untouched .application

namespace ServerCommand

def thread : ServerCommand → ServerThread
  | control _ => .system
  | accessor _ => .application
  | application _ => .application

def footprint (environment : Environment) : ServerCommand → Option Footprint
  | control command => command.footprint
  | accessor command => command.footprint environment
  | application command => some command.footprint

variable {environment : Environment} {footprint : Footprint}

theorem fits_accessor {command : AccessorCommand}
    (locked : command.footprint environment = some footprint) : footprint.Fits .application := by
  cases command with
  | getAlbumEntryFromApplicationAlbumEntry | getAlbumEntryFromApplicationAlbumEntryAruid =>
      cases locked
      exact Footprint.fits_applications _
  | getLastOverlayScreenShotThumbnail | getLastOverlayMovieThumbnail =>
      exact Footprint.fits_ite (Footprint.fits_overlay _) (Footprint.fits_untouched _) locked
  | getAlbumCache =>
      exact Footprint.fits_ite (Footprint.fits_album _) (Footprint.fits_untouched _) locked
  | setInternalErrorConversionEnabled =>
      cases locked
      exact ⟨.nil, nofun, nofun, nofun, nofun, fun _ => rfl, nofun⟩
  | loadMakerNoteInfoForDebug =>
      rw [AccessorCommand.footprint, Option.ite_none_left_eq_some] at locked
      cases locked.2
      exact Footprint.fits_untouched _
  | getMinMaxAppletId | saveEditedScreenShot | openAccessorSession =>
      cases locked
      exact Footprint.fits_untouched _
  | loadAlbumScreenShotImage | loadAlbumScreenShotThumbnailImage | loadAlbumScreenShotImageEx |
    loadAlbumScreenShotThumbnailImageEx | loadAlbumScreenShotImageEx0 |
    loadAlbumScreenShotThumbnailImageEx0 | loadAlbumScreenShotImageEx1 |
    loadAlbumScreenShotThumbnailImageEx1 =>
      cases locked
      exact Footprint.fits_picture
  | _ =>
      cases locked
      exact Footprint.fits_album _

theorem fits_control {command : ControlCommand} (locked : command.footprint = some footprint) :
    footprint.Fits .system := by
  cases command with
  | setShimLibraryVersion =>
      cases locked
      exact Footprint.fits_shim _
  | notifyAlbumStorageIsAvailable | notifyAlbumStorageIsUnavailable | saveAlbumScreenShotFile |
    saveAlbumScreenShotFileEx =>
      cases locked
      exact Footprint.fits_album _
  | registerAppletResourceUserId | unregisterAppletResourceUserId | getApplicationIdFromAruid |
    checkApplicationIdRegistered | generateApplicationAlbumEntry =>
      cases locked
      exact Footprint.fits_applications _
  | setOverlayScreenShotThumbnailData | setOverlayMovieThumbnailData =>
      rw [ControlCommand.footprint, Option.ite_none_left_eq_some] at locked
      cases locked.2
      exact Footprint.fits_untouched _
  | generateCurrentAlbumFileId => cases locked
  | _ =>
      cases locked
      exact Footprint.fits_untouched _

theorem fits {command : ServerCommand} (locked : command.footprint environment = some footprint) :
    footprint.Fits command.thread := by
  cases command with
  | control command => exact fits_control locked
  | accessor command => exact fits_accessor locked
  | application command =>
      cases locked
      cases command with
      | setShimLibraryVersion => exact Footprint.fits_shim _
      | _ => exact Footprint.fits_untouched _

end ServerCommand

/-! ## Handlers on one object -/

/-- With the settings of the start, the program is one on the object alone. -/
def ConfinedTo (settings : AlbumSettings) (region : ServerRegion) (process : Process Server Reply) :
    Prop :=
  ∃ body : Process (Cell region) Reply, ∀ server, server.album.manager.settings = settings →
    (regionPart region).focus body server = process server

section

variable {settings : AlbumSettings} {α : Type}

theorem confinedTo_of_eq {region : ServerRegion} {process : Process Server Reply}
    (body : Process (Cell region) Reply) (same : (regionPart region).focus body = process) :
    ConfinedTo settings region process :=
  ⟨body, fun server _ => congrFun same server⟩

theorem confinedTo_pure (region : ServerRegion) (reply : Reply) :
    ConfinedTo settings region (pure reply) :=
  confinedTo_of_eq (pure reply) ((regionPart region).focus_pure reply)

theorem confinedTo_abort (region : ServerRegion) : ConfinedTo settings region Process.abort := by
  apply confinedTo_of_eq Process.abort
  funext server
  exact Prod.ext rfl ((regionPart region).set_get server)

theorem confinedTo_openSession (region : ServerRegion) (faults : SessionFaults) :
    ConfinedTo settings region (openSession faults) := by
  unfold openSession rTry
  split
  · split
    · exact confinedTo_pure _ _
    · exact confinedTo_abort _
  · exact confinedTo_abort _

/-- A call on the object whose outcome is turned into a reply. -/
theorem confinedTo_replying (region : ServerRegion) (program : Process (Cell region) α)
    {continuation : α → Process Server Reply} (reply : α → Reply)
    (same : ∀ outcome, continuation outcome = pure (reply outcome)) :
    ConfinedTo settings region ((regionPart region).focus program >>= continuation) := by
  apply confinedTo_of_eq (program >>= fun outcome => pure (reply outcome))
  rw [Part.focus_bind, funext same]
  simp only [Part.focus_pure]

theorem confinedTo_answered (region : ServerRegion) (program : Process (Cell region) (Result × α))
    (output : α → Output) :
    ConfinedTo settings region ((regionPart region).focus program >>= answer output) :=
  confinedTo_replying region program _ fun outcome => answer_eq output outcome

theorem confinedTo_answeredResult (region : ServerRegion) (program : Process (Cell region) Result) :
    ConfinedTo settings region ((regionPart region).focus program >>= answerResult) :=
  confinedTo_replying region program _ fun rc => answer_eq _ (rc, ())

/-- A buffer that is too short is refused before the lock is taken. -/
theorem getLastOverlayThumbnail_of_short {outBufferSize : Nat}
    (short : ¬ overlayBufferSize ≤ outBufferSize) (type : OverlayType) :
    AlbumAccessorService.getLastOverlayThumbnail outBufferSize type =
      pure (.error albumReadBufferShortage.result) := by
  funext server
  have refused : server.overlay.getLastOverlayThumbnail outBufferSize type =
      some (.error albumReadBufferShortage.result) := by
    rw [OverlayThumbnailHolder.getLastOverlayThumbnail, rUnless, if_neg short]
  have called : (overlayPart.focus (awaited fun holder =>
      (holder.getLastOverlayThumbnail outBufferSize type).map fun read => (read, holder))) server =
      (some (.error albumReadBufferShortage.result), server) := by
    simp only [Part.focus, awaited, overlayPart, refused, Option.map_some]
  rw [AlbumAccessorService.getLastOverlayThumbnail, bind_of_eq_some called]
  exact congrFun (answer_eq _ (albumReadBufferShortage.result, ())) server

/-- What is replied when a call ends, with or without a value. -/
def replyTo {α : Type} (unset : Output) (output : α → Output) : Except Result α → Reply
  | .error rc => rTry rc .error (.ok unset)
  | .ok value => .ok (output value)

theorem confinedTo_getLastOverlayThumbnail (outBufferSize : Nat) (type : OverlayType) :
    ConfinedTo settings
      (if overlayBufferSize ≤ outBufferSize then Footprint.overlay
        else Footprint.untouched .application).region
      (AlbumAccessorService.getLastOverlayThumbnail outBufferSize type) := by
  split
  case isTrue =>
    apply confinedTo_replying .overlay _ (replyTo .nothing .thumbnail)
    intro read
    cases read with
    | error rc => exact answer_eq _ (rc, ())
    | ok thumbnail => exact answer_eq _ (.success, thumbnail)
  case isFalse short =>
    rw [getLastOverlayThumbnail_of_short short]
    exact confinedTo_pure _ _

/-- Reading the settings is no part of the work on the applications. -/
theorem confinedTo_readingSettings
    (read : AlbumSettings → ApplicationAlbumManager → Result × AlbumEntry) :
    ConfinedTo settings .applications (do
      let settings := (← Process.get).album.manager.settings
      answer .entry (← applicationsPart.focus (Process.returning fun manager =>
        (read settings manager, manager)))) := by
  have confined : ConfinedTo settings .applications
      (applicationsPart.focus (Process.returning fun manager =>
        (read settings manager, manager)) >>= answer .entry) :=
    confinedTo_answered .applications _ _
  rcases confined with ⟨body, same⟩
  refine ⟨body, fun server started => ?_⟩
  rw [same server started, ← started]
  rfl

theorem confinedTo_accessor (environment : Environment) {command : AccessorCommand}
    {footprint : Footprint} (locked : command.footprint environment = some footprint) :
    ConfinedTo settings footprint.region (command.perform environment) := by
  cases command with
  | getAlbumFileCount | getAlbumFileList | getAlbumFileSize | getAlbumFileCountEx0 |
    getAlbumFileListEx0 | getRequiredStorageSpaceSizeToCopyAll | getAlbumCacheEx =>
      cases locked
      exact confinedTo_answered .album _ _
  | deleteAlbumFile | storageCopyAlbumFile | getAlbumUsage | getAlbumUsage3 |
    getAlbumMountResult | getAlbumUsage16 | forceAlbumUnmounted | resetAlbumMountStatus |
    refreshAlbumCache =>
      cases locked
      exact confinedTo_answeredResult .album _
  | loadAlbumFile | loadAlbumFileThumbnail =>
      cases locked
      exact confinedTo_replying .album _ _ fun rc => answer_eq _ (rc, 0)
  | isAlbumMounted =>
      cases locked
      exact confinedTo_replying .album _ _ fun rc => rfl
  | getAlbumEntryFromApplicationAlbumEntry temporary out appEntry applicationId =>
      cases locked
      exact confinedTo_readingSettings fun settings manager =>
        manager.getAlbumEntryFromApplicationAlbumEntry environment.ciphers settings temporary out
          appEntry applicationId
  | getAlbumEntryFromApplicationAlbumEntryAruid temporary out appEntry aruid =>
      cases locked
      exact confinedTo_readingSettings fun settings manager =>
        manager.getAlbumEntryFromApplicationAlbumEntryAruid environment.ciphers settings temporary
          out appEntry aruid
  | saveEditedScreenShot =>
      cases locked
      exact confinedTo_abort _
  | getLastOverlayScreenShotThumbnail outBufferSize =>
      cases locked
      exact confinedTo_getLastOverlayThumbnail outBufferSize .screenshot
  | getLastOverlayMovieThumbnail outBufferSize =>
      cases locked
      exact confinedTo_getLastOverlayThumbnail outBufferSize .movie
  | getAutoSavingStorage answers =>
      cases locked
      apply confinedTo_replying .album _ (replyTo (.storage .nand) .storage)
      intro found
      cases found with
      | error rc => exact answer_eq _ (rc, _)
      | ok storageId => exact answer_eq _ (.success, storageId)
  | getAlbumCache storageId =>
      cases locked
      rw [AccessorCommand.perform, AlbumAccessorService.getAlbumCache]
      split
      · exact confinedTo_answered .album _ _
      · exact confinedTo_pure _ _
  | setInternalErrorConversionEnabled =>
      cases locked
      exact confinedTo_replying .errorConverter _ _ fun _ => rfl
  | loadMakerNoteInfoForDebug =>
      rw [AccessorCommand.footprint, Option.ite_none_left_eq_some] at locked
      cases locked.2
      rw [AccessorCommand.perform, AlbumAccessorService.loadMakerNoteInfoForDebug, rUnless,
        if_neg locked.1]
      exact confinedTo_pure _ _
  | openAccessorSession =>
      cases locked
      exact confinedTo_openSession _ _
  | _ =>
      cases locked
      exact confinedTo_pure _ _

/-- Unmounting and refreshing are one program under the lock. -/
theorem confinedTo_notifyAlbumStorageIsAvailable (environment : Environment)
    (answers : ScanAnswers) (counts : ContentType → UInt64) (storageId : StorageId) :
    ConfinedTo settings .album
      (AlbumControlService.notifyAlbumStorageIsAvailable environment answers counts storageId) := by
  let refreshed : Process Service Result := refreshCache answers.mount environment.cipher
    answers.reader answers.stack counts storageId
  have joined : albumPart.focus (unmountImageDirectory storageId >>= fun rc =>
        if rc.isSuccess then refreshed else pure rc) =
      albumPart.focus (unmountImageDirectory storageId) >>= fun rc =>
        if rc.isSuccess then albumPart.focus refreshed else pure rc := by
    rw [Part.focus_bind]
    congr 1
    funext rc
    split
    · rfl
    · exact albumPart.focus_pure rc
  have confined : ConfinedTo settings .album (albumPart.focus
      (unmountImageDirectory storageId >>= fun rc =>
        if rc.isSuccess then refreshed else pure rc) >>= answerResult) :=
    confinedTo_answeredResult .album _
  rw [joined, bind_assoc] at confined
  rw [AlbumControlService.notifyAlbumStorageIsAvailable]
  convert confined using 3 with rc
  split <;> rfl

/-- A picture that is too short is refused before the holder is asked. -/
theorem confinedTo_setOverlayThumbnailData {buffer : List UInt8}
    (short : ¬ overlayBufferSize ≤ buffer.length) (type : OverlayType) (fileId : AlbumFileId) :
    ConfinedTo settings (.own .system)
      (AlbumControlService.setOverlayThumbnailData type buffer fileId) := by
  rw [AlbumControlService.setOverlayThumbnailData, rUnless, if_neg short]
  exact confinedTo_pure _ _

theorem confinedTo_control (environment : Environment) {command : ControlCommand}
    {footprint : Footprint} (locked : command.footprint = some footprint) :
    ConfinedTo settings footprint.region (command.perform environment) := by
  cases command with
  | setShimLibraryVersion | registerAppletResourceUserId | checkApplicationIdRegistered =>
      cases locked
      exact confinedTo_answeredResult .applications _
  | notifyAlbumStorageIsAvailable =>
      cases locked
      exact confinedTo_notifyAlbumStorageIsAvailable _ _ _ _
  | notifyAlbumStorageIsUnavailable | saveAlbumScreenShotFile | saveAlbumScreenShotFileEx =>
      cases locked
      exact confinedTo_answeredResult .album _
  | unregisterAppletResourceUserId =>
      cases locked
      exact confinedTo_replying .applications _ _ fun _ => rfl
  | getApplicationIdFromAruid | generateApplicationAlbumEntry =>
      cases locked
      exact confinedTo_answered .applications _ _
  | generateCurrentAlbumFileId => cases locked
  | setOverlayScreenShotThumbnailData | setOverlayMovieThumbnailData =>
      rw [ControlCommand.footprint, Option.ite_none_left_eq_some] at locked
      cases locked.2
      exact confinedTo_setOverlayThumbnailData locked.1 _ _
  | openControlSession =>
      cases locked
      exact confinedTo_openSession _ _
  | _ =>
      cases locked
      exact confinedTo_abort _

theorem confinedTo_application (command : ApplicationCommand) :
    ConfinedTo settings command.footprint.region command.perform := by
  cases command with
  | setShimLibraryVersion => exact confinedTo_answeredResult .applications _
  | openAccessorSessionForApplication => exact confinedTo_openSession _ _
  | _ => exact confinedTo_abort _

theorem confinedTo_command (environment : Environment) {command : ServerCommand}
    {footprint : Footprint} (locked : command.footprint environment = some footprint) :
    ConfinedTo settings footprint.region (command.perform environment) := by
  cases command with
  | control command => exact confinedTo_control environment locked
  | accessor command => exact confinedTo_accessor environment locked
  | application command =>
      cases locked
      exact confinedTo_application command

end

/-! ## Messages -/

namespace ServerMessage

def thread : ServerMessage → ServerThread
  | control _ => .system
  | accessor _ => .application
  | application _ => .application

/-- A message that calls no handler touches nothing. -/
def footprint (environment : Environment) (message : ServerMessage) : Option Footprint :=
  match message.dispatch environment with
  | .refused _ => some (.untouched message.thread)
  | .malformed _ => some (.untouched message.thread)
  | .called command => command.footprint environment

variable {environment : Environment} {message : ServerMessage} {footprint : Footprint}

theorem thread_of_dispatch {command : ServerCommand}
    (dispatched : message.dispatch environment = .called command) :
    command.thread = message.thread := by
  have found := (dispatch_eq_called_iff.mp dispatched).1
  cases message with
  | control message =>
      rcases exists_of_map_eq_ok found with ⟨command, -, rfl⟩
      rfl
  | accessor message =>
      rcases exists_of_map_eq_ok found with ⟨command, -, rfl⟩
      rfl
  | application message =>
      rcases exists_of_map_eq_ok found with ⟨command, -, rfl⟩
      rfl

theorem fits (locked : message.footprint environment = some footprint) :
    footprint.Fits message.thread := by
  rw [ServerMessage.footprint] at locked
  cases dispatched : message.dispatch environment with
  | refused rc =>
      rw [dispatched] at locked
      cases locked
      exact Footprint.fits_untouched message.thread
  | malformed rc =>
      rw [dispatched] at locked
      cases locked
      exact Footprint.fits_untouched message.thread
  | called command =>
      rw [dispatched] at locked
      rw [← thread_of_dispatch dispatched]
      exact ServerCommand.fits locked

theorem confinedTo_perform {settings : AlbumSettings}
    (locked : message.footprint environment = some footprint) :
    ConfinedTo settings footprint.region (message.perform environment) := by
  rw [ServerMessage.footprint] at locked
  rw [perform]
  cases dispatched : message.dispatch environment with
  | refused rc => exact confinedTo_pure _ _
  | malformed rc => exact confinedTo_abort _
  | called command =>
      rw [dispatched] at locked
      exact confinedTo_command environment locked

end ServerMessage

/-- A message whose handler takes the locks of what it works on: no file id, no
thumbnail that is long enough, and no maker note in debug mode. -/
structure LockedMessage (environment : Environment) where
  message : ServerMessage
  footprint : Footprint
  locked : message.footprint environment = some footprint

namespace LockedMessage

variable {environment : Environment}

def thread (call : LockedMessage environment) : ServerThread :=
  call.message.thread

def perform (call : LockedMessage environment) : Process Server Reply :=
  call.message.perform environment

theorem fits (call : LockedMessage environment) : call.footprint.Fits call.thread :=
  ServerMessage.fits call.locked

theorem preserves (settings : AlbumSettings) (call : LockedMessage environment) :
    call.perform.Preserves (ServerInvariant settings) := by
  intro server holds
  have step := preserves_serverInvariant environment settings [call.message] server holds
  rwa [run_singleton] at step

end LockedMessage

/-! ## Handlers in steps -/

/-- Any way to cut the handlers into steps: each takes its locks and works on its
object, and without the other thread it does what it does. -/
structure HandlerSteps (environment : Environment) (settings : AlbumSettings) where
  plan : LockedMessage environment → CriticalSection ServerLock Server.layout Reply
  locks : ∀ call, (plan call).locks = call.footprint.locks
  region : ∀ call, (plan call).region = call.footprint.region
  performs : ∀ call server, server.album.manager.settings = settings →
    (plan call).perform server = call.perform server

/-- One way is a single step for each handler. -/
theorem nonempty_handlerSteps (environment : Environment) (settings : AlbumSettings) :
    Nonempty (HandlerSteps environment settings) := by
  have exists_section : ∀ call : LockedMessage environment,
      ∃ handler : CriticalSection ServerLock Server.layout Reply,
        handler.locks = call.footprint.locks ∧ handler.region = call.footprint.region ∧
        ∀ server, server.album.manager.settings = settings →
          handler.perform server = call.perform server := by
    intro call
    have confined : ConfinedTo settings _ _ := ServerMessage.confinedTo_perform call.locked
    rcases confined with ⟨body, same⟩
    refine ⟨⟨_, _, .once body⟩, rfl, rfl, fun server started => ?_⟩
    change (regionPart _).focus (Steps.once body).perform server = _
    rw [Steps.perform_once]
    exact same server started
  choose plan locks region performs using exists_section
  exact ⟨⟨plan, locks, region, performs⟩⟩

namespace HandlerSteps

variable {environment : Environment} {settings : AlbumSettings}
  (steps : HandlerSteps environment settings)

theorem ranked : Ranked steps.plan ServerLock.rank := by
  intro call
  rw [steps.locks]
  exact call.fits.ordered

theorem guarded {calls : ServerThread → List (LockedMessage environment)}
    (sent : ∀ thread, ∀ call ∈ calls thread, call.thread = thread) :
    Threads.Guarded steps.plan calls := by
  intro thread other different call member otherCall otherMember same
  rw [steps.region, steps.region] at same
  rw [steps.locks, steps.locks]
  apply call.fits.common otherCall.fits _ same
  rwa [sent thread call member, sent other otherCall otherMember]

/-- What is answered one after the other in steps, the handlers answer. -/
theorem answered {server reached : Server} {history : List (LockedMessage environment × Reply)}
    (answered : Answered (fun call => (steps.plan call).perform) server history reached)
    (holds : ServerInvariant settings server) :
    Answered LockedMessage.perform server history reached :=
  answered.congr
    (fun entry _ state holds => steps.performs entry.1 state holds.album.settings)
    (fun entry _ => entry.1.preserves settings) holds

end HandlerSteps

/-! ## Any interleaving -/

section

variable {environment : Environment} {settings : AlbumSettings}
  {steps : HandlerSteps environment settings} {server : Server}
  {calls : ServerThread → List (LockedMessage environment)}
  {system : System ServerThread steps.plan}

/-- Behind the replies so far are the objects of a run of the messages one at a time. -/
theorem exists_committed (holds : ServerInvariant settings server)
    (sent : ∀ thread, ∀ call ∈ calls thread, call.thread = thread)
    (reachable : Reachable (.start steps.plan server calls) system) :
    ∃ reached, Answered LockedMessage.perform server (system.history.map (·.2)) reached ∧
      ServerInvariant settings reached ∧ Committed system reached := by
  rcases serial_of_reachable (steps.guarded sent) reachable with ⟨reached, answered, committed⟩
  have inSteps := steps.answered answered holds
  exact ⟨reached, inSteps,
    inSteps.preserves (fun entry _ => entry.1.preserves settings) holds, committed⟩

theorem fatal_of_aborted {reached : Server}
    (reachable : Reachable (.start steps.plan server calls) system)
    (invariant : ServerInvariant settings reached) (committed : Committed system reached)
    {thread : ServerThread} (aborted : system.aborted = some thread) :
    ∃ call ∈ calls thread, call.message.Fatal environment reached := by
  have kept : CallsKept calls system := .of_reachable reachable
  rcases inside_of_aborted reachable aborted with ⟨call, failed⟩
  have member : call ∈ calls thread := by
    apply kept.mem_of_pending
    rw [failed]
    exact List.mem_singleton_self call
  have aborts := committed.aborts failed
  rw [Aborts, steps.performs call reached invariant.album.settings] at aborts
  exact ⟨call, member, (aborts_message invariant call.message).mp aborts⟩

/-- A message that is fatal behind the replies so far has ended the process. -/
def EndedByFatal (server : Server) (calls : ServerThread → List (LockedMessage environment))
    (system : System ServerThread steps.plan) : Prop :=
  ∃ thread reached, system.aborted = some thread ∧
    Answered LockedMessage.perform server (system.history.map (·.2)) reached ∧
    ∃ call ∈ calls thread, call.message.Fatal environment reached

/-- The process ends for no other reason. A handler that had to wait for a slot of the
overlay holder would be one. -/
theorem endedByFatal_of_aborted (holds : ServerInvariant settings server)
    (sent : ∀ thread, ∀ call ∈ calls thread, call.thread = thread)
    (reachable : Reachable (.start steps.plan server calls) system)
    (ended : system.aborted ≠ none) : EndedByFatal server calls system := by
  rcases Option.ne_none_iff_exists'.mp ended with ⟨thread, aborted⟩
  rcases exists_committed holds sent reachable with ⟨reached, answered, invariant, committed⟩
  exact ⟨thread, reached, aborted, answered,
    fatal_of_aborted reachable invariant committed aborted⟩

end

/-! ## Two threads on the applications -/

def LockedMessage.ofCommand (command : ServerCommand) (footprint : Footprint)
    (known : command.Known plainEnvironment)
    (own : ∀ aruid ∈ command.client, aruid = 5 ∨ aruid = 0)
    (locked : command.footprint plainEnvironment = some footprint) :
    LockedMessage plainEnvironment where
  message := command.sent
  footprint
  locked := by
    rw [ServerMessage.footprint, ServerCommand.dispatch_sent known own]
    exact locked

theorem fatal_ofCommand {command : ServerCommand} {footprint : Footprint}
    {known : command.Known plainEnvironment}
    {own : ∀ aruid ∈ command.client, aruid = 5 ∨ aruid = 0}
    {locked : command.footprint plainEnvironment = some footprint} {server : Server} :
    (LockedMessage.ofCommand command footprint known own locked).message.Fatal plainEnvironment
      server ↔ command.Fatal server := by
  rw [LockedMessage.ofCommand, ServerMessage.Fatal, ServerCommand.dispatch_sent known own]

/-- While one thread lets an application in, the other one sets its version and deletes
a file. -/
def applicationCalls : ServerThread → List (LockedMessage plainEnvironment)
  | .system =>
      [ .ofCommand (.control (.registerAppletResourceUserId drawnKey 5 1)) .applications rfl
          (by simp [ServerCommand.client, ControlCommand.client]) rfl ]
  | .application =>
      [ .ofCommand (.application (.setShimLibraryVersion 1 5)) .shim rfl
          (by simp [ServerCommand.client, ApplicationCommand.client]) rfl,
        .ofCommand (.accessor (.deleteAlbumFile ⟨none, none⟩ savedScreenshot)) .album rfl
          (by simp [ServerCommand.client, AccessorCommand.client]) rfl ]

theorem sent_applicationCalls (thread : ServerThread) :
    ∀ call ∈ applicationCalls thread, call.thread = thread := by
  intro call member
  cases thread with
  | system =>
      rw [List.mem_singleton.mp member]
      rfl
  | application =>
      rcases List.mem_pair.mp member with rfl | rfl
      · rfl
      · rfl

/-- No state makes one of them end the process. -/
theorem not_fatal_applicationCalls {server : Server} (holds : ServerInvariant .unset server)
    {thread : ServerThread} {call : LockedMessage plainEnvironment}
    (member : call ∈ applicationCalls thread) : ¬ call.message.Fatal plainEnvironment server := by
  cases thread with
  | system =>
      rw [List.mem_singleton.mp member]
      exact fatal_ofCommand.mp
  | application =>
      rcases List.mem_pair.mp member with rfl | rfl
      · exact fatal_ofCommand.mp
      · intro fatal
        rcases fatal_ofCommand.mp fatal with ⟨request, asked, fatal⟩
        cases asked
        rcases fatal.2.2.2.cause with custom | failed
        · rw [Service.customDirectory, holds.album.settings] at custom
          exact absurd custom (by decide)
        · exact absurd failed Fault.not_fatal_none

end Capsrv
