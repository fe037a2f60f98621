import Capsrv.AlbumFileSafety
import Capsrv.Foundation.Locality
import Capsrv.ServerThreads

/-! # The objects of the server

Every message is about one of the shared objects, or about none. What is answered to
it depends on the messages about the same object, and on no others.
-/

namespace Capsrv

open Server Process

/-! ## Objects -/

/-- The objects that no message connects. The generator of file ids asks the album
manager, so these two are one. -/
inductive ServerObject where
  | files
  | overlay
  | applications
  | errorConverter
  | nothing
deriving DecidableEq

namespace ServerObject

def Cell : ServerObject → Type
  | files => AlbumFileIdGenerator × Service
  | overlay => OverlayThumbnailHolder
  | applications => ApplicationAlbumManager
  | errorConverter => AlbumErrorConverter
  | nothing => Unit

def part : ∀ object : ServerObject, Part Server object.Cell
  | files => fileIdsPart
  | overlay => overlayPart
  | applications => applicationsPart
  | errorConverter => errorConverterPart
  | nothing => nothingPart

theorem part_independent (object other : ServerObject) (different : object ≠ other) :
    object.part.Independent other.part := by
  cases object <;> cases other <;>
    first
      | exact absurd rfl different
      | exact ⟨fun _ _ => rfl, fun _ _ _ => rfl⟩

def layout : Layout Server ServerObject :=
  ⟨Cell, part, part_independent⟩

/-- The objects are the whole server. -/
theorem eq_of_objects {server other : Server}
    (same : ∀ object : ServerObject, object.part.get server = object.part.get other) :
    server = other := by
  have files : (server.fileIds, server.album) = (other.fileIds, other.album) := same files
  rcases Prod.mk.inj files with ⟨fileIds, album⟩
  apply eq_of_regions
  intro region
  cases region with
  | album => exact album
  | fileIds => exact fileIds
  | overlay => exact same overlay
  | applications => exact same applications
  | errorConverter => exact same errorConverter
  | own => rfl

end ServerObject

def ServerRegion.object : ServerRegion → ServerObject
  | album => .files
  | fileIds => .files
  | overlay => .overlay
  | applications => .applications
  | errorConverter => .errorConverter
  | own _ => .nothing

/-! ## Handlers on an object -/

/-- With the settings of the start, the program is one on the object alone. -/
def OnObject (settings : AlbumSettings) (object : ServerObject) (process : Process Server Reply) :
    Prop :=
  ∃ body : Process object.Cell Reply, ∀ server, server.album.manager.settings = settings →
    object.part.focus body server = process server

section

variable {settings : AlbumSettings}

/-- A handler on a region is one on the object that the region belongs to. -/
theorem onObject_of_confinedTo {region : ServerRegion} {process : Process Server Reply}
    {object : ServerObject} (confined : ConfinedTo settings region process)
    (belongs : region.object = object) : OnObject settings object process := by
  subst belongs
  rcases confined with ⟨body, focused⟩
  cases region with
  | album => exact ⟨Part.second.focus body, focused⟩
  | fileIds => exact ⟨Part.first.focus body, focused⟩
  | overlay => exact ⟨body, focused⟩
  | applications => exact ⟨body, focused⟩
  | errorConverter => exact ⟨body, focused⟩
  | own thread => exact ⟨body, focused⟩

theorem onObject_generateCurrentAlbumFileId (environment : Environment) (answers : SavingAnswers)
    (clock : Except Failure UInt64) (applicationId : UInt64) (type : ContentType) :
    OnObject settings .files (AlbumControlService.generateCurrentAlbumFileId environment answers
      clock applicationId type) := by
  have focused : fileIdsPart.focus (generateFileIdOn environment.calendar answers clock
      applicationId type >>= fun generated =>
        pure (replyTo (.fileId .zero) .fileId generated)) =
        AlbumControlService.generateCurrentAlbumFileId environment answers clock applicationId
          type := by
    rw [AlbumControlService.generateCurrentAlbumFileId, Part.focus_bind]
    congr 1
    funext generated
    rw [Part.focus_pure]
    cases generated with
    | error rc => exact (answer_eq _ (rc, _)).symm
    | ok fileId => exact (answer_eq _ (.success, fileId)).symm
  exact ⟨_, fun server _ => congrFun focused server⟩

/-- The three calls of the holder are one program on it. -/
theorem onObject_setOverlayThumbnailData (type : OverlayType) (buffer : List UInt8)
    (fileId : AlbumFileId) :
    OnObject settings .overlay
      (AlbumControlService.setOverlayThumbnailData type buffer fileId) := by
  have focused : overlayPart.focus (rUnless (overlayBufferSize ≤ buffer.length)
      (pure (.error albumError.result)) do
        awaited fun holder => (holder.getOverlayBuffer fileId type).map fun next => ((), next)
        Process.modify (·.copyPixels (buffer.take overlayBufferSize) type)
        Process.modify (·.signal type)
        pure (.ok .nothing)) =
      AlbumControlService.setOverlayThumbnailData type buffer fileId := by
    unfold AlbumControlService.setOverlayThumbnailData rUnless
    split
    · simp only [Part.focus_bind, Part.focus_pure]
    · exact overlayPart.focus_pure _
  exact ⟨_, fun server _ => congrFun focused server⟩

/-- The maker note is loaded with another setting, which is put back. -/
theorem onObject_loadMakerNoteInfoForDebug (environment : Environment)
    (makernoteSize workSize : Nat) (fileId : AlbumFileId) :
    OnObject settings .nothing (AlbumAccessorService.loadMakerNoteInfoForDebug environment
      makernoteSize workSize fileId) := by
  have answered : ∃ reply, ∀ server, (AlbumAccessorService.loadMakerNoteInfoForDebug environment
      makernoteSize workSize fileId server).1 = some reply := by
    unfold AlbumAccessorService.loadMakerNoteInfoForDebug rUnless
    split
    · split
      · split
        · simp only [answer_eq, loadMakerNoteInfo, setVerifyScreenshotFiledata, Part.focus_pure,
            Process.bind_apply, Process.pure_apply, Part.focus, Process.returning_apply]
          exact ⟨_, fun server => rfl⟩
        · exact ⟨_, fun server => rfl⟩
      · exact ⟨_, fun server => rfl⟩
    · exact ⟨_, fun server => rfl⟩
  rcases answered with ⟨reply, answered⟩
  refine ⟨pure reply, fun server _ => ?_⟩
  exact Prod.ext (answered server).symm
    (loadMakerNoteInfoForDebug_state environment makernoteSize workSize fileId server).symm

end

/-! ## Messages -/

/-- The object of what a handler locks. -/
def objectOf (footprint : Option Footprint) : ServerObject :=
  footprint.elim .nothing (·.region.object)

/-- The object that a handler works on. -/
def ControlCommand.object : ControlCommand → ServerObject
  | generateCurrentAlbumFileId _ _ _ _ => .files
  | setOverlayScreenShotThumbnailData _ _ => .overlay
  | setOverlayMovieThumbnailData _ _ => .overlay
  | command => objectOf command.footprint

theorem onObject_control (environment : Environment) (settings : AlbumSettings)
    (command : ControlCommand) :
    OnObject settings command.object (command.perform environment) := by
  have locked : ∀ command : ControlCommand, ∀ footprint, command.footprint = some footprint →
      ∀ object, objectOf (some footprint) = object →
      OnObject settings object (command.perform environment) :=
    fun command footprint locked object belongs =>
      onObject_of_confinedTo (confinedTo_control environment locked) belongs
  cases command with
  | generateCurrentAlbumFileId => exact onObject_generateCurrentAlbumFileId _ _ _ _ _
  | setOverlayScreenShotThumbnailData => exact onObject_setOverlayThumbnailData _ _ _
  | setOverlayMovieThumbnailData => exact onObject_setOverlayThumbnailData _ _ _
  | _ => exact locked _ _ rfl _ rfl

/-- The settings that are changed in debug mode are changed back. -/
theorem onObject_accessor (environment : Environment) (settings : AlbumSettings)
    (command : AccessorCommand) :
    OnObject settings (objectOf (command.footprint environment))
      (command.perform environment) := by
  cases locked : command.footprint environment with
  | some footprint => exact onObject_of_confinedTo (confinedTo_accessor environment locked) rfl
  | none =>
      cases command with
      | loadMakerNoteInfoForDebug => exact onObject_loadMakerNoteInfoForDebug _ _ _ _
      | _ => cases locked

namespace ServerCommand

def object (environment : Environment) : ServerCommand → ServerObject
  | control command => command.object
  | accessor command => objectOf (command.footprint environment)
  | application command => command.footprint.region.object

theorem onObject (environment : Environment) (settings : AlbumSettings) (command : ServerCommand) :
    OnObject settings (command.object environment) (command.perform environment) := by
  cases command with
  | control command => exact onObject_control environment settings command
  | accessor command => exact onObject_accessor environment settings command
  | application command => exact onObject_of_confinedTo (confinedTo_application command) rfl

/-- The other objects are none of a handler's business. -/
theorem frame (environment : Environment) (command : ServerCommand) (server : Server)
    {elsewhere : ServerObject} (different : command.object environment ≠ elsewhere) :
    elsewhere.part.get (command.perform environment server).2 = elsewhere.part.get server := by
  rcases command.onObject environment server.album.manager.settings with ⟨body, focused⟩
  rw [← focused server rfl]
  exact (ServerObject.part_independent _ _ different).get_focus body server

end ServerCommand

namespace ServerMessage

/-- The object that a message is about. -/
def object (environment : Environment) (message : ServerMessage) : ServerObject :=
  match message.dispatch environment with
  | .refused _ => .nothing
  | .malformed _ => .nothing
  | .called command => command.object environment

theorem isLocal (environment : Environment) (settings : AlbumSettings) :
    Local ServerObject.layout (ServerInvariant settings) (ServerMessage.perform environment)
      (ServerMessage.object environment) where
  focused message := by
    have onObject : OnObject settings (message.object environment)
        (message.perform environment) := by
      rw [object, perform]
      cases message.dispatch environment with
      | refused rc => exact ⟨pure (.error rc), fun server _ => rfl⟩
      | malformed rc => exact ⟨Process.abort, fun server _ => rfl⟩
      | called command => exact command.onObject environment settings
    rcases onObject with ⟨body, focused⟩
    exact ⟨body, fun server holds => focused server holds.album.settings⟩
  kept message server holds := by
    have step := preserves_serverInvariant environment settings [message] server holds
    rwa [run_singleton] at step

end ServerMessage

/-- Messages and replies can follow each other in a run of the server exactly when,
for each object, those about the object can without the others, and each object
is left as if it had been alone. -/
theorem serverHistory_iff {environment : Environment} {settings : AlbumSettings} {server : Server}
    (holds : ServerInvariant settings server) (history : List (ServerMessage × Reply))
    (reached : Server) :
    Answered (ServerMessage.perform environment) server history reached ↔
      ∀ object : ServerObject, ∃ alone, Answered (ServerMessage.perform environment) server
          (historyOn (ServerMessage.object environment) object history) alone ∧
        object.part.get alone = object.part.get reached :=
  answered_iff_alone (ServerMessage.isLocal environment settings) holds
    fun _ _ same => ServerObject.eq_of_objects same

/-- A run about three of the objects and what the messages about each do alone. -/
theorem serverHistory_iff_copying :
    ∃ history reached,
      history.map (·.1) = copyingCommands.map ServerCommand.sent ∧
        Answered (ServerMessage.perform plainEnvironment) (.around (startedAround savedPair))
          history reached ∧
        ∀ object : ServerObject, ∃ alone,
          Answered (ServerMessage.perform plainEnvironment) (.around (startedAround savedPair))
            (historyOn (ServerMessage.object plainEnvironment) object history) alone ∧
          object.part.get alone = object.part.get reached := by
  rcases Answered.exists_of_run copyingCommands_return with ⟨history, sent, answered⟩
  exact ⟨history, _, sent, answered,
    (serverHistory_iff (serverInvariant_startedAround savedPair) history _).mp answered⟩

end Capsrv
