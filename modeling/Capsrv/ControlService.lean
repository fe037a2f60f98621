import Capsrv.AccessorService

/-! # The control and the application service

The handlers of `AlbumControlService` and of `AlbumApplicationService`. Of the
latter only two are implemented, and one of these opens a session.
-/

namespace Capsrv

open Server

/-- `AlbumManager::SaveScreenshotFile`, which saves nothing. -/
def saveScreenshotFile (_image : List UInt8) (_fileId : AlbumFileId) : Process Service Result :=
  pure .success

/-- `GenerateFileId` on the generator and the album manager it asks. -/
def generateFileIdOn (calendar : Calendar) (answers : SavingAnswers)
    (clock : Except Failure UInt64) (applicationId : UInt64) (type : ContentType) :
    Process (AlbumFileIdGenerator × Service) (Except Result AlbumFileId) := fun pair =>
  match pair.1.generateFileId calendar answers clock .zero applicationId type pair.2 with
  | (none, service) => (none, (pair.1, service))
  | (some (outcome, generator), service) => (some outcome, (generator, service))

/-! ## The control service -/

namespace AlbumControlService

variable (environment : Environment)

def captureRawImage : Process Server Reply := notImplemented
def captureRawImageWithTimeout : Process Server Reply := notImplemented
def requestTakingScreenShot : Process Server Reply := notImplemented
def requestTakingScreenShotWithTimeout : Process Server Reply := notImplemented
def notifyTakingScreenShotRefused : Process Server Reply := notImplemented

def setShimLibraryVersion (version aruid : UInt64) : Process Server Reply := do
  answerResult (← applicationsPart.focus
    (Process.returning fun manager => manager.setShimLibraryVersion version aruid))

/-! ### Storages -/

def notifyAlbumStorageIsAvailable (answers : ScanAnswers) (counts : ContentType → UInt64)
    (storageId : StorageId) : Process Server Reply := do
  let rc ← albumPart.focus (unmountImageDirectory storageId)
  let rc ←
    if rc.isSuccess then
      albumPart.focus (refreshCache answers.mount environment.cipher answers.reader answers.stack
        counts storageId)
    else pure rc
  answerResult rc

def notifyAlbumStorageIsUnavailable (storageId : StorageId) : Process Server Reply := do
  answerResult (← albumPart.focus (closeImageDirectory storageId))

/-! ### Applications -/

def registerAppletResourceUserId (key : DrawnKey) (aruid applicationId : UInt64) :
    Process Server Reply := do
  answerResult (← applicationsPart.focus
    (Process.returning fun manager => manager.registerAppletResourceUserId key aruid applicationId))

def unregisterAppletResourceUserId (aruid applicationId : UInt64) : Process Server Reply := do
  applicationsPart.focus
    (Process.modify (·.unregisterAppletResourceUserId aruid applicationId))
  pure (.ok .nothing)

def getApplicationIdFromAruid (aruid : UInt64) : Process Server Reply := do
  answer .number (← applicationsPart.focus
    (Process.returning fun manager => (manager.getApplicationIdFromAruid 0 aruid, manager)))

def checkApplicationIdRegistered (applicationId : UInt64) : Process Server Reply := do
  answerResult (← applicationsPart.focus (Process.returning fun manager =>
    (manager.checkApplicationIdRegistered applicationId, manager)))

def generateApplicationAlbumEntry (temporary out : ApplicationAlbumEntry) (entry : AlbumEntry)
    (applicationId : UInt64) : Process Server Reply := do
  answer .applicationEntry (← applicationsPart.focus (Process.returning fun manager =>
    (manager.generateApplicationAlbumEntry environment.ciphers temporary out entry applicationId,
      manager)))

/-! ### Files -/

/-- Alone among the handlers that use the album manager, this one does not take
`g_AlbumMutex`. -/
def generateCurrentAlbumFileId (answers : SavingAnswers) (clock : Except Failure UInt64)
    (applicationId : UInt64) (type : ContentType) : Process Server Reply := do
  match ← fileIdsPart.focus
      (generateFileIdOn environment.calendar answers clock applicationId type) with
  | .error rc => answer Output.fileId (rc, .zero)
  | .ok fileId => answer Output.fileId (.success, fileId)

def saveAlbumScreenShot (image : List UInt8) (fileId : AlbumFileId) : Process Server Reply := do
  answerResult (← albumPart.focus (saveScreenshotFile image fileId))

def saveAlbumScreenShotFile (image : List UInt8) (fileId : AlbumFileId) : Process Server Reply :=
  saveAlbumScreenShot image fileId

def saveAlbumScreenShotFileEx (image : List UInt8) (fileId : AlbumFileId)
    (_unk0 _unk1 _unk2 : UInt64) : Process Server Reply :=
  saveAlbumScreenShot image fileId

/-! ### Thumbnails -/

def setOverlayThumbnailData (type : OverlayType) (buffer : List UInt8) (fileId : AlbumFileId) :
    Process Server Reply :=
  rUnless (overlayBufferSize ≤ buffer.length) (pure (.error albumError.result)) do
    overlayPart.focus (awaited fun holder =>
      (holder.getOverlayBuffer fileId type).map fun next => ((), next))
    overlayPart.focus (Process.modify (·.copyPixels (buffer.take overlayBufferSize) type))
    overlayPart.focus (Process.modify (·.signal type))
    pure (.ok .nothing)

def setOverlayScreenShotThumbnailData (buffer : List UInt8) (fileId : AlbumFileId) :
    Process Server Reply :=
  setOverlayThumbnailData .screenshot buffer fileId

def setOverlayMovieThumbnailData (buffer : List UInt8) (fileId : AlbumFileId) :
    Process Server Reply :=
  setOverlayThumbnailData .movie buffer fileId

def openControlSession (faults : SessionFaults) (_aruid : UInt64) : Process Server Reply :=
  openSession faults

end AlbumControlService

inductive ControlCommand where
  | captureRawImage
  | captureRawImageWithTimeout
  | setShimLibraryVersion (version aruid : UInt64)
  | requestTakingScreenShot
  | requestTakingScreenShotWithTimeout
  | notifyTakingScreenShotRefused
  | notifyAlbumStorageIsAvailable (answers : ScanAnswers) (counts : ContentType → UInt64)
      (storageId : StorageId)
  | notifyAlbumStorageIsUnavailable (storageId : StorageId)
  | registerAppletResourceUserId (key : DrawnKey) (aruid applicationId : UInt64)
  | unregisterAppletResourceUserId (aruid applicationId : UInt64)
  | getApplicationIdFromAruid (aruid : UInt64)
  | checkApplicationIdRegistered (applicationId : UInt64)
  | generateCurrentAlbumFileId (answers : SavingAnswers) (clock : Except Failure UInt64)
      (applicationId : UInt64) (type : ContentType)
  | generateApplicationAlbumEntry (temporary out : ApplicationAlbumEntry) (entry : AlbumEntry)
      (applicationId : UInt64)
  | saveAlbumScreenShotFile (image : List UInt8) (fileId : AlbumFileId)
  | saveAlbumScreenShotFileEx (image : List UInt8) (fileId : AlbumFileId)
      (unk0 unk1 unk2 : UInt64)
  | setOverlayScreenShotThumbnailData (buffer : List UInt8) (fileId : AlbumFileId)
  | setOverlayMovieThumbnailData (buffer : List UInt8) (fileId : AlbumFileId)
  | openControlSession (faults : SessionFaults) (aruid : UInt64)

namespace ControlCommand

/-- What the handler of the command does. -/
def perform (environment : Environment) : ControlCommand → Process Server Reply
  | captureRawImage => AlbumControlService.captureRawImage
  | captureRawImageWithTimeout => AlbumControlService.captureRawImageWithTimeout
  | setShimLibraryVersion version aruid =>
      AlbumControlService.setShimLibraryVersion version aruid
  | requestTakingScreenShot => AlbumControlService.requestTakingScreenShot
  | requestTakingScreenShotWithTimeout => AlbumControlService.requestTakingScreenShotWithTimeout
  | notifyTakingScreenShotRefused => AlbumControlService.notifyTakingScreenShotRefused
  | notifyAlbumStorageIsAvailable answers counts storageId =>
      AlbumControlService.notifyAlbumStorageIsAvailable environment answers counts storageId
  | notifyAlbumStorageIsUnavailable storageId =>
      AlbumControlService.notifyAlbumStorageIsUnavailable storageId
  | registerAppletResourceUserId key aruid applicationId =>
      AlbumControlService.registerAppletResourceUserId key aruid applicationId
  | unregisterAppletResourceUserId aruid applicationId =>
      AlbumControlService.unregisterAppletResourceUserId aruid applicationId
  | getApplicationIdFromAruid aruid => AlbumControlService.getApplicationIdFromAruid aruid
  | checkApplicationIdRegistered applicationId =>
      AlbumControlService.checkApplicationIdRegistered applicationId
  | generateCurrentAlbumFileId answers clock applicationId type =>
      AlbumControlService.generateCurrentAlbumFileId environment answers clock applicationId type
  | generateApplicationAlbumEntry temporary out entry applicationId =>
      AlbumControlService.generateApplicationAlbumEntry environment temporary out entry
        applicationId
  | saveAlbumScreenShotFile image fileId =>
      AlbumControlService.saveAlbumScreenShotFile image fileId
  | saveAlbumScreenShotFileEx image fileId unk0 unk1 unk2 =>
      AlbumControlService.saveAlbumScreenShotFileEx image fileId unk0 unk1 unk2
  | setOverlayScreenShotThumbnailData buffer fileId =>
      AlbumControlService.setOverlayScreenShotThumbnailData buffer fileId
  | setOverlayMovieThumbnailData buffer fileId =>
      AlbumControlService.setOverlayMovieThumbnailData buffer fileId
  | openControlSession faults aruid => AlbumControlService.openControlSession faults aruid

end ControlCommand

/-! ## The application service -/

namespace AlbumApplicationService

def setShimLibraryVersion (version aruid : UInt64) : Process Server Reply :=
  AlbumControlService.setShimLibraryVersion version aruid

def openAccessorSessionForApplication (faults : SessionFaults) (_aruid : UInt64) :
    Process Server Reply :=
  openSession faults

end AlbumApplicationService

/-- The commands of the service. Of those that are not implemented the process alone is
looked at, before the handler is called. -/
inductive ApplicationCommand where
  | setShimLibraryVersion (version aruid : UInt64)
  | getAlbumFileList0AafeAruidDeprecated (aruid : UInt64)
  | deleteAlbumFileByAruid (aruid : UInt64)
  | getAlbumFileSizeByAruid (aruid : UInt64)
  | deleteAlbumFileByAruidForDebug (aruid : UInt64)
  | loadAlbumScreenShotImageByAruid (aruid : UInt64)
  | loadAlbumScreenShotThumbnailImageByAruid (aruid : UInt64)
  | precheckToCreateContentsByAruid (aruid : UInt64)
  | getAlbumFileList1AafeAruidDeprecated (aruid : UInt64)
  | getAlbumFileList2AafeUidAruidDeprecated (aruid : UInt64)
  | getAlbumFileList3AaeAruid (aruid : UInt64)
  | getAlbumFileList4AaeUidAruid (aruid : UInt64)
  | openAccessorSessionForApplication (faults : SessionFaults) (aruid : UInt64)

namespace ApplicationCommand

/-- What the handler of the command does. -/
def perform : ApplicationCommand → Process Server Reply
  | setShimLibraryVersion version aruid =>
      AlbumApplicationService.setShimLibraryVersion version aruid
  | getAlbumFileList0AafeAruidDeprecated _ => notImplemented
  | deleteAlbumFileByAruid _ => notImplemented
  | getAlbumFileSizeByAruid _ => notImplemented
  | deleteAlbumFileByAruidForDebug _ => notImplemented
  | loadAlbumScreenShotImageByAruid _ => notImplemented
  | loadAlbumScreenShotThumbnailImageByAruid _ => notImplemented
  | precheckToCreateContentsByAruid _ => notImplemented
  | getAlbumFileList1AafeAruidDeprecated _ => notImplemented
  | getAlbumFileList2AafeUidAruidDeprecated _ => notImplemented
  | getAlbumFileList3AaeAruid _ => notImplemented
  | getAlbumFileList4AaeUidAruid _ => notImplemented
  | openAccessorSessionForApplication faults aruid =>
      AlbumApplicationService.openAccessorSessionForApplication faults aruid

end ApplicationCommand

end Capsrv
