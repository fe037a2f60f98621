import Capsrv.Server

/-! # The accessor service

The handlers of `AlbumAccessorService`, with what the system answers to the calls
they make. Most of them hold `g_AlbumMutex` while they use the album manager.
-/

namespace Capsrv

open Server

/-! ## Flags and settings -/

/-- `ContentTypeFlag_Normal`. -/
def contentTypeFlagNormal : UInt8 := 3

/-- `AlbumSettings::SetVerifyScreenshotFiledata`. -/
def AlbumSettings.setVerifyScreenshotFiledata (newValue : Bool) (settings : AlbumSettings) :
    Bool × AlbumSettings :=
  (settings.verifyScreenShotFiledata,
    if settings.defaultDirectory then settings
    else { settings with verifyScreenShotFiledata := newValue })

/-- The call on the settings that the album manager shares. -/
def setVerifyScreenshotFiledata (newValue : Bool) : Process Service Bool :=
  Process.returning fun service =>
    let changed := service.manager.settings.setVerifyScreenshotFiledata newValue
    (changed.1, { service with manager := { service.manager with settings := changed.2 } })

/-- `AlbumManager::LoadMakerNoteInfo`, which loads nothing. -/
def loadMakerNoteInfo (_fileId : AlbumFileId) : Process Service (Result × UInt64) :=
  pure (.success, 0)

/-- A call of the overlay holder that may have to wait. One that waits for ever
does not answer. -/
def awaited {α : Type} (call : OverlayThumbnailHolder → Option (α × OverlayThumbnailHolder)) :
    Process OverlayThumbnailHolder α := fun holder =>
  match call holder with
  | none => (none, holder)
  | some (value, next) => (some value, next)

namespace AlbumAccessorService

variable (environment : Environment)

/-! ## Listing -/

def getAlbumFileCountEx0 (answers : ScanAnswers) (storageId : StorageId) (flags : UInt8) :
    Process Server Reply := do
  answer .number (← albumPart.focus (countEntries answers.mount environment.cipher answers.reader
    answers.stack 0 storageId flags))

def getAlbumFileCount (answers : ScanAnswers) (storageId : StorageId) : Process Server Reply :=
  getAlbumFileCountEx0 environment answers storageId contentTypeFlagNormal

def getAlbumFileListEx0 (answers : ScanAnswers) (maxEntries : UInt64) (storageId : StorageId)
    (flags : UInt8) : Process Server Reply := do
  answer .entries (← albumPart.focus (listEntries answers.mount environment.cipher answers.reader
    answers.stack maxEntries storageId flags))

def getAlbumFileList (answers : ScanAnswers) (maxEntries : UInt64) (storageId : StorageId) :
    Process Server Reply :=
  getAlbumFileListEx0 environment answers maxEntries storageId contentTypeFlagNormal

/-! ## Files -/

def loadAlbumFile (fault : Fault) (fileId : AlbumFileId) : Process Server Reply := do
  let rc ← albumPart.focus (loadJpeg fault fileId)
  answer .number (rc, 0)

def loadAlbumFileThumbnail (fault : Fault) (fileId : AlbumFileId) : Process Server Reply := do
  let rc ← albumPart.focus (loadJpegThumbnail fault fileId)
  answer .number (rc, 0)

def deleteAlbumFile (faults : DeleteFaults) (fileId : AlbumFileId) : Process Server Reply := do
  answerResult (← albumPart.focus (deleteFile environment.cipher faults fileId))

def storageCopyAlbumFile (faults : CopyFaults) (dst : StorageId) (fileId : AlbumFileId) :
    Process Server Reply := do
  answerResult (← albumPart.focus (copyFile environment.cipher faults fileId dst))

def getAlbumFileSize (faults : SizeFaults) (fileId : AlbumFileId) : Process Server Reply := do
  answer .size (← albumPart.focus (getFileSize environment.cipher faults fileId))

/-! ## Pictures

Each of these clears its work buffer and reports a picture of no size. -/

def loadScreenShotImage : Process Server Reply :=
  pure (.ok (.dimensions 0 0))

def loadAlbumScreenShotImage : Process Server Reply := loadScreenShotImage
def loadAlbumScreenShotThumbnailImage : Process Server Reply := loadScreenShotImage
def loadAlbumScreenShotImageEx : Process Server Reply := loadScreenShotImage
def loadAlbumScreenShotThumbnailImageEx : Process Server Reply := loadScreenShotImage
def loadAlbumScreenShotImageEx0 : Process Server Reply := loadScreenShotImage
def loadAlbumScreenShotThumbnailImageEx0 : Process Server Reply := loadScreenShotImage
def loadAlbumScreenShotImageEx1 : Process Server Reply := loadScreenShotImage
def loadAlbumScreenShotThumbnailImageEx1 : Process Server Reply := loadScreenShotImage

/-! ## Storages -/

def isAlbumMounted (fault : Fault) (storageId : StorageId) : Process Server Reply := do
  let rc ← albumPart.focus (mountImageDirectory fault storageId)
  pure (.ok (.flag rc.isSuccess))

def getAlbumMountResult (fault : Fault) (storageId : StorageId) : Process Server Reply := do
  answerResult (← albumPart.focus (mountImageDirectory fault storageId))

def forceAlbumUnmounted (storageId : StorageId) : Process Server Reply := do
  answerResult (← albumPart.focus (closeImageDirectory storageId))

def resetAlbumMountStatus (storageId : StorageId) : Process Server Reply := do
  answerResult (← albumPart.focus (unmountImageDirectory storageId))

def usage (fault : Fault) (storageId : StorageId) : Process Server Reply := do
  answerResult (← albumPart.focus (Capsrv.getAlbumUsage fault storageId))

/-- The usage stays zero, whatever is asked for. -/
def getAlbumUsage (fault : Fault) (storageId : StorageId) : Process Server Reply :=
  usage fault storageId

def getAlbumUsage3 (fault : Fault) (storageId : StorageId) : Process Server Reply :=
  usage fault storageId

def getAlbumUsage16 (fault : Fault) (storageId : StorageId) (_flags : UInt8) :
    Process Server Reply :=
  usage fault storageId

def getAutoSavingStorage (answers : SavingAnswers) : Process Server Reply := do
  match ← albumPart.focus (Capsrv.getAutoSavingStorage answers .screenshot) with
  | .error rc => answer Output.storage (rc, .nand)
  | .ok storageId => answer Output.storage (.success, storageId)

def getRequiredStorageSpaceSizeToCopyAll (sourceFault destinationFault : Fault)
    (dst src : StorageId) : Process Server Reply := do
  answer .number (← albumPart.focus (Capsrv.getRequiredStorageSpaceSizeToCopyAll sourceFault
    destinationFault src dst))

/-! ## Counts -/

def refreshAlbumCache (answers : ScanAnswers) (counts : ContentType → UInt64)
    (storageId : StorageId) : Process Server Reply := do
  answerResult (← albumPart.focus (refreshCache answers.mount environment.cipher answers.reader
    answers.stack counts storageId))

def getAlbumCacheEx (storageId : StorageId) (type : ContentType) : Process Server Reply := do
  answer .number (← albumPart.focus (getCache storageId type))

def getAlbumCache (storageId : StorageId) : Process Server Reply :=
  if environment.hosVersion.value < HosVersion.version4.value then
    getAlbumCacheEx storageId .screenshot
  else pure (.error albumUnsupportedVersion.result)

/-! ## Application entries -/

def getAlbumEntryFromApplicationAlbumEntry (temporary out : AlbumEntry)
    (appEntry : ApplicationAlbumEntry) (applicationId : UInt64) : Process Server Reply := do
  let settings := (← Process.get).album.manager.settings
  answer .entry (← applicationsPart.focus (Process.returning fun manager =>
    (manager.getAlbumEntryFromApplicationAlbumEntry environment.ciphers settings temporary out
      appEntry applicationId, manager)))

def getAlbumEntryFromApplicationAlbumEntryAruid (temporary out : AlbumEntry)
    (appEntry : ApplicationAlbumEntry) (aruid : UInt64) : Process Server Reply := do
  let settings := (← Process.get).album.manager.settings
  answer .entry (← applicationsPart.focus (Process.returning fun manager =>
    (manager.getAlbumEntryFromApplicationAlbumEntryAruid environment.ciphers settings temporary
      out appEntry aruid, manager)))

/-! ## Thumbnails -/

def getLastOverlayThumbnail (outBufferSize : Nat) (type : OverlayType) :
    Process Server Reply := do
  match ← overlayPart.focus (awaited fun holder =>
      (holder.getLastOverlayThumbnail outBufferSize type).map fun read => (read, holder)) with
  | .error rc => answerResult rc
  | .ok thumbnail => answer Output.thumbnail (.success, thumbnail)

def getLastOverlayScreenShotThumbnail (outBufferSize : Nat) : Process Server Reply :=
  getLastOverlayThumbnail outBufferSize .screenshot

def getLastOverlayMovieThumbnail (outBufferSize : Nat) : Process Server Reply :=
  getLastOverlayThumbnail outBufferSize .movie

/-! ## Others -/

/-- Both ends of the range are written into any buffer that is not empty. -/
def getMinMaxAppletId (size : Nat) : Process Server Reply :=
  pure (.ok (.appletIds
    (if size ≠ 0 then some (0x100000000001000, 0x100000000001fff) else none)))

def saveEditedScreenShot : Process Server Reply := notImplemented

def setInternalErrorConversionEnabled (mode : Bool) : Process Server Reply := do
  errorConverterPart.focus (Process.modify (·.setMode mode))
  pure (.ok .nothing)

/-- The verification is off while the maker note is loaded. -/
def loadMakerNoteInfoForDebug (makernoteSize workSize : Nat) (fileId : AlbumFileId) :
    Process Server Reply :=
  rUnless (environment.isDebug = true) (pure (.error notSupported.result)) <|
  rUnless (0xc78 ≤ makernoteSize) (pure (.error albumReadBufferShortage.result)) <|
  rUnless (0x7d000 ≤ workSize) (pure (.error albumWorkMemoryError.result)) do
    let shouldVerify ← albumPart.focus (setVerifyScreenshotFiledata false)
    let reply ← answer .number (← albumPart.focus (loadMakerNoteInfo fileId))
    let _ ← albumPart.focus (setVerifyScreenshotFiledata shouldVerify)
    pure reply

def openAccessorSession (faults : SessionFaults) (_aruid : UInt64) : Process Server Reply :=
  openSession faults

end AlbumAccessorService

/-! ## Commands -/

/-- The commands of the service with their arguments, the answers of the system
and what uninitialised memory holds. -/
inductive AccessorCommand where
  | getAlbumFileCount (answers : ScanAnswers) (storageId : StorageId)
  | getAlbumFileList (answers : ScanAnswers) (maxEntries : UInt64) (storageId : StorageId)
  | loadAlbumFile (fault : Fault) (fileId : AlbumFileId)
  | deleteAlbumFile (faults : DeleteFaults) (fileId : AlbumFileId)
  | storageCopyAlbumFile (faults : CopyFaults) (dst : StorageId) (fileId : AlbumFileId)
  | isAlbumMounted (fault : Fault) (storageId : StorageId)
  | getAlbumUsage (fault : Fault) (storageId : StorageId)
  | getAlbumFileSize (faults : SizeFaults) (fileId : AlbumFileId)
  | loadAlbumFileThumbnail (fault : Fault) (fileId : AlbumFileId)
  | loadAlbumScreenShotImage
  | loadAlbumScreenShotThumbnailImage
  | getAlbumEntryFromApplicationAlbumEntry (temporary out : AlbumEntry)
      (appEntry : ApplicationAlbumEntry) (applicationId : UInt64)
  | loadAlbumScreenShotImageEx
  | loadAlbumScreenShotThumbnailImageEx
  | loadAlbumScreenShotImageEx0
  | getAlbumUsage3 (fault : Fault) (storageId : StorageId)
  | getAlbumMountResult (fault : Fault) (storageId : StorageId)
  | getAlbumUsage16 (fault : Fault) (storageId : StorageId) (flags : UInt8)
  | getMinMaxAppletId (size : Nat)
  | getAlbumFileCountEx0 (answers : ScanAnswers) (storageId : StorageId) (flags : UInt8)
  | getAlbumFileListEx0 (answers : ScanAnswers) (maxEntries : UInt64) (storageId : StorageId)
      (flags : UInt8)
  | saveEditedScreenShot
  | getLastOverlayScreenShotThumbnail (outBufferSize : Nat)
  | getLastOverlayMovieThumbnail (outBufferSize : Nat)
  | getAutoSavingStorage (answers : SavingAnswers)
  | getRequiredStorageSpaceSizeToCopyAll (sourceFault destinationFault : Fault)
      (dst src : StorageId)
  | loadAlbumScreenShotThumbnailImageEx0
  | loadAlbumScreenShotImageEx1
  | loadAlbumScreenShotThumbnailImageEx1
  | forceAlbumUnmounted (storageId : StorageId)
  | resetAlbumMountStatus (storageId : StorageId)
  | refreshAlbumCache (answers : ScanAnswers) (counts : ContentType → UInt64)
      (storageId : StorageId)
  | getAlbumCache (storageId : StorageId)
  | getAlbumCacheEx (storageId : StorageId) (type : ContentType)
  | getAlbumEntryFromApplicationAlbumEntryAruid (temporary out : AlbumEntry)
      (appEntry : ApplicationAlbumEntry) (aruid : UInt64)
  | setInternalErrorConversionEnabled (mode : Bool)
  | loadMakerNoteInfoForDebug (makernoteSize workSize : Nat) (fileId : AlbumFileId)
  | openAccessorSession (faults : SessionFaults) (aruid : UInt64)

namespace AccessorCommand

/-- What the handler of the command does. -/
def perform (environment : Environment) : AccessorCommand → Process Server Reply
  | getAlbumFileCount answers storageId =>
      AlbumAccessorService.getAlbumFileCount environment answers storageId
  | getAlbumFileList answers maxEntries storageId =>
      AlbumAccessorService.getAlbumFileList environment answers maxEntries storageId
  | loadAlbumFile fault fileId => AlbumAccessorService.loadAlbumFile fault fileId
  | deleteAlbumFile faults fileId =>
      AlbumAccessorService.deleteAlbumFile environment faults fileId
  | storageCopyAlbumFile faults dst fileId =>
      AlbumAccessorService.storageCopyAlbumFile environment faults dst fileId
  | isAlbumMounted fault storageId => AlbumAccessorService.isAlbumMounted fault storageId
  | getAlbumUsage fault storageId => AlbumAccessorService.getAlbumUsage fault storageId
  | getAlbumFileSize faults fileId =>
      AlbumAccessorService.getAlbumFileSize environment faults fileId
  | loadAlbumFileThumbnail fault fileId =>
      AlbumAccessorService.loadAlbumFileThumbnail fault fileId
  | loadAlbumScreenShotImage => AlbumAccessorService.loadAlbumScreenShotImage
  | loadAlbumScreenShotThumbnailImage => AlbumAccessorService.loadAlbumScreenShotThumbnailImage
  | getAlbumEntryFromApplicationAlbumEntry temporary out appEntry applicationId =>
      AlbumAccessorService.getAlbumEntryFromApplicationAlbumEntry environment temporary out
        appEntry applicationId
  | loadAlbumScreenShotImageEx => AlbumAccessorService.loadAlbumScreenShotImageEx
  | loadAlbumScreenShotThumbnailImageEx =>
      AlbumAccessorService.loadAlbumScreenShotThumbnailImageEx
  | loadAlbumScreenShotImageEx0 => AlbumAccessorService.loadAlbumScreenShotImageEx0
  | getAlbumUsage3 fault storageId => AlbumAccessorService.getAlbumUsage3 fault storageId
  | getAlbumMountResult fault storageId =>
      AlbumAccessorService.getAlbumMountResult fault storageId
  | getAlbumUsage16 fault storageId flags =>
      AlbumAccessorService.getAlbumUsage16 fault storageId flags
  | getMinMaxAppletId size => AlbumAccessorService.getMinMaxAppletId size
  | getAlbumFileCountEx0 answers storageId flags =>
      AlbumAccessorService.getAlbumFileCountEx0 environment answers storageId flags
  | getAlbumFileListEx0 answers maxEntries storageId flags =>
      AlbumAccessorService.getAlbumFileListEx0 environment answers maxEntries storageId flags
  | saveEditedScreenShot => AlbumAccessorService.saveEditedScreenShot
  | getLastOverlayScreenShotThumbnail outBufferSize =>
      AlbumAccessorService.getLastOverlayScreenShotThumbnail outBufferSize
  | getLastOverlayMovieThumbnail outBufferSize =>
      AlbumAccessorService.getLastOverlayMovieThumbnail outBufferSize
  | getAutoSavingStorage answers => AlbumAccessorService.getAutoSavingStorage answers
  | getRequiredStorageSpaceSizeToCopyAll sourceFault destinationFault dst src =>
      AlbumAccessorService.getRequiredStorageSpaceSizeToCopyAll sourceFault destinationFault dst
        src
  | loadAlbumScreenShotThumbnailImageEx0 =>
      AlbumAccessorService.loadAlbumScreenShotThumbnailImageEx0
  | loadAlbumScreenShotImageEx1 => AlbumAccessorService.loadAlbumScreenShotImageEx1
  | loadAlbumScreenShotThumbnailImageEx1 =>
      AlbumAccessorService.loadAlbumScreenShotThumbnailImageEx1
  | forceAlbumUnmounted storageId => AlbumAccessorService.forceAlbumUnmounted storageId
  | resetAlbumMountStatus storageId => AlbumAccessorService.resetAlbumMountStatus storageId
  | refreshAlbumCache answers counts storageId =>
      AlbumAccessorService.refreshAlbumCache environment answers counts storageId
  | getAlbumCache storageId => AlbumAccessorService.getAlbumCache environment storageId
  | getAlbumCacheEx storageId type => AlbumAccessorService.getAlbumCacheEx storageId type
  | getAlbumEntryFromApplicationAlbumEntryAruid temporary out appEntry aruid =>
      AlbumAccessorService.getAlbumEntryFromApplicationAlbumEntryAruid environment temporary out
        appEntry aruid
  | setInternalErrorConversionEnabled mode =>
      AlbumAccessorService.setInternalErrorConversionEnabled mode
  | loadMakerNoteInfoForDebug makernoteSize workSize fileId =>
      AlbumAccessorService.loadMakerNoteInfoForDebug environment makernoteSize workSize fileId
  | openAccessorSession faults aruid => AlbumAccessorService.openAccessorSession faults aruid

end AccessorCommand

end Capsrv
