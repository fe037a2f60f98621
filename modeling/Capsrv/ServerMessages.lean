import Capsrv.AlbumFileSafety
import Capsrv.CommandArguments
import Capsrv.ControlService

/-! # Messages to the server

The dispatch tables of the three services with what their handlers declare to take,
and the messages of clients that are looked up in them. A number that the table does
not have for the firmware is refused before any handler is called. A request that is
not made for the handler that was found ends the process.

A message is a request for one of the commands. The requests that the session manager
answers itself do not come to the services, and no session is one of a domain.
-/

namespace Capsrv

/-! ## The tables -/

/-- A handler for one number and a range of versions. -/
structure CommandMeta (Id Version Handler : Type) where
  low : Version
  high : Version
  id : Id
  handler : Handler

section

variable {Id Version Handler : Type} [LE Version]

def CommandMeta.Matches (entry : CommandMeta Id Version Handler) (id : Id) (version : Version) :
    Prop :=
  entry.id = id ∧ entry.low ≤ version ∧ version ≤ entry.high

instance [DecidableEq Id] [DecidableLE Version] (entry : CommandMeta Id Version Handler)
    (id : Id) (version : Version) : Decidable (entry.Matches id version) :=
  inferInstanceAs (Decidable (_ ∧ _ ∧ _))

/-- The handler of the first entry that matches. -/
def findHandler [DecidableEq Id] [DecidableLE Version]
    (entries : List (CommandMeta Id Version Handler)) (id : Id) (version : Version) :
    Option Handler :=
  (entries.find? fun entry => entry.Matches id version).map (·.handler)

end

section

variable {CommandId : Type} (value : CommandId → UInt32) (commandId : CommandId)

/-- `MAKE_SERVICE_COMMAND_META` with both versions. -/
def between (low high : HosVersion) : CommandMeta UInt32 HosVersion CommandId :=
  ⟨low, high, value commandId, commandId⟩

/-- `MAKE_SERVICE_COMMAND_META` with the first version. -/
def since (low : HosVersion) : CommandMeta UInt32 HosVersion CommandId :=
  between value commandId low .max

/-- `MAKE_SERVICE_COMMAND_META` without a version. -/
def always : CommandMeta UInt32 HosVersion CommandId :=
  since value commandId .min

end

/-- `AlbumAccessorService::CommandId`. -/
inductive AccessorCommandId where
  | getAlbumFileCount
  | getAlbumFileList
  | loadAlbumFile
  | deleteAlbumFile
  | storageCopyAlbumFile
  | isAlbumMounted
  | getAlbumUsage
  | getAlbumFileSize
  | loadAlbumFileThumbnail
  | loadAlbumScreenShotImage
  | loadAlbumScreenShotThumbnailImage
  | getAlbumEntryFromApplicationAlbumEntry
  | loadAlbumScreenShotImageEx
  | loadAlbumScreenShotThumbnailImageEx
  | loadAlbumScreenShotImageEx0
  | getAlbumUsage3
  | getAlbumMountResult
  | getAlbumUsage16
  | getMinMaxAppletId
  | getAlbumFileCountEx0
  | getAlbumFileListEx0
  | saveEditedScreenShot
  | getLastOverlayScreenShotThumbnail
  | getLastOverlayMovieThumbnail
  | getAutoSavingStorage
  | getRequiredStorageSpaceSizeToCopyAll
  | loadAlbumScreenShotThumbnailImageEx0
  | loadAlbumScreenShotImageEx1
  | loadAlbumScreenShotThumbnailImageEx1
  | forceAlbumUnmounted
  | resetAlbumMountStatus
  | refreshAlbumCache
  | getAlbumCache
  | getAlbumCacheEx
  | getAlbumEntryFromApplicationAlbumEntryAruid
  | setInternalErrorConversionEnabled
  | loadMakerNoteInfoForDebug
  | openAccessorSession
deriving DecidableEq, Repr

namespace AccessorCommandId

def value : AccessorCommandId → UInt32
  | .getAlbumFileCount => 0
  | .getAlbumFileList => 1
  | .loadAlbumFile => 2
  | .deleteAlbumFile => 3
  | .storageCopyAlbumFile => 4
  | .isAlbumMounted => 5
  | .getAlbumUsage => 6
  | .getAlbumFileSize => 7
  | .loadAlbumFileThumbnail => 8
  | .loadAlbumScreenShotImage => 9
  | .loadAlbumScreenShotThumbnailImage => 10
  | .getAlbumEntryFromApplicationAlbumEntry => 11
  | .loadAlbumScreenShotImageEx => 12
  | .loadAlbumScreenShotThumbnailImageEx => 13
  | .loadAlbumScreenShotImageEx0 => 14
  | .getAlbumUsage3 => 15
  | .getAlbumMountResult => 16
  | .getAlbumUsage16 => 17
  | .getMinMaxAppletId => 18
  | .getAlbumFileCountEx0 => 100
  | .getAlbumFileListEx0 => 101
  | .saveEditedScreenShot => 202
  | .getLastOverlayScreenShotThumbnail => 301
  | .getLastOverlayMovieThumbnail => 302
  | .getAutoSavingStorage => 401
  | .getRequiredStorageSpaceSizeToCopyAll => 501
  | .loadAlbumScreenShotThumbnailImageEx0 => 1001
  | .loadAlbumScreenShotImageEx1 => 1002
  | .loadAlbumScreenShotThumbnailImageEx1 => 1003
  | .forceAlbumUnmounted => 8001
  | .resetAlbumMountStatus => 8002
  | .refreshAlbumCache => 8011
  | .getAlbumCache => 8012
  | .getAlbumCacheEx => 8013
  | .getAlbumEntryFromApplicationAlbumEntryAruid => 8021
  | .setInternalErrorConversionEnabled => 10011
  | .loadMakerNoteInfoForDebug => 50000
  | .openAccessorSession => 60002

def ofCommand : AccessorCommand → AccessorCommandId
  | .getAlbumFileCount _ _ => .getAlbumFileCount
  | .getAlbumFileList _ _ _ => .getAlbumFileList
  | .loadAlbumFile _ _ => .loadAlbumFile
  | .deleteAlbumFile _ _ => .deleteAlbumFile
  | .storageCopyAlbumFile _ _ _ => .storageCopyAlbumFile
  | .isAlbumMounted _ _ => .isAlbumMounted
  | .getAlbumUsage _ _ => .getAlbumUsage
  | .getAlbumFileSize _ _ => .getAlbumFileSize
  | .loadAlbumFileThumbnail _ _ => .loadAlbumFileThumbnail
  | .loadAlbumScreenShotImage => .loadAlbumScreenShotImage
  | .loadAlbumScreenShotThumbnailImage => .loadAlbumScreenShotThumbnailImage
  | .getAlbumEntryFromApplicationAlbumEntry _ _ _ _ => .getAlbumEntryFromApplicationAlbumEntry
  | .loadAlbumScreenShotImageEx => .loadAlbumScreenShotImageEx
  | .loadAlbumScreenShotThumbnailImageEx => .loadAlbumScreenShotThumbnailImageEx
  | .loadAlbumScreenShotImageEx0 => .loadAlbumScreenShotImageEx0
  | .getAlbumUsage3 _ _ => .getAlbumUsage3
  | .getAlbumMountResult _ _ => .getAlbumMountResult
  | .getAlbumUsage16 _ _ _ => .getAlbumUsage16
  | .getMinMaxAppletId _ => .getMinMaxAppletId
  | .getAlbumFileCountEx0 _ _ _ => .getAlbumFileCountEx0
  | .getAlbumFileListEx0 _ _ _ _ => .getAlbumFileListEx0
  | .saveEditedScreenShot => .saveEditedScreenShot
  | .getLastOverlayScreenShotThumbnail _ => .getLastOverlayScreenShotThumbnail
  | .getLastOverlayMovieThumbnail _ => .getLastOverlayMovieThumbnail
  | .getAutoSavingStorage _ => .getAutoSavingStorage
  | .getRequiredStorageSpaceSizeToCopyAll _ _ _ _ => .getRequiredStorageSpaceSizeToCopyAll
  | .loadAlbumScreenShotThumbnailImageEx0 => .loadAlbumScreenShotThumbnailImageEx0
  | .loadAlbumScreenShotImageEx1 => .loadAlbumScreenShotImageEx1
  | .loadAlbumScreenShotThumbnailImageEx1 => .loadAlbumScreenShotThumbnailImageEx1
  | .forceAlbumUnmounted _ => .forceAlbumUnmounted
  | .resetAlbumMountStatus _ => .resetAlbumMountStatus
  | .refreshAlbumCache _ _ _ => .refreshAlbumCache
  | .getAlbumCache _ => .getAlbumCache
  | .getAlbumCacheEx _ _ => .getAlbumCacheEx
  | .getAlbumEntryFromApplicationAlbumEntryAruid _ _ _ _ =>
      .getAlbumEntryFromApplicationAlbumEntryAruid
  | .setInternalErrorConversionEnabled _ => .setInternalErrorConversionEnabled
  | .loadMakerNoteInfoForDebug _ _ _ => .loadMakerNoteInfoForDebug
  | .openAccessorSession _ _ => .openAccessorSession

/-- What the handler declares to take. -/
def signature : AccessorCommandId → List CommandArgument
  | .getAlbumFileCount => [.byte]
  | .getAlbumFileList => [.outBuffer .normal, .byte]
  | .loadAlbumFile => [.outBuffer .normal, .fileId]
  | .deleteAlbumFile => [.fileId]
  | .storageCopyAlbumFile => [.byte, .fileId]
  | .isAlbumMounted => [.byte]
  | .getAlbumUsage => [.byte]
  | .getAlbumFileSize => [.fileId]
  | .loadAlbumFileThumbnail => [.outBuffer .normal, .fileId]
  | .loadAlbumScreenShotImage => [.outBuffer .nonSecure, .outBuffer .normal, .fileId]
  | .loadAlbumScreenShotThumbnailImage => [.outBuffer .nonSecure, .outBuffer .normal, .fileId]
  | .getAlbumEntryFromApplicationAlbumEntry => [.applicationAlbumEntry, .word]
  | .loadAlbumScreenShotImageEx =>
      [.outBuffer .nonSecure, .outBuffer .normal, .fileId, .screenShotDecodeOption]
  | .loadAlbumScreenShotThumbnailImageEx =>
      [.outBuffer .nonSecure, .outBuffer .normal, .fileId, .screenShotDecodeOption]
  | .loadAlbumScreenShotImageEx0 =>
      [.outBuffer .nonSecure, .outBuffer .normal, .fileId, .screenShotDecodeOption]
  | .getAlbumUsage3 => [.byte]
  | .getAlbumMountResult => [.byte]
  | .getAlbumUsage16 => [.outBuffer .normal, .byte, .byte]
  | .getMinMaxAppletId => [.outBuffer .nonSecure]
  | .getAlbumFileCountEx0 => [.byte, .byte]
  | .getAlbumFileListEx0 => [.outBuffer .normal, .byte, .byte]
  | .saveEditedScreenShot =>
      [.inBuffer .normal, .inBuffer .normal, .word, .word, .word, .word, .word, .word, .word]
  | .getLastOverlayScreenShotThumbnail => [.outBuffer .normal]
  | .getLastOverlayMovieThumbnail => [.outBuffer .normal]
  | .getAutoSavingStorage => []
  | .getRequiredStorageSpaceSizeToCopyAll => [.byte, .byte]
  | .loadAlbumScreenShotThumbnailImageEx0 =>
      [.outBuffer .nonSecure, .outBuffer .normal, .fileId, .screenShotDecodeOption]
  | .loadAlbumScreenShotImageEx1 =>
      [.outBuffer .normal, .outBuffer .nonSecure, .outBuffer .normal, .fileId,
        .screenShotDecodeOption]
  | .loadAlbumScreenShotThumbnailImageEx1 =>
      [.outBuffer .normal, .outBuffer .nonSecure, .outBuffer .normal, .fileId,
        .screenShotDecodeOption]
  | .forceAlbumUnmounted => [.byte]
  | .resetAlbumMountStatus => [.byte]
  | .refreshAlbumCache => [.byte]
  | .getAlbumCache => [.byte]
  | .getAlbumCacheEx => [.byte, .byte]
  | .getAlbumEntryFromApplicationAlbumEntryAruid =>
      [.clientAppletResourceUserId, .applicationAlbumEntry]
  | .setInternalErrorConversionEnabled => [.byte]
  | .loadMakerNoteInfoForDebug => [.outBuffer .normal, .outBuffer .normal, .fileId]
  | .openAccessorSession => [.clientAppletResourceUserId]

/-- The dispatch table of `AlbumAccessorService`. -/
def table : List (CommandMeta UInt32 HosVersion AccessorCommandId) :=
  [ always value .getAlbumFileCount,
    always value .getAlbumFileList,
    always value .loadAlbumFile,
    always value .deleteAlbumFile,
    always value .storageCopyAlbumFile,
    always value .isAlbumMounted,
    always value .getAlbumUsage,
    always value .getAlbumFileSize,
    always value .loadAlbumFileThumbnail,
    since value .loadAlbumScreenShotImage .version2,
    since value .loadAlbumScreenShotThumbnailImage .version2,
    since value .getAlbumEntryFromApplicationAlbumEntry .version2,
    since value .loadAlbumScreenShotImageEx .version3,
    since value .loadAlbumScreenShotThumbnailImageEx .version3,
    since value .loadAlbumScreenShotImageEx0 .version3,
    since value .getAlbumUsage3 .version4,
    since value .getAlbumMountResult .version4,
    since value .getAlbumUsage16 .version4,
    since value .getMinMaxAppletId .version6,
    since value .getAlbumFileCountEx0 .version5,
    since value .getAlbumFileListEx0 .version5,
    between value .saveEditedScreenShot .version1 .version2,
    always value .getLastOverlayScreenShotThumbnail,
    since value .getLastOverlayMovieThumbnail .version4,
    always value .getAutoSavingStorage,
    always value .getRequiredStorageSpaceSizeToCopyAll,
    since value .loadAlbumScreenShotThumbnailImageEx0 .version3,
    since value .loadAlbumScreenShotImageEx1 .version4,
    since value .loadAlbumScreenShotThumbnailImageEx1 .version4,
    always value .forceAlbumUnmounted,
    always value .resetAlbumMountStatus,
    always value .refreshAlbumCache,
    always value .getAlbumCache,
    since value .getAlbumCacheEx .version4,
    since value .getAlbumEntryFromApplicationAlbumEntryAruid .version2,
    always value .setInternalErrorConversionEnabled,
    since value .loadMakerNoteInfoForDebug .version6,
    since value .openAccessorSession .version4 ]

end AccessorCommandId

/-- `AlbumControlService::CommandId`. -/
inductive ControlCommandId where
  | captureRawImage
  | captureRawImageWithTimeout
  | setShimLibraryVersion
  | requestTakingScreenShot
  | requestTakingScreenShotWithTimeout
  | notifyTakingScreenShotRefused
  | notifyAlbumStorageIsAvailable
  | notifyAlbumStorageIsUnavailable
  | registerAppletResourceUserId
  | unregisterAppletResourceUserId
  | getApplicationIdFromAruid
  | checkApplicationIdRegistered
  | generateCurrentAlbumFileId
  | generateApplicationAlbumEntry
  | saveAlbumScreenShotFile
  | saveAlbumScreenShotFileEx
  | setOverlayScreenShotThumbnailData
  | setOverlayMovieThumbnailData
  | openControlSession
deriving DecidableEq, Repr

namespace ControlCommandId

def value : ControlCommandId → UInt32
  | .captureRawImage => 1
  | .captureRawImageWithTimeout => 2
  | .setShimLibraryVersion => 33
  | .requestTakingScreenShot => 1001
  | .requestTakingScreenShotWithTimeout => 1002
  | .notifyTakingScreenShotRefused => 1011
  | .notifyAlbumStorageIsAvailable => 2001
  | .notifyAlbumStorageIsUnavailable => 2002
  | .registerAppletResourceUserId => 2011
  | .unregisterAppletResourceUserId => 2012
  | .getApplicationIdFromAruid => 2013
  | .checkApplicationIdRegistered => 2014
  | .generateCurrentAlbumFileId => 2101
  | .generateApplicationAlbumEntry => 2102
  | .saveAlbumScreenShotFile => 2201
  | .saveAlbumScreenShotFileEx => 2202
  | .setOverlayScreenShotThumbnailData => 2301
  | .setOverlayMovieThumbnailData => 2302
  | .openControlSession => 60001

def ofCommand : ControlCommand → ControlCommandId
  | .captureRawImage => .captureRawImage
  | .captureRawImageWithTimeout => .captureRawImageWithTimeout
  | .setShimLibraryVersion _ _ => .setShimLibraryVersion
  | .requestTakingScreenShot => .requestTakingScreenShot
  | .requestTakingScreenShotWithTimeout => .requestTakingScreenShotWithTimeout
  | .notifyTakingScreenShotRefused => .notifyTakingScreenShotRefused
  | .notifyAlbumStorageIsAvailable _ _ _ => .notifyAlbumStorageIsAvailable
  | .notifyAlbumStorageIsUnavailable _ => .notifyAlbumStorageIsUnavailable
  | .registerAppletResourceUserId _ _ _ => .registerAppletResourceUserId
  | .unregisterAppletResourceUserId _ _ => .unregisterAppletResourceUserId
  | .getApplicationIdFromAruid _ => .getApplicationIdFromAruid
  | .checkApplicationIdRegistered _ => .checkApplicationIdRegistered
  | .generateCurrentAlbumFileId _ _ _ _ => .generateCurrentAlbumFileId
  | .generateApplicationAlbumEntry _ _ _ _ => .generateApplicationAlbumEntry
  | .saveAlbumScreenShotFile _ _ => .saveAlbumScreenShotFile
  | .saveAlbumScreenShotFileEx _ _ _ _ _ => .saveAlbumScreenShotFileEx
  | .setOverlayScreenShotThumbnailData _ _ => .setOverlayScreenShotThumbnailData
  | .setOverlayMovieThumbnailData _ _ => .setOverlayMovieThumbnailData
  | .openControlSession _ _ => .openControlSession

def signature : ControlCommandId → List CommandArgument
  | .captureRawImage => [.outBuffer .nonSecure, .word, .word, .word, .word]
  | .captureRawImageWithTimeout =>
      [.outBuffer .nonSecure, .word, .word, .word, .word, .word]
  | .setShimLibraryVersion => [.word, .word]
  | .requestTakingScreenShot => [.word, .word]
  | .requestTakingScreenShotWithTimeout => [.word, .word, .word]
  | .notifyTakingScreenShotRefused => [.word]
  | .notifyAlbumStorageIsAvailable => [.byte]
  | .notifyAlbumStorageIsUnavailable => [.byte]
  | .registerAppletResourceUserId => [.word, .word]
  | .unregisterAppletResourceUserId => [.word, .word]
  | .getApplicationIdFromAruid => [.word]
  | .checkApplicationIdRegistered => [.word]
  | .generateCurrentAlbumFileId => [.word, .byte]
  | .generateApplicationAlbumEntry => [.albumEntry, .word]
  | .saveAlbumScreenShotFile => [.inBuffer .normal, .fileId]
  | .saveAlbumScreenShotFileEx => [.inBuffer .nonSecure, .fileId, .word, .word, .word]
  | .setOverlayScreenShotThumbnailData => [.inBuffer .nonSecure, .fileId]
  | .setOverlayMovieThumbnailData => [.inBuffer .nonSecure, .fileId]
  | .openControlSession => [.clientAppletResourceUserId]

/-- The dispatch table of `AlbumControlService`. -/
def table : List (CommandMeta UInt32 HosVersion ControlCommandId) :=
  [ between value .captureRawImage .version1 .version1,
    between value .captureRawImageWithTimeout .version1 .version1,
    always value .setShimLibraryVersion,
    between value .requestTakingScreenShot .version1 .version1,
    between value .requestTakingScreenShotWithTimeout .version1 .version1,
    between value .notifyTakingScreenShotRefused .version1 .version1,
    always value .notifyAlbumStorageIsAvailable,
    always value .notifyAlbumStorageIsUnavailable,
    always value .registerAppletResourceUserId,
    always value .unregisterAppletResourceUserId,
    always value .getApplicationIdFromAruid,
    always value .checkApplicationIdRegistered,
    always value .generateCurrentAlbumFileId,
    always value .generateApplicationAlbumEntry,
    always value .saveAlbumScreenShotFile,
    always value .saveAlbumScreenShotFileEx,
    always value .setOverlayScreenShotThumbnailData,
    always value .setOverlayMovieThumbnailData,
    always value .openControlSession ]

end ControlCommandId

/-- `AlbumApplicationService::CommandId`. -/
inductive ApplicationCommandId where
  | setShimLibraryVersion
  | getAlbumFileList0AafeAruidDeprecated
  | deleteAlbumFileByAruid
  | getAlbumFileSizeByAruid
  | deleteAlbumFileByAruidForDebug
  | loadAlbumScreenShotImageByAruid
  | loadAlbumScreenShotThumbnailImageByAruid
  | precheckToCreateContentsByAruid
  | getAlbumFileList1AafeAruidDeprecated
  | getAlbumFileList2AafeUidAruidDeprecated
  | getAlbumFileList3AaeAruid
  | getAlbumFileList4AaeUidAruid
  | openAccessorSessionForApplication
deriving DecidableEq, Repr

namespace ApplicationCommandId

def value : ApplicationCommandId → UInt32
  | .setShimLibraryVersion => 32
  | .getAlbumFileList0AafeAruidDeprecated => 102
  | .deleteAlbumFileByAruid => 103
  | .getAlbumFileSizeByAruid => 104
  | .deleteAlbumFileByAruidForDebug => 105
  | .loadAlbumScreenShotImageByAruid => 110
  | .loadAlbumScreenShotThumbnailImageByAruid => 120
  | .precheckToCreateContentsByAruid => 130
  | .getAlbumFileList1AafeAruidDeprecated => 140
  | .getAlbumFileList2AafeUidAruidDeprecated => 141
  | .getAlbumFileList3AaeAruid => 142
  | .getAlbumFileList4AaeUidAruid => 143
  | .openAccessorSessionForApplication => 60002

def ofCommand : ApplicationCommand → ApplicationCommandId
  | .setShimLibraryVersion _ _ => .setShimLibraryVersion
  | .getAlbumFileList0AafeAruidDeprecated _ => .getAlbumFileList0AafeAruidDeprecated
  | .deleteAlbumFileByAruid _ => .deleteAlbumFileByAruid
  | .getAlbumFileSizeByAruid _ => .getAlbumFileSizeByAruid
  | .deleteAlbumFileByAruidForDebug _ => .deleteAlbumFileByAruidForDebug
  | .loadAlbumScreenShotImageByAruid _ => .loadAlbumScreenShotImageByAruid
  | .loadAlbumScreenShotThumbnailImageByAruid _ => .loadAlbumScreenShotThumbnailImageByAruid
  | .precheckToCreateContentsByAruid _ => .precheckToCreateContentsByAruid
  | .getAlbumFileList1AafeAruidDeprecated _ => .getAlbumFileList1AafeAruidDeprecated
  | .getAlbumFileList2AafeUidAruidDeprecated _ => .getAlbumFileList2AafeUidAruidDeprecated
  | .getAlbumFileList3AaeAruid _ => .getAlbumFileList3AaeAruid
  | .getAlbumFileList4AaeUidAruid _ => .getAlbumFileList4AaeUidAruid
  | .openAccessorSessionForApplication _ _ => .openAccessorSessionForApplication

def signature : ApplicationCommandId → List CommandArgument
  | .setShimLibraryVersion => [.word, .clientAppletResourceUserId]
  | .getAlbumFileList0AafeAruidDeprecated =>
      [.outBuffer .normal, .clientAppletResourceUserId, .byte, .word, .word]
  | .deleteAlbumFileByAruid =>
      [.clientAppletResourceUserId, .byte, .applicationAlbumFileEntry]
  | .getAlbumFileSizeByAruid => [.clientAppletResourceUserId, .applicationAlbumFileEntry]
  | .deleteAlbumFileByAruidForDebug =>
      [.clientAppletResourceUserId, .applicationAlbumFileEntry]
  | .loadAlbumScreenShotImageByAruid =>
      [.outBuffer .normal, .outBuffer .nonSecure, .outBuffer .normal,
        .clientAppletResourceUserId, .applicationAlbumFileEntry, .screenShotDecodeOption]
  | .loadAlbumScreenShotThumbnailImageByAruid =>
      [.outBuffer .normal, .outBuffer .nonSecure, .outBuffer .normal,
        .clientAppletResourceUserId, .applicationAlbumFileEntry, .screenShotDecodeOption]
  | .precheckToCreateContentsByAruid => [.byte, .word, .clientAppletResourceUserId]
  | .getAlbumFileList1AafeAruidDeprecated =>
      [.outBuffer .normal, .clientAppletResourceUserId, .byte, .dateTime, .dateTime]
  | .getAlbumFileList2AafeUidAruidDeprecated =>
      [.outBuffer .normal, .clientAppletResourceUserId, .byte, .dateTime, .dateTime,
        .accountUid]
  | .getAlbumFileList3AaeAruid =>
      [.outBuffer .normal, .clientAppletResourceUserId, .byte, .dateTime, .dateTime]
  | .getAlbumFileList4AaeUidAruid =>
      [.outBuffer .normal, .clientAppletResourceUserId, .byte, .dateTime, .dateTime,
        .accountUid]
  | .openAccessorSessionForApplication =>
      [.clientAppletResourceUserId, .applicationAlbumFileEntry]

/-- The dispatch table of `AlbumApplicationService`. -/
def table : List (CommandMeta UInt32 HosVersion ApplicationCommandId) :=
  [ always value .setShimLibraryVersion,
    always value .getAlbumFileList0AafeAruidDeprecated,
    always value .deleteAlbumFileByAruid,
    always value .getAlbumFileSizeByAruid,
    always value .deleteAlbumFileByAruidForDebug,
    always value .loadAlbumScreenShotImageByAruid,
    always value .loadAlbumScreenShotThumbnailImageByAruid,
    always value .precheckToCreateContentsByAruid,
    since value .getAlbumFileList1AafeAruidDeprecated .version6,
    since value .getAlbumFileList2AafeUidAruidDeprecated .version6,
    since value .getAlbumFileList3AaeAruid .version7,
    since value .getAlbumFileList4AaeUidAruid .version7,
    always value .openAccessorSessionForApplication ]

end ApplicationCommandId

/-! ## The process of a client -/

/-- The process that an argument says the client to be. -/
def AccessorCommand.client : AccessorCommand → Option UInt64
  | getAlbumEntryFromApplicationAlbumEntryAruid _ _ _ aruid => some aruid
  | openAccessorSession _ aruid => some aruid
  | _ => none

def ControlCommand.client : ControlCommand → Option UInt64
  | openControlSession _ aruid => some aruid
  | _ => none

def ApplicationCommand.client : ApplicationCommand → Option UInt64
  | setShimLibraryVersion _ aruid => some aruid
  | getAlbumFileList0AafeAruidDeprecated aruid => some aruid
  | deleteAlbumFileByAruid aruid => some aruid
  | getAlbumFileSizeByAruid aruid => some aruid
  | deleteAlbumFileByAruidForDebug aruid => some aruid
  | loadAlbumScreenShotImageByAruid aruid => some aruid
  | loadAlbumScreenShotThumbnailImageByAruid aruid => some aruid
  | precheckToCreateContentsByAruid aruid => some aruid
  | getAlbumFileList1AafeAruidDeprecated aruid => some aruid
  | getAlbumFileList2AafeUidAruidDeprecated aruid => some aruid
  | getAlbumFileList3AaeAruid aruid => some aruid
  | getAlbumFileList4AaeUidAruid aruid => some aruid
  | openAccessorSessionForApplication _ aruid => some aruid

/-! ## Messages -/

/-- `CmifInHeader`; its last word is not looked at. -/
structure CmifInHeader where
  magic : UInt32
  version : UInt32
  commandId : UInt32
deriving DecidableEq, Repr

/-- A message to one of the services: the request that carries it, whether it ends
inside the message buffer, its header, and what each handler would read from the rest
of it. -/
structure Message {Command CommandId : Type} (ofCommand : Command → CommandId) where
  request : HipcRequest
  inBounds : Bool
  header : CmifInHeader
  arguments : CommandId → Command
  named : ∀ commandId, ofCommand (arguments commandId) = commandId

/-- `DispatchRequest` and `ProcessMessageImpl` up to the call of the command. -/
def Message.dispatch {Command CommandId : Type} {ofCommand : Command → CommandId}
    (environment : Environment) (entries : List (CommandMeta UInt32 HosVersion CommandId))
    (message : Message ofCommand) : Except Result Command :=
  rUnless (0x10 ≤ message.request.metaRawSize ∧ message.inBounds = true)
    (.error Hipc.invalidRequestSize.result) <|
  rUnless (16 ≤ message.request.inRawSize) (.error Cmif.invalidHeaderSize.result) <|
  rUnless (message.header.magic = environment.cmifInHeaderMagic ∧
      message.header.version ≤ environment.maxCmifVersion)
    (.error Cmif.invalidInHeader.result) <|
  match findHandler entries message.header.commandId environment.hosVersion with
  | none => .error Cmif.unknownCommandId.result
  | some commandId => .ok (message.arguments commandId)

/-! ## The server -/

theorem exists_of_map_eq_ok {ε α β : Type} {function : α → β} {outcome : Except ε α} {value : β}
    (mapped : outcome.map function = .ok value) : ∃ source, outcome = .ok source ∧
      function source = value := by
  cases outcome with
  | error rc => cases mapped
  | ok source => exact ⟨source, rfl, Except.ok.inj mapped⟩

/-- What can be asked of the server. -/
inductive ServerCommand where
  | control (command : ControlCommand)
  | accessor (command : AccessorCommand)
  | application (command : ApplicationCommand)

namespace ServerCommand

def perform (environment : Environment) : ServerCommand → Process Server Reply
  | control command => command.perform environment
  | accessor command => command.perform environment
  | application command => command.perform

def signature : ServerCommand → List CommandArgument
  | control command => (ControlCommandId.ofCommand command).signature
  | accessor command => (AccessorCommandId.ofCommand command).signature
  | application command => (ApplicationCommandId.ofCommand command).signature

def client : ServerCommand → Option UInt64
  | control command => command.client
  | accessor command => command.client
  | application command => command.client

end ServerCommand

/-- A message, on a session of the service it is sent to. -/
inductive ServerMessage where
  | control (message : Message ControlCommandId.ofCommand)
  | accessor (message : Message AccessorCommandId.ofCommand)
  | application (message : Message ApplicationCommandId.ofCommand)

/-- What a message comes to before a handler is called: the session is closed, there is
no header to write a failure to, or the handler is called. -/
inductive Dispatched where
  | refused (rc : Result)
  | malformed (rc : Result)
  | called (command : ServerCommand)

namespace ServerMessage

def request : ServerMessage → HipcRequest
  | control message => message.request
  | accessor message => message.request
  | application message => message.request

/-- The command that the tables have for the message. -/
def command (environment : Environment) : ServerMessage → Except Result ServerCommand
  | control message => (message.dispatch environment ControlCommandId.table).map .control
  | accessor message => (message.dispatch environment AccessorCommandId.table).map .accessor
  | application message =>
      (message.dispatch environment ApplicationCommandId.table).map .application

def dispatch (environment : Environment) (message : ServerMessage) : Dispatched :=
  match message.command environment with
  | .error rc => .refused rc
  | .ok command =>
      rTry (message.request.prepare command.signature command.client) .malformed
        (.called command)

/-- `ProcessMessageImpl`, with `AMS_ABORT_UNLESS(out_header != nullptr)`. -/
def perform (environment : Environment) (message : ServerMessage) : Process Server Reply :=
  match message.dispatch environment with
  | .refused rc => pure (.error rc)
  | .malformed _ => Process.abort
  | .called command => command.perform environment

/-- The handler is called of the command that the tables have, for a request that is
made for it. -/
theorem dispatch_eq_called_iff {environment : Environment} {message : ServerMessage}
    {command : ServerCommand} :
    message.dispatch environment = .called command ↔
      message.command environment = .ok command ∧
        message.request.prepare command.signature command.client = .success := by
  rw [dispatch]
  cases message.command environment with
  | error rc => simp
  | ok found =>
      dsimp only
      rw [rTry]
      split
      case isTrue prepared =>
        rw [Result.isSuccess_eq_true_iff] at prepared
        constructor
        · rintro ⟨⟩
          exact ⟨rfl, prepared⟩
        · rintro ⟨⟨⟩, -⟩
          rfl
      case isFalse refused =>
        rw [Result.isSuccess_eq_true_iff] at refused
        refine iff_of_false (by simp) ?_
        rintro ⟨⟨⟩, prepared⟩
        exact refused prepared

/-- A message calls one handler, or does nothing, or ends the process. -/
theorem perform_cases (environment : Environment) (message : ServerMessage) :
    (∃ rc, message.perform environment = pure (.error rc)) ∨
      message.perform environment = Process.abort ∨
      ∃ command, message.dispatch environment = .called command ∧
        message.perform environment = command.perform environment := by
  rw [perform]
  cases message.dispatch environment with
  | refused rc => exact .inl ⟨rc, rfl⟩
  | malformed rc => exact .inr (.inl rfl)
  | called command => exact .inr (.inr ⟨command, rfl, rfl⟩)

end ServerMessage

/-! ## The messages of a library -/

/-- A scan of directories without entries. -/
def ScanAnswers.empty : ScanAnswers :=
  ⟨none, ⟨fun _ _ => .ok []⟩, fun _ _ => 0⟩

/-- The commands that stand for what is not read of a message. -/
def ControlCommand.plain : ControlCommandId → ControlCommand
  | .captureRawImage => .captureRawImage
  | .captureRawImageWithTimeout => .captureRawImageWithTimeout
  | .setShimLibraryVersion => .setShimLibraryVersion 0 0
  | .requestTakingScreenShot => .requestTakingScreenShot
  | .requestTakingScreenShotWithTimeout => .requestTakingScreenShotWithTimeout
  | .notifyTakingScreenShotRefused => .notifyTakingScreenShotRefused
  | .notifyAlbumStorageIsAvailable => .notifyAlbumStorageIsAvailable .empty (fun _ => 0) .nand
  | .notifyAlbumStorageIsUnavailable => .notifyAlbumStorageIsUnavailable .nand
  | .registerAppletResourceUserId => .registerAppletResourceUserId drawnKey 0 0
  | .unregisterAppletResourceUserId => .unregisterAppletResourceUserId 0 0
  | .getApplicationIdFromAruid => .getApplicationIdFromAruid 0
  | .checkApplicationIdRegistered => .checkApplicationIdRegistered 0
  | .generateCurrentAlbumFileId =>
      .generateCurrentAlbumFileId ⟨.ok .nand, none, none⟩ (.ok 0) 0 .screenshot
  | .generateApplicationAlbumEntry => .generateApplicationAlbumEntry .cleared .cleared ⟨0, .zero⟩ 0
  | .saveAlbumScreenShotFile => .saveAlbumScreenShotFile [] .zero
  | .saveAlbumScreenShotFileEx => .saveAlbumScreenShotFileEx [] .zero 0 0 0
  | .setOverlayScreenShotThumbnailData => .setOverlayScreenShotThumbnailData [] .zero
  | .setOverlayMovieThumbnailData => .setOverlayMovieThumbnailData [] .zero
  | .openControlSession => .openControlSession ⟨none, none⟩ 0

theorem ControlCommand.ofCommand_plain (commandId : ControlCommandId) :
    ControlCommandId.ofCommand (.plain commandId) = commandId := by
  cases commandId <;> rfl

def AccessorCommand.plain : AccessorCommandId → AccessorCommand
  | .getAlbumFileCount => .getAlbumFileCount .empty .nand
  | .getAlbumFileList => .getAlbumFileList .empty 0 .nand
  | .loadAlbumFile => .loadAlbumFile none .zero
  | .deleteAlbumFile => .deleteAlbumFile ⟨none, none⟩ .zero
  | .storageCopyAlbumFile => .storageCopyAlbumFile .absent .nand .zero
  | .isAlbumMounted => .isAlbumMounted none .nand
  | .getAlbumUsage => .getAlbumUsage none .nand
  | .getAlbumFileSize => .getAlbumFileSize ⟨none, none, none⟩ .zero
  | .loadAlbumFileThumbnail => .loadAlbumFileThumbnail none .zero
  | .loadAlbumScreenShotImage => .loadAlbumScreenShotImage
  | .loadAlbumScreenShotThumbnailImage => .loadAlbumScreenShotThumbnailImage
  | .getAlbumEntryFromApplicationAlbumEntry =>
      .getAlbumEntryFromApplicationAlbumEntry ⟨0, .zero⟩ ⟨0, .zero⟩ .cleared 0
  | .loadAlbumScreenShotImageEx => .loadAlbumScreenShotImageEx
  | .loadAlbumScreenShotThumbnailImageEx => .loadAlbumScreenShotThumbnailImageEx
  | .loadAlbumScreenShotImageEx0 => .loadAlbumScreenShotImageEx0
  | .getAlbumUsage3 => .getAlbumUsage3 none .nand
  | .getAlbumMountResult => .getAlbumMountResult none .nand
  | .getAlbumUsage16 => .getAlbumUsage16 none .nand 0
  | .getMinMaxAppletId => .getMinMaxAppletId 0
  | .getAlbumFileCountEx0 => .getAlbumFileCountEx0 .empty .nand 0
  | .getAlbumFileListEx0 => .getAlbumFileListEx0 .empty 0 .nand 0
  | .saveEditedScreenShot => .saveEditedScreenShot
  | .getLastOverlayScreenShotThumbnail => .getLastOverlayScreenShotThumbnail 0
  | .getLastOverlayMovieThumbnail => .getLastOverlayMovieThumbnail 0
  | .getAutoSavingStorage => .getAutoSavingStorage ⟨.ok .nand, none, none⟩
  | .getRequiredStorageSpaceSizeToCopyAll =>
      .getRequiredStorageSpaceSizeToCopyAll none none .nand .nand
  | .loadAlbumScreenShotThumbnailImageEx0 => .loadAlbumScreenShotThumbnailImageEx0
  | .loadAlbumScreenShotImageEx1 => .loadAlbumScreenShotImageEx1
  | .loadAlbumScreenShotThumbnailImageEx1 => .loadAlbumScreenShotThumbnailImageEx1
  | .forceAlbumUnmounted => .forceAlbumUnmounted .nand
  | .resetAlbumMountStatus => .resetAlbumMountStatus .nand
  | .refreshAlbumCache => .refreshAlbumCache .empty (fun _ => 0) .nand
  | .getAlbumCache => .getAlbumCache .nand
  | .getAlbumCacheEx => .getAlbumCacheEx .nand .screenshot
  | .getAlbumEntryFromApplicationAlbumEntryAruid =>
      .getAlbumEntryFromApplicationAlbumEntryAruid ⟨0, .zero⟩ ⟨0, .zero⟩ .cleared 0
  | .setInternalErrorConversionEnabled => .setInternalErrorConversionEnabled true
  | .loadMakerNoteInfoForDebug => .loadMakerNoteInfoForDebug 0 0 .zero
  | .openAccessorSession => .openAccessorSession ⟨none, none⟩ 0

theorem AccessorCommand.ofCommand_plain (commandId : AccessorCommandId) :
    AccessorCommandId.ofCommand (.plain commandId) = commandId := by
  cases commandId <;> rfl

def ApplicationCommand.plain : ApplicationCommandId → ApplicationCommand
  | .setShimLibraryVersion => .setShimLibraryVersion 0 0
  | .getAlbumFileList0AafeAruidDeprecated => .getAlbumFileList0AafeAruidDeprecated 0
  | .deleteAlbumFileByAruid => .deleteAlbumFileByAruid 0
  | .getAlbumFileSizeByAruid => .getAlbumFileSizeByAruid 0
  | .deleteAlbumFileByAruidForDebug => .deleteAlbumFileByAruidForDebug 0
  | .loadAlbumScreenShotImageByAruid => .loadAlbumScreenShotImageByAruid 0
  | .loadAlbumScreenShotThumbnailImageByAruid => .loadAlbumScreenShotThumbnailImageByAruid 0
  | .precheckToCreateContentsByAruid => .precheckToCreateContentsByAruid 0
  | .getAlbumFileList1AafeAruidDeprecated => .getAlbumFileList1AafeAruidDeprecated 0
  | .getAlbumFileList2AafeUidAruidDeprecated => .getAlbumFileList2AafeUidAruidDeprecated 0
  | .getAlbumFileList3AaeAruid => .getAlbumFileList3AaeAruid 0
  | .getAlbumFileList4AaeUidAruid => .getAlbumFileList4AaeUidAruid 0
  | .openAccessorSessionForApplication => .openAccessorSessionForApplication ⟨none, none⟩ 0

theorem ApplicationCommand.ofCommand_plain (commandId : ApplicationCommandId) :
    ApplicationCommandId.ofCommand (.plain commandId) = commandId := by
  cases commandId <;> rfl

/-- A message for one command as the library of a process builds it: for the arguments
of its handler, with the number of the command. -/
def Message.forCommand {Command CommandId : Type} [DecidableEq CommandId]
    {ofCommand : Command → CommandId} (value : CommandId → UInt32)
    (signature : CommandId → List CommandArgument) (others : CommandId → Command)
    (named : ∀ commandId, ofCommand (others commandId) = commandId) (magic : UInt32)
    (pid : UInt64) (command : Command) : Message ofCommand where
  request := requestFor (signature (ofCommand command)) pid
  inBounds := true
  header := ⟨magic, 0, value (ofCommand command)⟩
  arguments commandId := if ofCommand command = commandId then command else others commandId
  named commandId := by
    split
    case isTrue same => exact same
    case isFalse => exact named commandId

section

variable {Command CommandId : Type} [DecidableEq CommandId] {ofCommand : Command → CommandId}
  {value : CommandId → UInt32} {signature : CommandId → List CommandArgument}
  {others : CommandId → Command} {named : ∀ commandId, ofCommand (others commandId) = commandId}
  {environment : Environment} {pid : UInt64} {command : Command}
  {entries : List (CommandMeta UInt32 HosVersion CommandId)}

theorem dispatch_forCommand
    (known : findHandler entries (value (ofCommand command)) environment.hosVersion =
      some (ofCommand command)) :
    (Message.forCommand value signature others named environment.cmifInHeaderMagic pid
      command).dispatch environment entries = .ok command := by
  have raw := metaRawSize_requestFor (signature (ofCommand command)) pid
  have room := le_alignUp (inDataSize (signature (ofCommand command)) + 0x10 + 0x10)
    (show 0 < 4 by decide)
  have version : (0 : UInt32) ≤ environment.maxCmifVersion := UInt32.zero_le
  rw [Message.dispatch, rUnless, if_pos, rUnless, if_pos, rUnless, if_pos ⟨rfl, version⟩]
  · change (match findHandler entries (value (ofCommand command)) environment.hosVersion with
      | none => _
      | some commandId => _) = _
    rw [known]
    exact congrArg Except.ok (if_pos rfl)
  · rw [HipcRequest.inRawSize, Message.forCommand, raw]
    omega
  · refine ⟨?_, rfl⟩
    rw [Message.forCommand, raw]
    omega

end

namespace ServerCommand

/-- The table of the service has the command for the firmware. -/
def Known (environment : Environment) : ServerCommand → Prop
  | control command => findHandler ControlCommandId.table
      (ControlCommandId.ofCommand command).value environment.hosVersion =
        some (ControlCommandId.ofCommand command)
  | accessor command => findHandler AccessorCommandId.table
      (AccessorCommandId.ofCommand command).value environment.hosVersion =
        some (AccessorCommandId.ofCommand command)
  | application command => findHandler ApplicationCommandId.table
      (ApplicationCommandId.ofCommand command).value environment.hosVersion =
        some (ApplicationCommandId.ofCommand command)

/-- The message for the command from a process. -/
def message (environment : Environment) (pid : UInt64) : ServerCommand → ServerMessage
  | control command => .control (.forCommand ControlCommandId.value ControlCommandId.signature
      ControlCommand.plain ControlCommand.ofCommand_plain environment.cmifInHeaderMagic pid
      command)
  | accessor command => .accessor (.forCommand AccessorCommandId.value
      AccessorCommandId.signature AccessorCommand.plain AccessorCommand.ofCommand_plain
      environment.cmifInHeaderMagic pid command)
  | application command => .application (.forCommand ApplicationCommandId.value
      ApplicationCommandId.signature ApplicationCommand.plain ApplicationCommand.ofCommand_plain
      environment.cmifInHeaderMagic pid command)

variable {environment : Environment} {pid : UInt64} {command : ServerCommand}

/-- It comes to its handler, unless it names another process. -/
theorem dispatch_message (known : command.Known environment)
    (own : ∀ aruid ∈ command.client, aruid = pid ∨ aruid = 0) :
    (command.message environment pid).dispatch environment = .called command := by
  rw [ServerMessage.dispatch_eq_called_iff]
  cases command with
  | control command =>
      exact ⟨congrArg (Except.map control) (dispatch_forCommand known),
        prepare_requestFor _ own⟩
  | accessor command =>
      exact ⟨congrArg (Except.map accessor) (dispatch_forCommand known),
        prepare_requestFor _ own⟩
  | application command =>
      exact ⟨congrArg (Except.map application) (dispatch_forCommand known),
        prepare_requestFor _ own⟩

end ServerCommand

end Capsrv
