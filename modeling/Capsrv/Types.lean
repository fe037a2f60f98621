import Capsrv.Foundation.Text
import Capsrv.Result

/-! # Album data types

Storages, content types, settings and album file ids. An `enum class` over `u8`
can hold any byte, so the two id types are bytes with named values.
-/

namespace Capsrv

/-! ## Storages -/

structure StorageId where
  value : UInt8
deriving DecidableEq, Repr

namespace StorageId

def nand : StorageId := ⟨0⟩
def sd : StorageId := ⟨1⟩

end StorageId

inductive MountState where
  | unmounted
  | available
  | mounted
deriving DecidableEq, Repr

/-- `MountPoints`, indexed by the storage. -/
def mountPoint (storageId : StorageId) : Text :=
  if storageId = .nand then ascii "NA:/" else ascii "SD:/"

/-- `MountNames`, indexed by the storage. -/
def mountName (storageId : StorageId) : Text :=
  if storageId = .nand then ascii "NA" else ascii "SD"

def storageValid (storageId : StorageId) : Bool :=
  storageId = .nand || storageId = .sd

def verifyStorageId (storageId : StorageId) : Result :=
  if storageValid storageId then .success else albumInvalidStorage.result

/-! ## Content types -/

structure ContentType where
  value : UInt8
deriving DecidableEq, Repr

namespace ContentType

def screenshot : ContentType := ⟨0⟩
def movie : ContentType := ⟨1⟩
def extraScreenshot : ContentType := ⟨2⟩
def extraMovie : ContentType := ⟨3⟩

end ContentType

/-- `GetFileExtension`; a null pointer for a byte that is no content type. -/
def getFileExtension (type : ContentType) : Option Text :=
  if type = .screenshot ∨ type = .extraScreenshot then some (ascii ".jpg")
  else if type = .movie ∨ type = .extraMovie then some (ascii ".mp4")
  else none

def contentTypeValid (type : ContentType) : Bool :=
  type = .screenshot || type = .movie || type = .extraScreenshot || type = .extraMovie

theorem contentTypeValid_cases {type : ContentType} (valid : contentTypeValid type = true) :
    type = .screenshot ∨ type = .movie ∨ type = .extraScreenshot ∨ type = .extraMovie := by
  simpa only [contentTypeValid, Bool.or_eq_true, decide_eq_true_eq, or_assoc] using valid

def isScreenShot (type : ContentType) : Bool :=
  type = .screenshot || type = .extraScreenshot

def isNormal (type : ContentType) : Bool :=
  type = .screenshot || type = .movie

def isExtra (type : ContentType) : Bool :=
  !isNormal type

/-! ## Settings -/

structure AlbumSettings where
  defaultDirectory : Bool
  screenshotSupport : Bool
  movieSupport : Bool
  verifyScreenShotFiledata : Bool
  nandScreenshotMaxCount : UInt64
  nandMovieMaxCount : UInt64
  sdScreenshotMaxCount : UInt64
  sdMovieMaxCount : UInt64
  customDirectoryPath : Option Text
deriving DecidableEq, Repr

namespace AlbumSettings

def isTypeSupported (settings : AlbumSettings) (type : ContentType) : Bool :=
  if type = .screenshot then settings.screenshotSupport
  else if type = .movie then settings.movieSupport
  else type = .extraScreenshot || type = .extraMovie

def getVerifyScreenshotFiledata (settings : AlbumSettings) : Bool :=
  settings.verifyScreenShotFiledata

def getFileMaxCount (settings : AlbumSettings) (storageId : StorageId)
    (type : ContentType) : UInt64 :=
  if storageId = .nand then
    if isScreenShot type then settings.nandScreenshotMaxCount
    else if contentTypeValid type then settings.nandMovieMaxCount
    else 0
  else if storageId = .sd then
    if isScreenShot type then settings.sdScreenshotMaxCount
    else if contentTypeValid type then settings.sdMovieMaxCount
    else 0
  else 0

def getCustomImageDirectoryPath (settings : AlbumSettings) : Option Text :=
  if settings.defaultDirectory then none else settings.customDirectoryPath

/-- What `AlbumSettings::Initialize` ends with where no item is set. -/
def unset : AlbumSettings where
  defaultDirectory := true
  screenshotSupport := true
  movieSupport := true
  verifyScreenShotFiledata := true
  nandScreenshotMaxCount := 1000
  nandMovieMaxCount := 100
  sdScreenshotMaxCount := 10000
  sdMovieMaxCount := 1000
  customDirectoryPath := none

theorem contentTypeValid_of_isTypeSupported {settings : AlbumSettings} {type : ContentType}
    (supported : settings.isTypeSupported type = true) : contentTypeValid type = true := by
  unfold isTypeSupported at supported
  unfold contentTypeValid
  split at supported
  · simp [*]
  · split at supported
    · simp [*]
    · simp_all

end AlbumSettings

/-- `GetAllowedFileSize`, with its table `MaxSizeArray`. -/
def getAllowedFileSize (type : ContentType) (settings : AlbumSettings) : Nat :=
  if settings.isTypeSupported type then
    if isScreenShot type then 0x7d000 else 0x80000000
  else 0

/-! ## File ids -/

structure AlbumDateTime where
  year : UInt16
  month : UInt8
  day : UInt8
  hour : UInt8
  minute : UInt8
  second : UInt8
  id : UInt8
deriving DecidableEq, Repr

structure AlbumFileId where
  applicationId : UInt64
  dateTime : AlbumDateTime
  storageId : StorageId
  type : ContentType
  pad : Vector UInt8 6
deriving DecidableEq, Repr

structure AlbumEntry where
  size : Int64
  fileId : AlbumFileId
deriving DecidableEq, Repr

namespace AlbumFileId

/-- A value-initialised id. -/
def zero : AlbumFileId where
  applicationId := 0
  dateTime := ⟨0, 0, 0, 0, 0, 0, 0⟩
  storageId := ⟨0⟩
  type := ⟨0⟩
  pad := .replicate 6 0

/-- `AlbumFileId::Verify`. The day and month are compared after the promotion
of `value - 1` to `int`, so zero passes. -/
def verify (fileId : AlbumFileId) (settings : AlbumSettings) : Result :=
  rUnless (fileId.applicationId ≠ 0) albumInvalidFileId.result <|
  rUnless (fileId.dateTime.year < 10000) albumInvalidFileId.result <|
  rUnless ((fileId.dateTime.month.toNat : Int) - 1 < 12) albumInvalidFileId.result <|
  rUnless ((fileId.dateTime.day.toNat : Int) - 1 < 31) albumInvalidFileId.result <|
  rUnless (fileId.dateTime.hour < 24) albumInvalidFileId.result <|
  rUnless (fileId.dateTime.minute < 60) albumInvalidFileId.result <|
  rUnless (fileId.dateTime.second < 60) albumInvalidFileId.result <|
  rUnless (fileId.dateTime.id < 100) albumInvalidFileId.result <|
  rTry (verifyStorageId fileId.storageId) id <|
  rUnless (settings.isTypeSupported fileId.type) albumInvalidFileContents.result
  .success

/-- What a verified id is known to satisfy. -/
structure Verified (fileId : AlbumFileId) (settings : AlbumSettings) : Prop where
  application : fileId.applicationId ≠ 0
  year : fileId.dateTime.year.toNat < 10000
  month : fileId.dateTime.month.toNat ≤ 12
  day : fileId.dateTime.day.toNat ≤ 31
  hour : fileId.dateTime.hour.toNat < 24
  minute : fileId.dateTime.minute.toNat < 60
  second : fileId.dateTime.second.toNat < 60
  sequence : fileId.dateTime.id.toNat < 100
  storage : storageValid fileId.storageId = true
  type : settings.isTypeSupported fileId.type = true

theorem verify_eq_success_iff (fileId : AlbumFileId) (settings : AlbumSettings) :
    fileId.verify settings = .success ↔ fileId.Verified settings := by
  have storage : verifyStorageId fileId.storageId = .success ↔
      storageValid fileId.storageId = true := by
    unfold verifyStorageId
    split <;> simp_all [(by decide : albumInvalidStorage.result ≠ .success)]
  simp (disch := decide) only [verify, rUnless_eq_success_iff, rTry_eq_success_iff, storage]
  constructor
  · rintro ⟨application, year, month, day, hour, minute, second, sequence, storage, type, -⟩
    simp only [UInt8.lt_iff_toNat_lt, UInt16.lt_iff_toNat_lt] at year hour minute second sequence
    exact ⟨application, year, by omega, by omega, hour, minute, second, sequence, storage, type⟩
  · intro verified
    rcases verified with
        ⟨application, year, month, day, hour, minute, second, sequence, storage, type⟩
    exact ⟨application, UInt16.lt_iff_toNat_lt.mpr year, by omega, by omega,
      UInt8.lt_iff_toNat_lt.mpr hour, UInt8.lt_iff_toNat_lt.mpr minute,
      UInt8.lt_iff_toNat_lt.mpr second, UInt8.lt_iff_toNat_lt.mpr sequence, storage, type, trivial⟩

end AlbumFileId

/-- A screenshot on the NAND storage. -/
def savedScreenshot : AlbumFileId where
  applicationId := 0x0100152000022000
  dateTime := ⟨2021, 5, 17, 20, 31, 4, 0⟩
  storageId := .nand
  type := .screenshot
  pad := .replicate 6 0

theorem verified_savedScreenshot : savedScreenshot.Verified .unset :=
  (savedScreenshot.verify_eq_success_iff _).mp (by decide)

/-- Another screenshot of the same second. -/
def secondScreenshot : AlbumFileId :=
  { savedScreenshot with dateTime := { savedScreenshot.dateTime with id := 1 } }

theorem verified_secondScreenshot : secondScreenshot.Verified .unset :=
  (secondScreenshot.verify_eq_success_iff _).mp (by decide)

end Capsrv
