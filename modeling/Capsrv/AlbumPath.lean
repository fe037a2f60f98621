import Capsrv.PathCipher

/-! # Album paths

`GetFolderPath`, `GetFileName` and `MakeAlbumPath`: the path a file id is
stored under.
-/

namespace Capsrv

/-- The two-digit hexadecimal conversions of a cipher block into a
`char[0x20]`. Each conversion is told what is left of the array. -/
def cypherString (cypher : Block) : Text :=
  (List.finRange 16).foldl
    (fun text index =>
      text.snprintfAt (2 * index.val) (0x20 - 2 * index.val) (Text.hexByte (cypher index)))
    []

/-- A buffer filled by successive calls of `snprintf`: the text in it, the room
left and the length of what was to be written. -/
structure PathWriter where
  text : Text
  maxLength : UInt64
  written : Nat

namespace PathWriter

def empty (maxLength : UInt64) : PathWriter :=
  ⟨[], maxLength, 0⟩

/-- `tmp = snprintf(ptr, max_length, ...)`, followed by the updates of `ptr`,
`max_length` and `written` by `tmp`. -/
def print (writer : PathWriter) (piece : Text) : PathWriter where
  text := writer.text.snprintfAt writer.written writer.maxLength.toNat piece
  maxLength := writer.maxLength - UInt64.ofNat piece.length
  written := writer.written + piece.length

end PathWriter

/-- The conversion `/%04d/%02d/%02d/`. -/
def dateFolder (dateTime : AlbumDateTime) : Text :=
  ascii "/" ++ Text.decimal 4 dateTime.year.toNat ++ ascii "/" ++
    Text.decimal 2 dateTime.month.toNat ++ ascii "/" ++
    Text.decimal 2 dateTime.day.toNat ++ ascii "/"

def getFolderPath (cipher : PathCipher) (maxLength : UInt64) (fileId : AlbumFileId) :
    PathWriter :=
  let mount := (PathWriter.empty maxLength).print (mountPoint fileId.storageId)
  let folder :=
    if isExtra fileId.type then
      (mount.print (ascii "Extra")).print
        (cypherString (cipher.encryptExtraPath fileId.applicationId))
    else mount
  folder.print (dateFolder fileId.dateTime)

/-- The conversion `%04d%02d%02d%02d%02d%02d%02d`. -/
def timeStamp (dateTime : AlbumDateTime) : Text :=
  Text.decimal 4 dateTime.year.toNat ++ Text.decimal 2 dateTime.month.toNat ++
    Text.decimal 2 dateTime.day.toNat ++ Text.decimal 2 dateTime.hour.toNat ++
    Text.decimal 2 dateTime.minute.toNat ++ Text.decimal 2 dateTime.second.toNat ++
    Text.decimal 2 dateTime.id.toNat

/-- The text the format of `GetFileName` asks for. -/
def fileName (cipher : PathCipher) (dateTime : AlbumDateTime) (applicationId : UInt64)
    (type : ContentType) : Text :=
  timeStamp dateTime ++ ascii "-" ++
    cypherString (cipher.encryptFileExtension applicationId (isExtra type)) ++
    (if isExtra type then ascii "X" else []) ++ (getFileExtension type).getD []

/-- `GetFileName(&length, buffer + offset, max, ...)`: the text left in a buffer
that held `buffer`. -/
def getFileName (cipher : PathCipher) (buffer : Text) (offset : Nat) (max : UInt64)
    (dateTime : AlbumDateTime) (applicationId : UInt64) (type : ContentType) : Text :=
  buffer.snprintfAt offset max.toNat (fileName cipher dateTime applicationId type)

/-- `GetAlbumPath`: the text left in the buffer. -/
def getAlbumPath (cipher : PathCipher) (max : UInt64) (fileId : AlbumFileId) : Text :=
  let folder := getFolderPath cipher max fileId
  getFileName cipher folder.text folder.written (max - UInt64.ofNat folder.written)
    fileId.dateTime fileId.applicationId fileId.type

/-- `AlbumPath::MakeAlbumPath`: the text in `path_buffer`. -/
def makeAlbumPath (cipher : PathCipher) (settings : AlbumSettings)
    (fileId : AlbumFileId) : Except Result Text :=
  rTry (fileId.verify settings) .error <|
  .ok (getAlbumPath cipher 0x6d fileId)

/-! ## Nothing is truncated

The lengths of the pieces, and with them the whole path of a verified id. -/

@[simp] theorem length_mountPoint (storageId : StorageId) :
    (mountPoint storageId).length = 4 := by
  unfold mountPoint
  split <;> rfl

theorem length_getFileExtension {type : ContentType} (valid : contentTypeValid type = true) :
    ((getFileExtension type).getD []).length = 4 := by
  rcases contentTypeValid_cases valid with rfl | rfl | rfl | rfl
  all_goals rfl

/-- The last conversion has room for one of its two digits. -/
@[simp] theorem length_cypherString (cypher : Block) : (cypherString cypher).length = 31 := by
  simp [cypherString, List.finRange_succ, Text.snprintfAt, Text.snprintf]

/-- A cipher block as text: fifteen complete bytes and half of the last. -/
theorem cypherString_eq (cypher : Block) :
    cypherString cypher =
      (List.ofFn fun index : Fin 15 => cypher index.castSucc).flatMap Text.hexByte ++
        [Text.upperHexDigit ((cypher 15).toNat / 16)] := by
  simp [cypherString, List.finRange_succ, Text.snprintfAt, Text.snprintf, List.ofFn_succ,
    Text.hexByte]

section

variable {fileId : AlbumFileId} {settings : AlbumSettings}

theorem length_dateFolder (verified : fileId.Verified settings) :
    (dateFolder fileId.dateTime).length = 12 := by
  rcases verified with ⟨_, year, month, day, _, _, _, _, _, _⟩
  simp only [dateFolder, List.length_append, Text.length_decimal (by decide : 0 < 4) year,
    Text.length_decimal_two (show fileId.dateTime.month.toNat < 100 by omega),
    Text.length_decimal_two (show fileId.dateTime.day.toNat < 100 by omega)]
  rfl

theorem length_timeStamp (verified : fileId.Verified settings) :
    (timeStamp fileId.dateTime).length = 16 := by
  rcases verified with ⟨_, year, month, day, hour, minute, second, sequence, _, _⟩
  simp only [timeStamp, List.length_append, Text.length_decimal (by decide : 0 < 4) year,
    Text.length_decimal_two (show fileId.dateTime.month.toNat < 100 by omega),
    Text.length_decimal_two (show fileId.dateTime.day.toNat < 100 by omega),
    Text.length_decimal_two (show fileId.dateTime.hour.toNat < 100 by omega),
    Text.length_decimal_two (show fileId.dateTime.minute.toNat < 100 by omega),
    Text.length_decimal_two (show fileId.dateTime.second.toNat < 100 by omega),
    Text.length_decimal_two sequence]

theorem length_fileName (cipher : PathCipher) (verified : fileId.Verified settings) :
    (fileName cipher fileId.dateTime fileId.applicationId fileId.type).length =
      if isExtra fileId.type then 53 else 52 := by
  have extension := length_getFileExtension
    (AlbumSettings.contentTypeValid_of_isTypeSupported verified.type)
  simp only [fileName, List.length_append, length_timeStamp verified, extension,
    length_cypherString]
  split <;> rfl

end

/-! ## The whole path -/

namespace PathWriter

/-- Everything printed so far is in the buffer of `max` bytes. -/
structure Exact (writer : PathWriter) (max : Nat) (printed : Text) : Prop where
  text : writer.text = printed
  written : writer.written = printed.length
  room : writer.maxLength.toNat + printed.length = max

theorem empty_exact (maxLength : UInt64) : (empty maxLength).Exact maxLength.toNat [] :=
  ⟨rfl, rfl, rfl⟩

theorem Exact.print {writer : PathWriter} {max : Nat} {text : Text}
    (exact : writer.Exact max text) (piece : Text)
    (fits : text.length + piece.length < max) :
    (writer.print piece).Exact max (text ++ piece) := by
  have room := exact.room
  have bound := writer.maxLength.toNat_lt
  have pieceFits : (UInt64.ofNat piece.length).toNat = piece.length :=
    UInt64.toNat_ofNat_of_lt' (show piece.length < 2 ^ 64 by omega)
  constructor
  · rw [PathWriter.print, exact.text, exact.written]
    exact Text.snprintfAt_of_fits rfl (by omega)
  · simp [PathWriter.print, exact.written]
  · have subtraction : UInt64.ofNat piece.length ≤ writer.maxLength := by
      rw [UInt64.le_iff_toNat_le, pieceFits]
      omega
    rw [PathWriter.print, UInt64.toNat_sub_of_le _ _ subtraction, pieceFits, List.length_append]
    omega

end PathWriter

/-- The directory part of an album path. -/
def albumFolder (cipher : PathCipher) (fileId : AlbumFileId) : Text :=
  mountPoint fileId.storageId ++
    (if isExtra fileId.type then
      ascii "Extra" ++ cypherString (cipher.encryptExtraPath fileId.applicationId)
    else []) ++
    dateFolder fileId.dateTime

section

variable {fileId : AlbumFileId} {settings : AlbumSettings}

theorem length_albumFolder (cipher : PathCipher) (verified : fileId.Verified settings) :
    (albumFolder cipher fileId).length = if isExtra fileId.type then 52 else 16 := by
  have date := length_dateFolder verified
  unfold albumFolder
  split <;> simp [date, ascii]

theorem getFolderPath_exact (cipher : PathCipher) (verified : fileId.Verified settings) :
    (getFolderPath cipher 0x6d fileId).Exact 0x6d (albumFolder cipher fileId) := by
  have date := length_dateFolder verified
  have mount : ((PathWriter.empty 0x6d).print (mountPoint fileId.storageId)).Exact 0x6d
      (mountPoint fileId.storageId) :=
    (PathWriter.empty_exact 0x6d).print _ (by simp)
  unfold getFolderPath albumFolder
  cases extra : isExtra fileId.type with
  | false =>
      simpa using mount.print (dateFolder fileId.dateTime) (by simp [date])
  | true =>
      have folder := (mount.print (ascii "Extra") (by simp [ascii])).print
        (cypherString (cipher.encryptExtraPath fileId.applicationId)) (by simp [ascii])
      simpa using folder.print (dateFolder fileId.dateTime) (by simp [date, ascii])

theorem getAlbumPath_eq (cipher : PathCipher) (verified : fileId.Verified settings) :
    getAlbumPath cipher 0x6d fileId =
      albumFolder cipher fileId ++
        fileName cipher fileId.dateTime fileId.applicationId fileId.type := by
  rcases getFolderPath_exact cipher verified with ⟨text, written, room⟩
  have folder := length_albumFolder cipher verified
  have name := length_fileName cipher verified
  have left : (0x6d - UInt64.ofNat (getFolderPath cipher 0x6d fileId).written).toNat =
      0x6d - (albumFolder cipher fileId).length := by
    rw [written, folder]
    split <;> rfl
  rw [getAlbumPath, getFileName, text, left, written]
  apply Text.snprintfAt_of_fits rfl
  rw [name, folder]
  split <;> omega

theorem makeAlbumPath_of_verified (cipher : PathCipher) (verified : fileId.Verified settings) :
    makeAlbumPath cipher settings fileId = .ok (getAlbumPath cipher 0x6d fileId) := by
  rw [makeAlbumPath, (fileId.verify_eq_success_iff settings).mpr verified]
  rfl

end

end Capsrv
