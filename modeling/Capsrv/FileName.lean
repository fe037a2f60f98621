import Mathlib.Tactic.Common
import Capsrv.AlbumPath

/-! # File names

`AlbumFileId::FromString` and its parts, which read a file id back from the name
of a file. On a name that `GetFileName` wrote it never succeeds with the id the
name was written for: the writer drops the last digit of the cipher block.
-/

namespace Capsrv

/-- `str[index] - 0x30`. -/
def digitAt (str : Text) (index : Nat) : Int :=
  ((str.charAt index).toNat : Int) - 0x30

/-- A two-digit field, cut to the `u8` it is stored in. -/
def fieldAt (str : Text) (index : Nat) : UInt8 :=
  UInt8.ofInt (digitAt str (index + 1) + digitAt str index * 10)

/-- `DateTimeFromString`. The caller goes on 0x10 characters later. -/
def dateTimeFromString (str : Text) : Except Result AlbumDateTime :=
  let date : AlbumDateTime := {
    year := UInt16.ofInt (digitAt str 3 + digitAt str 2 * 10 + digitAt str 1 * 100 +
      digitAt str 0 * 1000)
    month := fieldAt str 4
    day := fieldAt str 6
    hour := fieldAt str 8
    minute := fieldAt str 10
    second := fieldAt str 12
    id := fieldAt str 14 }
  rUnless (date.year < 10000) (.error albumInvalidFileId.result) <|
  rUnless ((date.month.toNat : Int) - 1 < 12) (.error albumInvalidFileId.result) <|
  rUnless ((date.day.toNat : Int) - 1 < 31) (.error albumInvalidFileId.result) <|
  rUnless (date.hour < 24) (.error albumInvalidFileId.result) <|
  rUnless (date.minute < 60) (.error albumInvalidFileId.result) <|
  rUnless (date.second < 60) (.error albumInvalidFileId.result) <|
  rUnless (date.id < 100) (.error albumInvalidFileId.result) <|
  .ok date

namespace Block

/-- `b[index] = value`. -/
def set (block : Block) (index : Nat) (value : UInt8) : Block := fun position =>
  if position.val = index then value else block position

end Block

/-- The loop of `DecryptFileIdentifier` from byte `index` on, with `remaining`
bytes to go: what the buffer then holds, and the rest of the string. A pair that
is no number ends it early, after the pair has been consumed. -/
def readPairs : (remaining : Nat) → (index : Nat) → Block → Text → Block × Text
  | 0, _, block, str => (block, str)
  | remaining + 1, index, block, str =>
      let parsed := Text.strtoul16 (str.take 2)
      if parsed.2 ≠ 2 then (block, str.drop 2)
      else readPairs remaining (index + 1) (block.set index parsed.1.toUInt8) (str.drop 2)

/-- What `DecryptFileIdentifier` reports: the two fields and the rest of the
string. -/
structure FileIdentifier where
  applicationId : UInt64
  isExtra : Bool
  rest : Text
deriving DecidableEq, Repr

/-- `DecryptFileIdentifier`. The buffer starts out with what the `stack` held. -/
def decryptFileIdentifier (cipher : PathCipher) (stack : Block) (str : Text) :
    Except Result FileIdentifier :=
  let read := readPairs 0x10 0 stack str
  let out := cipher.decrypt read.1
  rUnless (out.2 ≤ 1) (.error albumInvalidApplicationId.result) <|
  .ok ⟨out.1, out.2 == 1, read.2⟩

/-- `GetFileType`: the extension selects screenshot or movie, the flag their
Extra variants. -/
def getFileType (isExtra : Bool) (str : Text) : Except Result ContentType :=
  if getFileExtension .screenshot = some str then
    .ok (if isExtra then .extraScreenshot else .screenshot)
  else if getFileExtension .movie = some str then
    .ok (if isExtra then .extraMovie else .movie)
  else .error albumInvalidFileContents.result

namespace AlbumFileId

/-- `AlbumFileId::FromString`, with the id as it is left behind. A failed call
keeps the fields that were set before it failed. -/
def fromString (cipher : PathCipher) (storage : StorageId) (stack : Block)
    (fileId : AlbumFileId) (str : Text) : Result × AlbumFileId :=
  rUnless (str.length = 0x35 ∨ str.length = 0x36) (⟨0x10⟩, fileId) <|
  match dateTimeFromString str with
  | .error result => (result, fileId)
  | .ok dateTime =>
      let fileId := { fileId with dateTime }
      let str : Text := str.drop 0x10
      rUnless (str.charAt 0 = 0x2d) (albumInvalidFileId.result, fileId) <|
      match decryptFileIdentifier cipher stack (str.drop 1) with
      | .error result => (result, fileId)
      | .ok ⟨applicationId, isExtra, str⟩ =>
          let fileId := { fileId with applicationId }
          rUnless (isExtra = true → str.charAt 0 = 0x58) (albumInvalidFileId.result, fileId) <|
          let str : Text := if isExtra then str.drop 1 else str
          rUnless (str.charAt 0 = 0x2e) (albumInvalidFileId.result, fileId) <|
          match getFileType isExtra str with
          | .error result => (result, fileId)
          | .ok type => (.success, { fileId with type, storageId := storage })

end AlbumFileId

/-! ## Reading hexadecimal pairs -/

theorem strtoul16_hexByte (byte : UInt8) :
    Text.strtoul16 (Text.hexByte byte) = (byte.toUInt64, 2) := by
  have every : ∀ value < 256, Text.strtoul16 (Text.hexByte (UInt8.ofNat value)) =
      ((UInt8.ofNat value).toUInt64, 2) := by decide +kernel
  simpa using every byte.toNat byte.toNat_lt

/-- Complete pairs are consumed one by one. -/
theorem readPairs_hexBytes (bytes : List UInt8) (rest : Text) (remaining index : Nat)
    (block : Block) :
    ∃ filled, readPairs (bytes.length + remaining) index block
        (bytes.flatMap Text.hexByte ++ rest) =
      readPairs remaining (index + bytes.length) filled rest := by
  induction bytes generalizing index block with
  | nil => exact ⟨block, by simp⟩
  | cons byte bytes induction =>
      rcases induction (index + 1) (block.set index byte) with ⟨filled, equal⟩
      refine ⟨filled, ?_⟩
      have pair : ∀ tail : Text, (Text.hexByte byte ++ tail).take 2 = Text.hexByte byte ∧
          (Text.hexByte byte ++ tail).drop 2 = tail := fun tail => ⟨rfl, rfl⟩
      have count : (byte :: bytes).length + remaining = (bytes.length + remaining) + 1 := by
        rw [List.length_cons]
        omega
      rw [count, readPairs, List.flatMap_cons, List.append_assoc, (pair _).1, (pair _).2,
        strtoul16_hexByte]
      simpa [Nat.add_assoc, Nat.add_comm 1] using equal

/-! ## Reading back what was written -/

/-- The decoder pairs the last digit of the writer's cipher text with the `X`
behind it, and goes on after both. -/
theorem readPairs_cypherString (cypher stack : Block) (marker : UInt8) (rest : Text) :
    (readPairs 0x10 0 stack (cypherString cypher ++ marker :: rest)).2 = rest := by
  obtain ⟨filled, equal⟩ := readPairs_hexBytes
    (List.ofFn fun index : Fin 15 => cypher index.castSucc)
    ([Text.upperHexDigit ((cypher 15).toNat / 16)] ++ marker :: rest) 1 0 stack
  rw [List.length_ofFn] at equal
  rw [cypherString_eq, List.append_assoc, equal]
  simp only [readPairs, List.singleton_append]
  split <;> rfl

theorem dateTimeFromString_error {str : Text} {result : Result}
    (failed : dateTimeFromString str = .error result) : result = albumInvalidFileId.result := by
  simp only [dateTimeFromString, rUnless] at failed
  repeat' split at failed
  all_goals first | exact (Except.error.inj failed).symm | cases failed

theorem decryptFileIdentifier_error {cipher : PathCipher} {stack : Block} {str : Text}
    {result : Result} (failed : decryptFileIdentifier cipher stack str = .error result) :
    result = albumInvalidApplicationId.result := by
  simp only [decryptFileIdentifier, rUnless] at failed
  split at failed
  · cases failed
  · exact (Except.error.inj failed).symm

theorem decryptFileIdentifier_rest {cipher : PathCipher} {stack : Block} {str : Text}
    {found : FileIdentifier} (success : decryptFileIdentifier cipher stack str = .ok found) :
    found.rest = (readPairs 0x10 0 stack str).2 := by
  simp only [decryptFileIdentifier, rUnless] at success
  split at success
  · rw [← Except.ok.inj success]
  · cases success

theorem getFileType_ok_or_error (flag : Bool) (str : Text) :
    (∃ type, getFileType flag str = .ok type ∧ isExtra type = flag) ∨
      getFileType flag str = .error albumInvalidFileContents.result := by
  unfold getFileType
  split
  · exact .inl ⟨_, rfl, by cases flag <;> rfl⟩
  · split
    · exact .inl ⟨_, rfl, by cases flag <;> rfl⟩
    · exact .inr rfl

/-- The checks of `FromString`, with what its steps return. -/
structure NameParts (cipher : PathCipher) (stack : Block) (str : Text) (dateTime : AlbumDateTime)
    (applicationId : UInt64) (extra : Bool) (rest : Text) (type : ContentType) : Prop where
  length : str.length = 0x35 ∨ str.length = 0x36
  stamp : dateTimeFromString str = .ok dateTime
  dash : Text.charAt (str.drop 0x10) 0 = 0x2d
  identifier : decryptFileIdentifier cipher stack (str.drop 0x11) = .ok ⟨applicationId, extra, rest⟩
  marked : extra = true → Text.charAt rest 0 = 0x58
  dot : Text.charAt (if extra = true then rest.drop 1 else rest) 0 = 0x2e
  type : getFileType extra (if extra = true then rest.drop 1 else rest) = .ok type

theorem AlbumFileId.fromString_success_iff {cipher : PathCipher} {storage : StorageId}
    {stack : Block} {initial fileId : AlbumFileId} {str : Text} :
    fromString cipher storage stack initial str = (.success, fileId) ↔
      ∃ dateTime applicationId extra rest type,
        NameParts cipher stack str dateTime applicationId extra rest type ∧
        fileId = { initial with dateTime, applicationId, type, storageId := storage } := by
  constructor
  · intro success
    simp only [fromString, rUnless, List.drop_drop] at success
    split at success
    case isFalse => cases success
    case isTrue length =>
    split at success
    case h_1 result failed =>
      cases dateTimeFromString_error failed
      cases success
    case h_2 dateTime stamp =>
    split at success
    case isFalse => cases success
    case isTrue dash =>
    split at success
    case h_1 result failed =>
      cases decryptFileIdentifier_error failed
      cases success
    case h_2 applicationId extra rest decrypted =>
    split at success
    case isFalse => cases success
    case isTrue marked =>
    generalize behind : (if extra = true then rest.drop 1 else rest) = tail at success
    split at success
    case isFalse => cases success
    case isTrue dot =>
    rcases getFileType_ok_or_error extra tail with ⟨type, found, -⟩ | failed
    · rw [found] at success
      cases success
      subst behind
      exact ⟨dateTime, applicationId, extra, rest, type,
        ⟨length, stamp, dash, decrypted, marked, dot, found⟩, rfl⟩
    · rw [failed] at success
      cases success
  · rintro ⟨dateTime, applicationId, extra, rest, type, parts, rfl⟩
    simp only [fromString, rUnless, List.drop_drop, if_pos parts.length, parts.stamp,
      if_pos parts.dash, parts.identifier, if_pos parts.marked, if_pos parts.dot, parts.type]

/-- What a successful `FromString` has found in a name: its length, and the
marker of an Extra type behind the cipher block. -/
theorem AlbumFileId.fromString_success {cipher : PathCipher} {storage : StorageId}
    {stack : Block} {initial fileId : AlbumFileId} {str : Text}
    (success : fromString cipher storage stack initial str = (.success, fileId)) :
    (str.length = 0x35 ∨ str.length = 0x36) ∧
      (isExtra fileId.type = true →
        Text.charAt (readPairs 0x10 0 stack (str.drop 0x11)).2 0 = 0x58) := by
  rcases AlbumFileId.fromString_success_iff.mp success with
    ⟨dateTime, applicationId, extra, rest, type, parts, rfl⟩
  refine ⟨parts.length, fun isExtra => ?_⟩
  rw [← decryptFileIdentifier_rest parts.identifier]
  rcases getFileType_ok_or_error extra (if extra = true then rest.drop 1 else rest) with
    ⟨found, read, same⟩ | failed
  · rw [parts.type] at read
    cases read
    exact parts.marked (same ▸ isExtra)
  · rw [parts.type] at failed
    cases failed

/-- What follows the dash in an Extra name. -/
theorem drop_fileName {fileId : AlbumFileId} {settings : AlbumSettings} (cipher : PathCipher)
    (verified : fileId.Verified settings) (extra : isExtra fileId.type = true) :
    (fileName cipher fileId.dateTime fileId.applicationId fileId.type).drop 0x11 =
      cypherString (cipher.encryptFileExtension fileId.applicationId (isExtra fileId.type)) ++
        0x58 :: (getFileExtension fileId.type).getD [] := by
  have front : (timeStamp fileId.dateTime ++ ascii "-").length = 0x11 := by
    rw [List.length_append, length_timeStamp verified]
    rfl
  have marker : (if isExtra fileId.type = true then ascii "X" else []) = [0x58] := by
    rw [extra]
    rfl
  rw [fileName, marker, List.append_assoc, List.append_assoc (_ ++ _), List.drop_left' front,
    List.singleton_append]

/-- An extension starts with a dot. -/
theorem charAt_getFileExtension_ne {type : ContentType} (valid : contentTypeValid type = true) :
    Text.charAt ((getFileExtension type).getD []) 0 ≠ 0x58 := by
  rcases contentTypeValid_cases valid with rfl | rfl | rfl | rfl
  all_goals decide

/-- No name that `GetFileName` writes is read back as the id it was written
for, whatever the buffer size and whatever the decoder's stack held: a normal
name is one digit too short for `FromString`, and in an Extra name the marker
is consumed as the missing digit. -/
theorem fromString_getFileName_ne (cipher : PathCipher) (settings : AlbumSettings)
    (max : UInt64) (stack : Block) (fileId : AlbumFileId)
    (accepted : fileId.verify settings = .success) :
    AlbumFileId.fromString cipher fileId.storageId stack .zero
        (getFileName cipher [] 0 max fileId.dateTime fileId.applicationId fileId.type) ≠
      (.success, fileId) := by
  intro success
  have verified := (fileId.verify_eq_success_iff settings).mp accepted
  have valid := AlbumSettings.contentTypeValid_of_isTypeSupported verified.type
  have full := length_fileName cipher verified
  have written := Text.snprintfAt_nil_isPrefix max.toNat
    (fileName cipher fileId.dateTime fileId.applicationId fileId.type)
  rcases AlbumFileId.fromString_success success with ⟨length, marked⟩
  have shorter := written.length_le
  cases extra : isExtra fileId.type with
  | false =>
      rw [extra] at full
      rw [getFileName] at length
      simp only [Bool.false_eq_true, if_false] at full
      omega
  | true =>
      rw [extra] at full
      rw [getFileName] at length
      simp only [if_true] at full
      have complete := written.eq_of_length (by omega)
      have parsed := marked extra
      rw [getFileName, complete, drop_fileName cipher verified extra,
        readPairs_cypherString] at parsed
      exact charAt_getFileExtension_ne valid parsed

/-- An Extra screenshot on the SD card, under a cipher that changes nothing. -/
theorem fromString_getFileName_ne_extra :
    ¬ (∀ (cipher : PathCipher) (settings : AlbumSettings) (stack : Block)
        (fileId : AlbumFileId), fileId.verify settings = .success → fileId.pad = .replicate 6 0 →
      AlbumFileId.fromString cipher fileId.storageId stack .zero
          (getFileName cipher [] 0 0x6d fileId.dateTime fileId.applicationId fileId.type) =
        (.success, fileId)) := by
  intro always
  have wrong := always (Equiv.refl Block) ⟨true, true, true, true, 1000, 1000, 8000, 8000, none⟩
    (fun _ => 0) ⟨0x0100152000022000, ⟨2021, 5, 17, 20, 31, 4, 0⟩, .sd, .extraScreenshot,
      .replicate 6 0⟩ (by decide) (by decide)
  revert wrong
  decide

theorem fromString_getFileName_ne_normal :
    (AlbumFileId.mk 0x0100152000022000 ⟨2021, 5, 17, 20, 31, 4, 0⟩ .nand .movie
        (.replicate 6 0)).verify ⟨true, true, true, true, 1000, 1000, 8000, 8000, none⟩ =
          .success ∧
      AlbumFileId.fromString (Equiv.refl Block) .nand (fun _ => 0) .zero
          (getFileName (Equiv.refl Block) [] 0 0x6d ⟨2021, 5, 17, 20, 31, 4, 0⟩
            0x0100152000022000 .movie) ≠
        (.success, ⟨0x0100152000022000, ⟨2021, 5, 17, 20, 31, 4, 0⟩, .nand, .movie,
          .replicate 6 0⟩) :=
  ⟨by decide, fromString_getFileName_ne (Equiv.refl Block)
    ⟨true, true, true, true, 1000, 1000, 8000, 8000, none⟩ 0x6d (fun _ => 0)
    ⟨0x0100152000022000, ⟨2021, 5, 17, 20, 31, 4, 0⟩, .nand, .movie, .replicate 6 0⟩
    (by decide)⟩

end Capsrv
