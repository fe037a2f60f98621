import Capsrv.AlbumPath
import Capsrv.ScreenshotMac
import Capsrv.Image.ExifValues

/-! # Verifying a screenshot

`VerifyMakerNote` and its parts. The source asks for a non-zero status of
`Analyse`, and zero is its success: a file passes only if both analyses fail,
and then only with a maker note that was found before they failed.
-/

namespace Capsrv.Image

open Capsrv

/-- The primitives of the verification. -/
structure VerifyCrypto where
  signature : SignatureCrypto
  pathDecrypt : Block → Block

/-! ## The source -/

/-- `ExtractMakerNote`: the offset and the size of the maker note in the file. -/
def extractMakerNote (outside : UInt8) (jpeg : Nat) (jpegSize : UInt64) :
    ByteReader (Except Result (UInt64 × UInt64)) :=
  rUnless (jpeg ≠ 0 ∧ jpegSize ≠ 0)
    (return .error internalSignatureMakerNoteExtractionFailed.result) <|
  let tiffSize := jpegSize - 0xc
  let tiff := jpeg + 0xc
  rUnless (tiff ≠ 0) (return .error internalSignatureExifExtractionFailed.result) <| do
  let analysed ← analyse outside tiff tiffSize
  rUnless (analysed.1.toInt ≠ 0)
    (return .error internalSignatureMakerNoteExtractionFailed.result) <| do
  match ← analysed.2.extractMakerNote with
  | none => return .error internalSignatureMakerNoteExtractionFailed.result
  | some (makerNote, makerNoteSize) =>
      let makerNoteOffset := UInt64.ofNat (makerNote - jpeg)
      rUnless (makerNoteOffset + makerNoteSize.toUInt64 ≤ jpegSize)
        (return .error albumInvalidFileData.result) <|
      return .ok (makerNoteOffset, makerNoteSize.toUInt64)

/-- The last step of `VerifyMAC`. -/
def compareMac (crypto : SignatureCrypto) (jpeg : Nat) (jpegSize makerNoteOffset : UInt64) :
    ByteReader Result := do
  match ← generateScreenshotMac crypto jpeg jpegSize (makerNoteOffset + 8) with
  | .error result => return result
  | .ok mac =>
      let found ← ByteReader.bytes (jpeg + makerNoteOffset.toNat + 8) 0x10
      return if found = List.ofFn mac then .success
        else internalFileDataVerificationInconsistentSignature.result

/-- `VerifyMAC`. -/
def verifyMAC (crypto : SignatureCrypto) (jpeg : Nat)
    (jpegSize makerNoteOffset makerNoteSize : UInt64) : ByteReader Result :=
  rUnless (makerNoteOffset ≠ 0) (return internalError.result) <|
  rUnless (makerNoteSize ≠ 0) (return internalError.result) <|
  rUnless (jpegSize ≠ 0) (return internalError.result) <|
  rUnless (makerNoteOffset ≤ jpegSize) (return albumInvalidFileData.result) <|
  rUnless (makerNoteSize ≤ jpegSize - makerNoteOffset) (return albumInvalidFileData.result) <|
  rUnless (makerNoteOffset ≤ 0x11000 - makerNoteSize) (return albumInvalidFileData.result) <|
  rUnless (makerNoteSize ≤ 0x1000) (return albumInvalidFileData.result) <|
  rUnless (0x10 ≤ makerNoteSize) (return albumInvalidFileData.result) <|
  rUnless (makerNoteOffset + 0x18 ≤ jpegSize) (return albumInvalidFileData.result) <|
  compareMac crypto jpeg jpegSize makerNoteOffset

/-- The first block of `VerifyMakerNote`. -/
def verifySignature (outside : UInt8) (crypto : SignatureCrypto) (jpeg : Nat)
    (jpegSize : UInt64) : ByteReader Result := do
  match ← extractMakerNote outside jpeg jpegSize with
  | .error result => return result
  | .ok (makerNoteOffset, makerNoteSize) =>
      verifyMAC crypto jpeg jpegSize makerNoteOffset makerNoteSize

/-- `std::strncmp(text, src, count) == 0`. -/
def strncmpEqual (text : Text) (src : Nat) : (count : Nat) → ByteReader Bool
  | 0 => return true
  | count + 1 => do
      let character ← ByteReader.byte src
      if character ≠ text.charAt 0 then return false
      else if character = 0 then return true
      else strncmpEqual (text.drop 1) (src + 1) count

/-- The conversion `%04d:%02d:%02d %02d:%02d:%02d` into a `char[0x20]`. -/
def exifDateTime (dateTime : AlbumDateTime) : Text :=
  Text.snprintf 0x20 <|
    Text.decimal 4 dateTime.year.toNat ++ ascii ":" ++ Text.decimal 2 dateTime.month.toNat ++
      ascii ":" ++ Text.decimal 2 dateTime.day.toNat ++ ascii " " ++
      Text.decimal 2 dateTime.hour.toNat ++ ascii ":" ++ Text.decimal 2 dateTime.minute.toNat ++
      ascii ":" ++ Text.decimal 2 dateTime.second.toNat

/-- The two words decrypted from the maker note at `makerNote`. -/
def decryptMakerNote (pathDecrypt : Block → Block) (makerNote : Nat) :
    ByteReader (UInt64 × UInt64) := do
  let bytes ← ByteReader.bytes (makerNote + 0x14) 0x10
  let out := pathDecrypt (Block.ofBytes bytes)
  return (out.low, out.high)

/-- `memcpy(out_makernote, makerNote, 0xc78)` over the cleared buffer. -/
def copyMakerNote (makerNote : Nat) : ByteReader (List UInt8) := do
  let bytes ← ByteReader.bytes makerNote 0xc78
  return bytes ++ .replicate 0x18 0

/-- The rest of `VerifyMakerNote` from the Exif region on, with what is left in
`out_makernote`. -/
def verifyContents (outside : UInt8) (pathDecrypt : Block → Block) (fileId : AlbumFileId)
    (verify : Bool) (exifRegion : Nat) (exifSize : UInt32) :
    ByteReader (Result × List UInt8) := do
  let cleared : List UInt8 := .replicate 0xc90 0
  let analysed ← analyse outside exifRegion exifSize.toUInt64
  let exifBinary := analysed.2
  rUnless (analysed.1.toInt ≠ 0)
    (return (internalFileDataVerificationExifAnalyzationFailed.result, cleared)) <| do
  let dateString ← exifBinary.extractDateTime
  rUnless ((∃ date ∈ dateString, date.2 ≠ 0) ∨ verify = false)
    (return (internalFileDataVerificationDateTimeExtractionFailed.result, cleared)) <| do
  let orientation ← exifBinary.extractOrientation
  let makerNote ← exifBinary.extractMakerNote
  rUnless ((∃ note ∈ makerNote, note.2 ≠ 0) ∨ verify = false)
    (return (internalFileDataVerificationMakerNoteExtractionFailed.result, cleared)) <|
  let makerNote := (makerNote.map Prod.fst).getD 0
  if verify = false then do
    let out ← copyMakerNote makerNote
    return (.success, out)
  else
    let date := dateString.getD (0, 0)
    rUnless (date.2 = 0x14)
      (return (internalFileDataVerificationInvalidDateTimeLength.result, cleared)) <| do
    let sameDate ← strncmpEqual (exifDateTime fileId.dateTime) date.1 0x14
    rUnless (sameDate = true)
      (return (internalFileDataVerificationInconsistentDateTime.result, cleared)) <|
    rUnless (orientation.getD 1 < 9)
      (return (internalFileDataVerificationInconsistentOrientation.result, cleared)) <| do
    let out ← decryptMakerNote pathDecrypt makerNote
    rUnless (out.2 = 1 → isExtra fileId.type = true)
      (return (albumInvalidApplicationId.result, cleared)) <|
    rUnless (out.1 = fileId.applicationId)
      (return (internalFileDataVerificationInconsistentApplicationId.result, cleared)) <| do
    let out ← copyMakerNote makerNote
    return (.success, out)

/-- `VerifyMakerNote`: the result, and what is in `out_makernote` if it has been
written to. -/
def verifyMakerNote (outside : UInt8) (crypto : VerifyCrypto) (fileId : AlbumFileId) (jpeg : Nat)
    (jpegSize : UInt64) (settings : AlbumSettings) (verifyMac : Bool) :
    ByteReader (Result × Option (List UInt8)) :=
  let verify := settings.getVerifyScreenshotFiledata
  rUnless (settings.isTypeSupported fileId.type)
    (return (albumInvalidFileContents.result, none)) <|
  rUnless (jpegSize ≠ 0)
    (return (internalFileDataVerificationEmptyFileData.result, none)) <| do
  let signature ←
    if verifyMac && verify then verifySignature outside crypto.signature jpeg jpegSize
    else pure Result.success
  rTry signature (fun result => return (result, none)) <| do
  let cleared : List UInt8 := .replicate 0xc90 0
  let extracted ← extractExifRegion jpeg jpegSize.toUInt32
  rUnless (extracted.1 = 0)
    (return (internalFileDataVerificationExifExtractionFailed.result, some cleared)) <|
  let region := extracted.2.getD (0, 0)
  rUnless (region.1 ≠ 0)
    (return (internalFileDataVerificationExifExtractionFailed.result, some cleared)) <|
  rUnless (region.2 ≠ 0)
    (return (internalFileDataVerificationExifExtractionFailed.result, some cleared)) <| do
  let verified ← verifyContents outside crypto.pathDecrypt fileId verify region.1 region.2
  return (verified.1, some verified.2)

/-! ## Failed analyses -/

/-- The directories in front of the thumbnail are in order, and the thumbnail
directory they lead to is not. -/
structure BrokenThumbnail (outside : UInt8) (memory : Memory) (data : Nat) (size : UInt64)
    (exifBinary : ExifBinary) : Prop where
  directories : ∃ first, IsMain outside memory (.init data size.toUInt32) first ∧
    IsExif outside memory first exifBinary
  thumbnail : ∀ third, ¬ IsThumbnail outside memory exifBinary third

theorem JpegStatus.toInt_ne_zero_iff (status : JpegStatus) :
    status.toInt ≠ 0 ↔ status = .invalidFormat := by
  cases status <;> simp [JpegStatus.toInt]

section

variable {outside : UInt8} {memory : Memory}

/-- A failed analysis that has found a maker note has failed at the thumbnail. -/
theorem run_analyse_invalidFormat_iff {data : Nat} {size : UInt64} {exifBinary : ExifBinary}
    (note : exifBinary.makerNoteTag.size ≠ 0) :
    (analyse outside data size).run memory = (.invalidFormat, exifBinary) ↔
      BrokenThumbnail outside memory data size exifBinary := by
  rw [run_analyse_iff]
  constructor
  · intro ends
    cases ends with
    | noMain failed => exact absurd rfl note
    | noExif isMain failed =>
        cases isMain
        exact absurd rfl note
    | noThumbnail isMain isExif failed => exact ⟨⟨_, isMain, isExif⟩, failed⟩
  · rintro ⟨⟨first, isMain, isExif⟩, failed⟩
    exact .noThumbnail isMain isExif failed

theorem BrokenThumbnail.same {data : Nat} {size : UInt64} {exifBinary : ExifBinary}
    (broken : BrokenThumbnail outside memory data size exifBinary) :
    exifBinary.data = data ∧ exifBinary.size = size.toUInt32 := by
  rcases broken.directories with ⟨first, isMain, isExif⟩
  exact ⟨isExif.same.1.trans isMain.same.1, isExif.same.2.trans isMain.same.2⟩

/-! ## Dates -/

/-- A terminated string compares equal to the text it holds. -/
theorem run_strncmpEqual_iff {text : Text} {src length : Nat}
    (noNul : ∀ character ∈ text, character ≠ 0)
    (terminated : (scanText src length).run memory = true) :
    (strncmpEqual text src (length + 1)).run memory = true ↔
      (List.range' src length).map memory = text := by
  induction length generalizing text src with
  | zero =>
      have last := (run_scanText_iff.mp terminated).2
      rw [Nat.add_zero] at last
      cases text with
      | nil => simp [strncmpEqual, last, Text.charAt]
      | cons head tail =>
          have nonzero := noNul head List.mem_cons_self
          simp [strncmpEqual, last, Text.charAt, nonzero.symm]
  | succ length induction =>
      rcases run_scanText_iff.mp terminated with ⟨notEnded, last⟩
      have first : memory src ≠ 0 := notEnded 0 (by omega)
      have rest : (scanText (src + 1) length).run memory = true := by
        rw [scanText, ByteReader.run_bind, ByteReader.run_byte, if_neg first] at terminated
        exact terminated
      rw [strncmpEqual, ByteReader.run_bind, ByteReader.run_byte, ByteReader.run_ite,
        ByteReader.run_ite, if_neg first, List.range'_succ, List.map_cons]
      cases text with
      | nil => simp [Text.charAt, first]
      | cons head tail =>
          have equal := induction (fun character member =>
            noNul character (List.mem_cons_of_mem _ member)) rest
          have headAt : Text.charAt (head :: tail) 0 = head := rfl
          rw [headAt]
          by_cases same : memory src = head
          · rw [if_neg (not_not.mpr same), List.drop_one, List.tail_cons, equal, same]
            simp
          · rw [if_pos same]
            simp [same]

theorem ne_zero_of_mem_exifDateTime {dateTime : AlbumDateTime} {character : UInt8}
    (member : character ∈ exifDateTime dateTime) : character ≠ 0 := by
  have written := List.mem_of_mem_take member
  simp only [List.mem_append] at written
  rcases written with ((((((((((digit | colon) | digit) | colon) | digit) | space) | digit) |
    colon) | digit) | colon) | digit)
  all_goals first
    | exact Text.ne_zero_of_mem_decimal digit
    | (rw [List.mem_singleton.mp colon]; decide)
    | (rw [List.mem_singleton.mp space]; decide)

/-! ## Success -/

theorem run_rUnless_iff {condition : Prop} [Decidable condition] {early : Result × α}
    {rest : ByteReader (Result × α)} (failure : early.1 ≠ .success) :
    ((rUnless condition (pure early) rest).run memory).1 = .success ↔
      condition ∧ (rest.run memory).1 = .success := by
  by_cases holds : condition <;> simp [rUnless, holds, failure]

theorem run_rTry_iff {result : Result} {value : α} {rest : ByteReader (Result × α)} :
    ((rTry result (fun result => pure (result, value)) rest).run memory).1 = .success ↔
      result = .success ∧ (rest.run memory).1 = .success := by
  by_cases succeeded : result = .success <;> simp [rTry, succeeded]

/-- The contents of an Exif block are those of the file id. -/
structure Consistent (pathDecrypt : Block → Block) (fileId : AlbumFileId) (memory : Memory)
    (exifBinary : ExifBinary) : Prop where
  dateLength : exifBinary.dateTimeTag.size = 0x14
  date : (List.range' (exifBinary.data + exifBinary.dateTimeTag.offset.toNat) 0x14).map memory =
    exifDateTime fileId.dateTime ++ [0]
  note : exifBinary.makerNoteTag.size ≠ 0
  flag : ((decryptMakerNote pathDecrypt
    (exifBinary.data + exifBinary.makerNoteTag.offset.toNat)).run memory).2 = 1 →
      isExtra fileId.type = true
  application : ((decryptMakerNote pathDecrypt
    (exifBinary.data + exifBinary.makerNoteTag.offset.toNat)).run memory).1 = fileId.applicationId

theorem run_extractDateTime (exifBinary : ExifBinary) :
    exifBinary.extractDateTime.run memory =
      if exifBinary.dateTimeTag.size = 0x14 ∧
          (scanText (exifBinary.data + exifBinary.dateTimeTag.offset.toNat) 0x13).run memory = true
      then some (exifBinary.data + exifBinary.dateTimeTag.offset.toNat, 0x14) else none := by
  rw [ExifBinary.extractDateTime, extractFixedString]
  by_cases length : exifBinary.dateTimeTag.size = 0x14
  · rw [if_neg (not_not.mpr length), ByteReader.run_bind, ByteReader.run_pure]
    simp only [length, true_and]
    rfl
  · rw [if_pos length, if_neg fun both => length both.1]
    rfl

theorem run_extractOrientation_lt (exifBinary : ExifBinary) :
    (exifBinary.extractOrientation.run memory).getD 1 < 9 := by
  simp only [ExifBinary.extractOrientation, ByteReader.run_ite, ByteReader.run_pure,
    ByteReader.run_bind, BinaryIo.run_getU16]
  split
  · decide
  · split
    · decide
    · rename_i below
      exact UInt16.not_le.mp below

/-- A terminated string that compares equal is the formatted date. -/
theorem date_iff {dateTime : AlbumDateTime} {src : Nat} :
    (scanText src 0x13).run memory = true ∧
        (strncmpEqual (exifDateTime dateTime) src 0x14).run memory = true ↔
      (List.range' src 0x14).map memory = exifDateTime dateTime ++ [0] := by
  have noNul : ∀ character ∈ exifDateTime dateTime, character ≠ 0 :=
    fun character member => ne_zero_of_mem_exifDateTime member
  have split : (List.range' src 0x14).map memory =
      (List.range' src 0x13).map memory ++ [memory (src + 0x13)] := by
    rw [List.range'_concat, List.map_append]
    rfl
  rw [split]
  constructor
  · rintro ⟨terminated, equal⟩
    rw [(run_strncmpEqual_iff noNul terminated).mp equal, (run_scanText_iff.mp terminated).2]
  · intro equal
    rcases List.append_inj' equal rfl with ⟨text, last⟩
    have terminated : (scanText src 0x13).run memory = true := by
      refine run_scanText_iff.mpr ⟨fun index below => ?_, List.head_eq_of_cons_eq last⟩
      refine noNul _ (text ▸ List.mem_map_of_mem ?_)
      exact List.mem_range'_1.mpr ⟨Nat.le_add_right _ _, by omega⟩
    exact ⟨terminated, (run_strncmpEqual_iff noNul terminated).mpr text⟩

theorem run_extractMakerNote (exifBinary : ExifBinary) :
    exifBinary.extractMakerNote.run memory =
      if exifBinary.makerNoteTag.size = 0 then none
      else some (exifBinary.data + exifBinary.makerNoteTag.offset.toNat,
        exifBinary.makerNoteTag.size) := rfl

/-- The steps behind the analysis succeed on exactly the consistent contents. -/
theorem run_verifyContents_iff {pathDecrypt : Block → Block} {fileId : AlbumFileId}
    {exifRegion : Nat} {exifSize : UInt32} {status : JpegStatus} {exifBinary : ExifBinary}
    (analysed : (analyse outside exifRegion exifSize.toUInt64).run memory = (status, exifBinary)) :
    ((verifyContents outside pathDecrypt fileId true exifRegion exifSize).run memory).1 =
        .success ↔
      status = .invalidFormat ∧ Consistent pathDecrypt fileId memory exifBinary := by
  rw [verifyContents]
  simp (disch := decide) only [ByteReader.run_bind, analysed, run_rUnless_iff,
    JpegStatus.toInt_ne_zero_iff, run_extractDateTime, run_extractMakerNote]
  refine and_congr_right fun _ => ?_
  by_cases dated : exifBinary.dateTimeTag.size = 0x14 ∧
      (scanText (exifBinary.data + exifBinary.dateTimeTag.offset.toNat) 0x13).run memory = true
  · by_cases noted : exifBinary.makerNoteTag.size = 0
    · refine iff_of_false ?_ fun consistent => consistent.note noted
      simp (disch := decide) only [noted, if_true, run_rUnless_iff, Option.not_mem_none,
        false_and, exists_false, Bool.true_eq_false, or_self, and_false, not_false_eq_true]
    · simp only [dated, and_self, if_true, noted, if_false, Option.mem_some_iff, exists_eq_left',
        Option.getD_some, Option.map_some, Bool.true_eq_false]
      simp (disch := decide) only [ByteReader.run_bind, run_rUnless_iff, ByteReader.run_pure]
      constructor
      · rintro ⟨-, -, equal, -, flag, application, -⟩
        exact ⟨dated.1, date_iff.mp ⟨dated.2, equal⟩, noted, flag, application⟩
      · intro consistent
        exact ⟨.inl (by decide), .inl noted, (date_iff.mpr consistent.date).2,
          run_extractOrientation_lt exifBinary, consistent.flag, consistent.application, trivial⟩
  · simp only [dated, if_false, Option.not_mem_none, false_and, exists_false, Bool.true_eq_false,
      or_self, false_iff]
    intro consistent
    exact dated ⟨consistent.dateLength, (date_iff.mpr consistent.date).1⟩

theorem verifyContents_success_iff {pathDecrypt : Block → Block} {fileId : AlbumFileId}
    {exifRegion : Nat} {exifSize : UInt32} :
    ((verifyContents outside pathDecrypt fileId true exifRegion exifSize).run memory).1 =
        .success ↔
      ∃ exifBinary, BrokenThumbnail outside memory exifRegion exifSize.toUInt64 exifBinary ∧
        Consistent pathDecrypt fileId memory exifBinary := by
  constructor
  · intro success
    obtain ⟨failed, consistent⟩ := (run_verifyContents_iff (by rfl)).mp success
    refine ⟨_, (run_analyse_invalidFormat_iff consistent.note).mp ?_, consistent⟩
    exact Prod.ext failed rfl
  · rintro ⟨exifBinary, broken, consistent⟩
    have analysed := (run_analyse_invalidFormat_iff consistent.note).mpr broken
    exact (run_verifyContents_iff analysed).mpr ⟨rfl, consistent⟩

/-! ## The signature -/

/-- The maker note `ExtractMakerNote` finds, at `offset` of the file. -/
def IsSignedNote (outside : UInt8) (memory : Memory) (jpeg : Nat)
    (jpegSize offset size : UInt64) : Prop :=
  jpeg ≠ 0 ∧ jpegSize ≠ 0 ∧ ∃ exifBinary,
    BrokenThumbnail outside memory (jpeg + 0xc) (jpegSize - 0xc) exifBinary ∧
      exifBinary.makerNoteTag.size ≠ 0 ∧
      offset = UInt64.ofNat (0xc + exifBinary.makerNoteTag.offset.toNat) ∧
      size = exifBinary.makerNoteTag.size.toUInt64 ∧ offset + size ≤ jpegSize

/-- What `VerifyMAC` asks of a maker note. -/
structure SignatureMatches (crypto : SignatureCrypto) (memory : Memory) (jpeg : Nat)
    (jpegSize offset size : UInt64) : Prop where
  nonzero : offset ≠ 0
  least : 0x10 ≤ size
  most : size ≤ 0x1000
  inside : offset.toNat + size.toNat ≤ jpegSize.toNat
  limit : offset.toNat + size.toNat ≤ 0x11000
  field : offset.toNat + 0x18 ≤ jpegSize.toNat
  signature : ∃ mac, (generateScreenshotMac crypto jpeg jpegSize (offset + 8)).run memory =
      .ok mac ∧
    (List.range' (jpeg + offset.toNat + 8) 0x10).map memory = List.ofFn mac

theorem run_extractMakerNote_ok_iff {jpeg : Nat} {jpegSize offset size : UInt64} :
    (extractMakerNote outside jpeg jpegSize).run memory = .ok (offset, size) ↔
      IsSignedNote outside memory jpeg jpegSize offset size := by
  rw [extractMakerNote, IsSignedNote]
  by_cases file : jpeg ≠ 0 ∧ jpegSize ≠ 0
  · have tiff : jpeg + 0xc ≠ 0 := by omega
    simp only [rUnless, file, tiff, and_self, if_true, true_and, ne_eq, not_false_eq_true,
      ByteReader.run_bind, ByteReader.run_ite, run_extractMakerNote]
    cases analysed : (analyse outside (jpeg + 0xc) (jpegSize - 0xc)).run memory with
    | mk status exifBinary =>
      cases status with
      | ok =>
          apply iff_of_false (by simp [JpegStatus.toInt])
          rintro ⟨other, broken, note, -⟩
          cases analysed.symm.trans ((run_analyse_invalidFormat_iff note).mpr broken)
      | invalidFormat =>
          have failed : ¬ JpegStatus.invalidFormat.toInt = 0 := by decide
          by_cases noted : exifBinary.makerNoteTag.size = 0
          · simp only [failed, noted, not_false_eq_true, if_true, ByteReader.run_pure]
            refine iff_of_false (fun result => by cases result) ?_
            rintro ⟨other, broken, note, -⟩
            cases analysed.symm.trans ((run_analyse_invalidFormat_iff note).mpr broken)
            exact note noted
          · have broken := (run_analyse_invalidFormat_iff noted).mp analysed
            have position : exifBinary.data + exifBinary.makerNoteTag.offset.toNat - jpeg =
                0xc + exifBinary.makerNoteTag.offset.toNat := by
              rw [broken.same.1]
              omega
            simp only [failed, noted, not_false_eq_true, if_true, if_false, position,
              ByteReader.run_ite, ByteReader.run_pure]
            constructor
            · intro found
              split at found
              · rename_i fits
                cases found
                exact ⟨exifBinary, broken, noted, rfl, rfl, fits⟩
              · cases found
            · rintro ⟨other, isBroken, note, rfl, rfl, fits⟩
              cases analysed.symm.trans ((run_analyse_invalidFormat_iff note).mpr isBroken)
              rw [if_pos fits]
  · rw [rUnless, if_neg file, ByteReader.run_pure]
    refine iff_of_false (fun result => by cases result) ?_
    rintro ⟨nonzero, nonempty, -⟩
    exact file ⟨nonzero, nonempty⟩

/-- No error of `ExtractMakerNote` is success. -/
theorem run_extractMakerNote_error {jpeg : Nat} {jpegSize : UInt64} {result : Result}
    (failed : (extractMakerNote outside jpeg jpegSize).run memory = .error result) :
    result ≠ .success := by
  simp only [extractMakerNote, rUnless, ByteReader.run_ite, ByteReader.run_bind,
    ByteReader.run_pure, run_extractMakerNote] at failed
  split at failed
  · split at failed
    · split at failed
      · split at failed
        · cases failed
          decide
        · rw [ByteReader.run_ite] at failed
          split at failed
          · cases failed
          · cases failed
            decide
      · cases failed
        decide
    · cases failed
      decide
  · cases failed
    decide

theorem run_rUnless_result_iff {condition : Prop} [Decidable condition] {early : Result}
    {rest : ByteReader Result} (failure : early ≠ .success) :
    (rUnless condition (pure early) rest).run memory = .success ↔
      condition ∧ rest.run memory = .success := by
  by_cases holds : condition <;> simp [rUnless, holds, failure]

theorem run_generateScreenshotMac (crypto : SignatureCrypto) (input : Nat)
    (size makerNoteOffset : UInt64) :
    (generateScreenshotMac crypto input size makerNoteOffset).run memory =
      generateMac crypto.spl
        (crypto.sha256 ((screenshotMacMessage input size makerNoteOffset).run memory))
        crypto.screenshotKek screenshotKeySource := by
  rw [generateScreenshotMac, ByteReader.run_bind, ByteReader.run_pure]

theorem run_compareMac_iff {crypto : SignatureCrypto} {jpeg : Nat} {jpegSize offset : UInt64} :
    (compareMac crypto jpeg jpegSize offset).run memory = .success ↔
      ∃ mac, (generateScreenshotMac crypto jpeg jpegSize (offset + 8)).run memory = .ok mac ∧
        (List.range' (jpeg + offset.toNat + 8) 0x10).map memory = List.ofFn mac := by
  rw [compareMac, ByteReader.run_bind]
  cases computed : (generateScreenshotMac crypto jpeg jpegSize (offset + 8)).run memory with
  | error result =>
      rw [run_generateScreenshotMac] at computed
      apply iff_of_false (generateMac_error computed)
      rintro ⟨mac, other, -⟩
      cases other
  | ok mac =>
      simp only [ByteReader.run_bind, ByteReader.run_bytes, ByteReader.run_pure,
        Except.ok.injEq, exists_eq_left']
      split
      · rename_i same
        exact iff_of_true rfl same
      · rename_i different
        exact iff_of_false (by decide) different

/-- The bounds of `VerifyMAC` are exact: none of its sums wraps around. -/
theorem run_verifyMAC_iff {crypto : SignatureCrypto} {jpeg : Nat}
    {jpegSize offset size : UInt64} :
    (verifyMAC crypto jpeg jpegSize offset size).run memory = .success ↔
      SignatureMatches crypto memory jpeg jpegSize offset size := by
  rw [verifyMAC]
  simp (disch := decide) only [run_rUnless_result_iff, run_compareMac_iff]
  constructor
  · rintro ⟨nonzero, -, -, start, inside, limit, most, least, field, signature⟩
    rw [UInt64.le_iff_toNat_le] at start inside limit field
    have sizeBound : size.toNat ≤ 0x1000 := UInt64.le_iff_toNat_le.mp most
    rw [UInt64.toNat_sub_of_le _ _ (UInt64.le_iff_toNat_le.mpr start)] at inside
    rw [UInt64.toNat_sub_of_le _ _ (UInt64.le_iff_toNat_le.mpr (Nat.le_trans sizeBound
      (by decide)))] at limit
    have limitValue : (0x11000 : UInt64).toNat = 0x11000 := rfl
    rw [UInt64.toNat_add, Nat.mod_eq_of_lt (by
      have : (0x18 : UInt64).toNat = 0x18 := rfl
      omega)] at field
    exact ⟨nonzero, least, most, by omega, by omega, field, signature⟩
  · rintro ⟨nonzero, least, most, inside, limit, field, signature⟩
    have sizeBound : size.toNat ≤ 0x1000 := UInt64.le_iff_toNat_le.mp most
    have sizeLeast : 0x10 ≤ size.toNat := UInt64.le_iff_toNat_le.mp least
    have start : offset ≤ jpegSize := UInt64.le_iff_toNat_le.mpr (by omega)
    refine ⟨nonzero, ?_, ?_, start, ?_, ?_, most, least, ?_, signature⟩
    · rintro rfl
      exact absurd sizeLeast (by decide)
    · rintro rfl
      exact absurd field (by simp)
    · rw [UInt64.le_iff_toNat_le, UInt64.toNat_sub_of_le _ _ start]
      omega
    · rw [UInt64.le_iff_toNat_le, UInt64.toNat_sub_of_le _ _ (UInt64.le_iff_toNat_le.mpr
        (Nat.le_trans sizeBound (by decide)))]
      have limitValue : (0x11000 : UInt64).toNat = 0x11000 := rfl
      omega
    · rw [UInt64.le_iff_toNat_le, UInt64.toNat_add]
      exact Nat.le_trans (Nat.mod_le _ _) field

theorem verifySignature_success_iff {crypto : SignatureCrypto} {jpeg : Nat} {jpegSize : UInt64} :
    (verifySignature outside crypto jpeg jpegSize).run memory = .success ↔
      ∃ offset size, IsSignedNote outside memory jpeg jpegSize offset size ∧
        SignatureMatches crypto memory jpeg jpegSize offset size := by
  rw [verifySignature, ByteReader.run_bind]
  cases extracted : (extractMakerNote outside jpeg jpegSize).run memory with
  | error result =>
      apply iff_of_false (run_extractMakerNote_error extracted)
      rintro ⟨offset, size, isNote, -⟩
      cases extracted.symm.trans (run_extractMakerNote_ok_iff.mpr isNote)
  | ok note =>
      rcases note with ⟨offset, size⟩
      constructor
      · intro verified
        exact ⟨offset, size, run_extractMakerNote_ok_iff.mp extracted,
          run_verifyMAC_iff.mp verified⟩
      · rintro ⟨otherOffset, otherSize, isNote, signed⟩
        cases extracted.symm.trans (run_extractMakerNote_ok_iff.mpr isNote)
        exact run_verifyMAC_iff.mpr signed

/-! ## The whole verification -/

/-- A file for which everything but the two analyses speaks. -/
structure AcceptedUnanalysed (outside : UInt8) (crypto : VerifyCrypto) (fileId : AlbumFileId)
    (jpeg : Nat) (jpegSize : UInt64) (settings : AlbumSettings) (memory : Memory) : Prop where
  type : settings.isTypeSupported fileId.type = true
  signed : ∃ offset size, IsSignedNote outside memory jpeg jpegSize offset size ∧
    SignatureMatches crypto.signature memory jpeg jpegSize offset size
  contents : ∃ region exifSize exifBinary,
    (extractExifRegion jpeg jpegSize.toUInt32).run memory = (0, some (region, exifSize)) ∧
      region ≠ 0 ∧ exifSize ≠ 0 ∧
      BrokenThumbnail outside memory region exifSize.toUInt64 exifBinary ∧
      Consistent crypto.pathDecrypt fileId memory exifBinary

theorem verifyMakerNote_success_iff {crypto : VerifyCrypto} {fileId : AlbumFileId} {jpeg : Nat}
    {jpegSize : UInt64} {settings : AlbumSettings}
    (verify : settings.getVerifyScreenshotFiledata = true) :
    ((verifyMakerNote outside crypto fileId jpeg jpegSize settings true).run memory).1 =
        .success ↔
      AcceptedUnanalysed outside crypto fileId jpeg jpegSize settings memory := by
  rw [verifyMakerNote, verify]
  simp (disch := decide) only [run_rUnless_iff, run_rTry_iff, ByteReader.run_bind,
    ByteReader.run_pure, Bool.and_self, if_true]
  constructor
  · rintro ⟨type, -, signed, status, region, size, consistent⟩
    refine ⟨type, verifySignature_success_iff.mp signed, ?_⟩
    cases extracted : (extractExifRegion jpeg jpegSize.toUInt32).run memory with
    | mk res found =>
      rw [extracted] at status region size consistent
      cases found with
      | none => exact absurd rfl region
      | some found =>
          rcases verifyContents_success_iff.mp consistent with ⟨exifBinary, broken, contents⟩
          exact ⟨found.1, found.2, exifBinary, by rw [← status], region, size, broken, contents⟩
  · intro accepted
    rcases accepted.signed with ⟨offset, size, isNote, signed⟩
    rcases accepted.contents with
        ⟨region, exifSize, exifBinary, extracted, nonzero, nonempty, broken, contents⟩
    rw [extracted]
    exact ⟨accepted.type, isNote.2.1, verifySignature_success_iff.mpr ⟨offset, size, isNote, signed⟩,
      rfl, nonzero, nonempty, verifyContents_success_iff.mpr ⟨exifBinary, broken, contents⟩⟩

/-- What success of `VerifyMakerNote` is meant to say about a file. -/
structure Genuine (outside : UInt8) (crypto : VerifyCrypto) (fileId : AlbumFileId) (jpeg : Nat)
    (jpegSize : UInt64) (memory : Memory) : Prop where
  signed : ∃ offset size mac,
    (extractMakerNote outside jpeg jpegSize).run memory = .ok (offset, size) ∧
      (generateScreenshotMac crypto.signature jpeg jpegSize (offset + 8)).run memory = .ok mac ∧
      (List.range' (jpeg + offset.toNat + 8) 0x10).map memory = List.ofFn mac
  contents : ∃ region exifSize exifBinary dateString makerNote makerNoteSize,
    (extractExifRegion jpeg jpegSize.toUInt32).run memory = (0, some (region, exifSize)) ∧
      (analyse outside region exifSize.toUInt64).run memory = (.ok, exifBinary) ∧
      exifBinary.extractDateTime.run memory = some (dateString, 0x14) ∧
      (List.range' dateString 0x14).map memory = exifDateTime fileId.dateTime ++ [0] ∧
      exifBinary.extractMakerNote.run memory = some (makerNote, makerNoteSize) ∧
      (decryptMakerNote crypto.pathDecrypt makerNote).run memory =
        (fileId.applicationId, if isExtra fileId.type then 1 else 0)

/-- With verification on, success speaks for a genuine file exactly if the file
is not one that is accepted with a broken thumbnail directory: in every other
case there is no success at all. -/
theorem verifyMakerNote_sound_iff (outside : UInt8) (crypto : VerifyCrypto) (fileId : AlbumFileId)
    (jpeg : Nat) (jpegSize : UInt64) (settings : AlbumSettings) (memory : Memory)
    (verify : settings.getVerifyScreenshotFiledata = true) :
    (((verifyMakerNote outside crypto fileId jpeg jpegSize settings true).run memory).1 =
        .success → Genuine outside crypto fileId jpeg jpegSize memory) ↔
      ¬ AcceptedUnanalysed outside crypto fileId jpeg jpegSize settings memory := by
  constructor
  · intro sound accepted
    have genuine := sound ((verifyMakerNote_success_iff verify).mpr accepted)
    rcases accepted.contents with ⟨region, exifSize, exifBinary, extracted, -, -, broken, contents⟩
    rcases genuine.contents with ⟨_, _, _, _, _, _, sameRegion, analysed, -⟩
    cases extracted.symm.trans sameRegion
    cases analysed.symm.trans ((run_analyse_invalidFormat_iff contents.note).mpr broken)
  · intro refused success
    exact absurd ((verifyMakerNote_success_iff verify).mp success) refused

end

/-! ## A forged file -/

/-- A jpeg whose Exif block names a thumbnail directory of 0xffff entries. -/
def forgedJpeg : Memory := fun address =>
  ([0xff, 0xd8, 0xff, 0xe1, 0x03, 0x00] ++ exifStart ++
    [0x49, 0x49, 0x2a, 0, 8, 0, 0, 0,
      2, 0, 0x32, 0x01, 2, 0, 0x14, 0, 0, 0, 0x50, 0, 0, 0,
      0x69, 0x87, 4, 0, 1, 0, 0, 0, 0x26, 0, 0, 0, 0x80, 0, 0, 0,
      1, 0, 0x7c, 0x92, 7, 0, 0x40, 0, 0, 0, 0, 1, 0, 0, 0, 0, 0, 0] ++
    List.replicate 24 0 ++ ascii "2021:05:17 20:31:04" ++ List.replicate 29 0 ++
    [0xff, 0xff]).getD (address - 0x1000) 0

def forgedFileId : AlbumFileId :=
  ⟨0x0100152000022000, ⟨2021, 5, 17, 20, 31, 4, 0⟩, .sd, .screenshot, .replicate 6 0⟩

/-- Primitives under which the signature is zero and the identifier is that of
the file id. -/
def forgedCrypto : VerifyCrypto where
  signature := {
    spl := {
      lockAesEngine := (.success, 0)
      loadAesKey := fun _ _ _ => .success
      computeCmac := fun _ _ => (.success, fun _ => 0) }
    sha256 := fun _ => []
    hmacSha256 := fun _ _ => (fun _ => 0, fun _ => 0)
    screenshotKek := []
    hmacKey := [] }
  pathDecrypt := fun _ => Block.ofWords 0x0100152000022000 0

def allSupported : AlbumSettings :=
  ⟨true, true, true, true, 1000, 1000, 8000, 8000, none⟩

theorem acceptedUnanalysed_forgedJpeg :
    AcceptedUnanalysed 0 forgedCrypto forgedFileId 0x1000 0x400 allSupported forgedJpeg := by
  have whole : BrokenThumbnail 0 forgedJpeg 0x100c 0x3f4
      ((analyse 0 0x100c 0x3f4).run forgedJpeg).2 :=
    (run_analyse_invalidFormat_iff (by decide +kernel)).mp (Prod.ext (by decide +kernel) rfl)
  have region : BrokenThumbnail 0 forgedJpeg 0x100c 0x2f8
      ((analyse 0 0x100c 0x2f8).run forgedJpeg).2 :=
    (run_analyse_invalidFormat_iff (by decide +kernel)).mp (Prod.ext (by decide +kernel) rfl)
  refine ⟨by decide, ⟨0x10c, 0x40, ⟨by decide, by decide, _, whole, by decide +kernel,
    by decide +kernel, by decide +kernel, by decide⟩, ?_⟩,
    ⟨0x100c, 0x2f8, _, by decide, by decide, by decide, region, ?_⟩⟩
  · exact ⟨by decide, by decide, by decide, by decide, by decide, by decide,
      fun _ => 0, by rw [run_generateScreenshotMac]; rfl, by decide⟩
  · exact ⟨by decide +kernel, by decide +kernel, by decide +kernel, by decide +kernel,
      by decide +kernel⟩

/-- The forged file is accepted although its analysis fails. -/
theorem verifyMakerNote_unsound_forgedJpeg :
    ((verifyMakerNote 0 forgedCrypto forgedFileId 0x1000 0x400 allSupported true).run
        forgedJpeg).1 = .success ∧
      ¬ Genuine 0 forgedCrypto forgedFileId 0x1000 0x400 forgedJpeg := by
  refine ⟨(verifyMakerNote_success_iff (by decide)).mpr acceptedUnanalysed_forgedJpeg, ?_⟩
  intro genuine
  rcases genuine.contents with ⟨region, exifSize, exifBinary, _, _, _, extracted, analysed, -⟩
  have sameRegion : (extractExifRegion 0x1000 0x400).run forgedJpeg =
      (0, some (0x100c, 0x2f8)) := by decide
  cases sameRegion.symm.trans extracted
  have failed : ((analyse 0 0x100c 0x2f8).run forgedJpeg).1 = .invalidFormat := by
    decide +kernel
  have passed : ((analyse 0 0x100c 0x2f8).run forgedJpeg).1 = .ok := congrArg Prod.fst analysed
  cases failed.symm.trans passed

/-- The file with an empty thumbnail directory. -/
def repairedJpeg : Memory := fun address =>
  if address = 0x108c ∨ address = 0x108d then 0 else forgedJpeg address

/-- The repaired file is refused, which is sound. -/
theorem verifyMakerNote_sound_iff_forgedJpeg :
    ¬ (((verifyMakerNote 0 forgedCrypto forgedFileId 0x1000 0x400 allSupported true).run
          forgedJpeg).1 = .success →
        Genuine 0 forgedCrypto forgedFileId 0x1000 0x400 forgedJpeg) ∧
      ¬ AcceptedUnanalysed 0 forgedCrypto forgedFileId 0x1000 0x400 allSupported repairedJpeg := by
  have refused : ((verifyMakerNote 0 forgedCrypto forgedFileId 0x1000 0x400 allSupported
      true).run repairedJpeg).1 ≠ .success := by
    decide +kernel
  have sound := fun memory => verifyMakerNote_sound_iff 0 forgedCrypto forgedFileId 0x1000 0x400
    allSupported memory (by decide)
  exact ⟨fun forged => (sound forgedJpeg).mp forged acceptedUnanalysed_forgedJpeg,
    (sound repairedJpeg).mp fun success => absurd success refused⟩

end Capsrv.Image
