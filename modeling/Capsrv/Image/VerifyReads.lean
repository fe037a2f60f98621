import Capsrv.Image.ExifVerify

/-! # What a verification reads behind the extractors

`VerifyMakerNote` cut in two where the last extractor has returned. What is read
behind the cut lies in the values that were found exactly if the maker note is
long enough for the steps that get to it, and nothing makes sure that it is.
-/

namespace Capsrv.Image

open Capsrv

/-- What the extractors have returned. -/
structure Extracted where
  dateString : Option (Nat × UInt32)
  orientation : Option UInt16
  makerNote : Option (Nat × UInt32)
deriving DecidableEq, Repr

namespace Extracted

/-- The values that were found and are read afterwards. -/
def values (extracted : Extracted) : List (Nat × UInt32) :=
  extracted.makerNote.toList ++ extracted.dateString.toList

def Inside (extracted : Extracted) (start stop : Nat) : Prop :=
  ∀ value ∈ extracted.values, start ≤ value.1 ∧ value.1 + value.2.toNat ≤ stop

instance (extracted : Extracted) (start stop : Nat) : Decidable (extracted.Inside start stop) :=
  inferInstanceAs (Decidable (∀ value ∈ extracted.values, _))

/-- An address in one of the values. -/
def Covers (extracted : Extracted) (address : Nat) : Prop :=
  ∃ value ∈ extracted.values, value.1 ≤ address ∧ address < value.1 + value.2.toNat

/-- The maker note goes on to `stop`, or the date fills up what is missing. -/
def Fills (extracted : Extracted) (note : Nat × UInt32) (start stop : Nat) : Prop :=
  stop ≤ note.1 + note.2.toNat ∨
    ∃ date ∈ extracted.dateString,
      date.1 ≤ max start (note.1 + note.2.toNat) ∧ stop ≤ date.1 + date.2.toNat

/-- Two ranges cover a third one, which does not start before the first. -/
theorem covers_iff {extracted : Extracted} {note : Nat × UInt32} {start stop : Nat}
    (found : extracted.makerNote = some note) (behind : note.1 ≤ start) (nonempty : start < stop) :
    (∀ address, start ≤ address → address < stop → extracted.Covers address) ↔
      extracted.Fills note start stop := by
  simp only [Covers, values, found, Option.toList_some, List.singleton_append, List.mem_cons,
    Option.mem_toList, exists_eq_or_imp, Fills]
  constructor
  · intro covers
    by_cases short : stop ≤ note.1 + note.2.toNat
    · exact .inl short
    · rcases covers (max start (note.1 + note.2.toNat)) (by omega) (by omega) with
          inNote | ⟨date, isDate, first, last⟩
      · omega
      · rcases covers (stop - 1) (by omega) (by omega) with inNote | ⟨other, isOther, -, bound⟩
        · omega
        · cases isDate.symm.trans isOther
          exact .inr ⟨date, isDate, first, by omega⟩
  · intro fills address first last
    by_cases inNote : address < note.1 + note.2.toNat
    · exact .inl ⟨by omega, inNote⟩
    · rcases fills with long | ⟨date, isDate, start, bound⟩
      · omega
      · exact .inr ⟨date, isDate, by omega, by omega⟩

end Extracted

/-! ## The two parts -/

/-- The block of `VerifyMakerNote` under `verify_mac && verify`. -/
def verifySignatureIf (outside : UInt8) (crypto : SignatureCrypto) (jpeg : Nat)
    (jpegSize : UInt64) (enabled : Bool) : ByteReader Result :=
  if enabled then verifySignature outside crypto jpeg jpegSize else pure .success

/-- `VerifyMakerNote` up to its call of `ExtractMakerNote` on the extractor; an
error is the value it has returned before. -/
def verifyExtraction (outside : UInt8) (crypto : VerifyCrypto) (fileId : AlbumFileId) (jpeg : Nat)
    (jpegSize : UInt64) (settings : AlbumSettings) (verifyMac : Bool) :
    ByteReader (Except (Result × Option (List UInt8)) Extracted) :=
  let verify := settings.getVerifyScreenshotFiledata
  rUnless (settings.isTypeSupported fileId.type)
    (return .error (albumInvalidFileContents.result, none)) <|
  rUnless (jpegSize ≠ 0)
    (return .error (internalFileDataVerificationEmptyFileData.result, none)) <| do
  let signature ← verifySignatureIf outside crypto.signature jpeg jpegSize (verifyMac && verify)
  rTry signature (fun result => return .error (result, none)) <| do
  let cleared : List UInt8 := .replicate 0xc90 0
  let extracted ← extractExifRegion jpeg jpegSize.toUInt32
  rUnless (extracted.1 = 0)
    (return .error (internalFileDataVerificationExifExtractionFailed.result, some cleared)) <|
  let region := extracted.2.getD (0, 0)
  rUnless (region.1 ≠ 0)
    (return .error (internalFileDataVerificationExifExtractionFailed.result, some cleared)) <|
  rUnless (region.2 ≠ 0)
    (return .error (internalFileDataVerificationExifExtractionFailed.result, some cleared)) <| do
  let analysed ← analyse outside region.1 region.2.toUInt64
  let exifBinary := analysed.2
  rUnless (analysed.1.toInt ≠ 0)
    (return .error (internalFileDataVerificationExifAnalyzationFailed.result,
      some cleared)) <| do
  let dateString ← exifBinary.extractDateTime
  rUnless ((∃ date ∈ dateString, date.2 ≠ 0) ∨ verify = false)
    (return .error (internalFileDataVerificationDateTimeExtractionFailed.result,
      some cleared)) <| do
  let orientation ← exifBinary.extractOrientation
  let makerNote ← exifBinary.extractMakerNote
  return .ok ⟨dateString, orientation, makerNote⟩

/-- The rest of `VerifyMakerNote`. -/
def verifyExtracted (pathDecrypt : Block → Block) (fileId : AlbumFileId) (verify : Bool)
    (extracted : Extracted) : ByteReader (Result × Option (List UInt8)) :=
  let cleared : List UInt8 := .replicate 0xc90 0
  rUnless ((∃ note ∈ extracted.makerNote, note.2 ≠ 0) ∨ verify = false)
    (return (internalFileDataVerificationMakerNoteExtractionFailed.result, some cleared)) <|
  let makerNote := (extracted.makerNote.map Prod.fst).getD 0
  if verify = false then do
    let out ← copyMakerNote makerNote
    return (.success, some out)
  else
    let date := extracted.dateString.getD (0, 0)
    rUnless (date.2 = 0x14)
      (return (internalFileDataVerificationInvalidDateTimeLength.result, some cleared)) <| do
    let sameDate ← strncmpEqual (exifDateTime fileId.dateTime) date.1 0x14
    rUnless (sameDate = true)
      (return (internalFileDataVerificationInconsistentDateTime.result, some cleared)) <|
    rUnless (extracted.orientation.getD 1 < 9)
      (return (internalFileDataVerificationInconsistentOrientation.result, some cleared)) <| do
    let out ← decryptMakerNote pathDecrypt makerNote
    rUnless (out.2 = 1 → isExtra fileId.type = true)
      (return (albumInvalidApplicationId.result, some cleared)) <|
    rUnless (out.1 = fileId.applicationId)
      (return (internalFileDataVerificationInconsistentApplicationId.result, some cleared)) <| do
    let out ← copyMakerNote makerNote
    return (.success, some out)

/-- The two parts make up the function. -/
theorem verifyMakerNote_eq (outside : UInt8) (crypto : VerifyCrypto) (fileId : AlbumFileId)
    (jpeg : Nat) (jpegSize : UInt64) (settings : AlbumSettings) (verifyMac : Bool) :
    verifyMakerNote outside crypto fileId jpeg jpegSize settings verifyMac =
      verifyExtraction outside crypto fileId jpeg jpegSize settings verifyMac >>= fun
        | .error early => return early
        | .ok extracted => verifyExtracted crypto.pathDecrypt fileId
            settings.getVerifyScreenshotFiledata extracted := by
  simp only [verifyMakerNote, verifyContents, verifyExtraction, verifySignatureIf, verifyExtracted,
    rUnless, rTry, bind_assoc, pure_bind, ByteReader.bind_ite]

section

variable {outside : UInt8} {crypto : VerifyCrypto} {fileId : AlbumFileId} {jpeg : Nat}
variable {jpegSize : UInt64} {settings : AlbumSettings} {verifyMac : Bool} {memory : Memory}
variable {extracted : Extracted}

theorem ite_error_eq_ok_iff {ε α : Type} {condition : Prop} [Decidable condition] {early : ε}
    {rest : Except ε α} {value : α} :
    (if condition then rest else .error early) = .ok value ↔ condition ∧ rest = .ok value := by
  by_cases holds : condition <;> simp [holds]

/-- The extractors have run on some binary, and verification has asked for a date. -/
theorem verifyExtraction_ok
    (found : (verifyExtraction outside crypto fileId jpeg jpegSize settings verifyMac).run memory =
      .ok extracted) :
    ∃ exifBinary : ExifBinary,
      extracted = ⟨exifBinary.extractDateTime.run memory, exifBinary.extractOrientation.run memory,
        exifBinary.extractMakerNote.run memory⟩ ∧
      ((∃ date ∈ extracted.dateString, date.2 ≠ 0) ∨
        settings.getVerifyScreenshotFiledata = false) := by
  simp only [verifyExtraction, rUnless, rTry, ByteReader.run_ite, ByteReader.run_bind,
    ByteReader.run_pure, ite_error_eq_ok_iff, Except.ok.injEq] at found
  rcases found with ⟨-, -, -, -, -, -, -, dated, rfl⟩
  exact ⟨_, rfl, dated⟩

/-- What verification has made sure of when the last extractor returns. -/
theorem verifyExtraction_verified
    (found : (verifyExtraction outside crypto fileId jpeg jpegSize settings verifyMac).run memory =
      .ok extracted) (verify : settings.getVerifyScreenshotFiledata = true) :
    ∃ date, extracted.dateString = some date ∧ date.2 = 0x14 ∧
      extracted.orientation.getD 1 < 9 ∧ ∀ note, extracted.makerNote = some note → note.2 ≠ 0 := by
  rcases verifyExtraction_ok found with ⟨exifBinary, rfl, asked⟩
  rcases asked.resolve_right (by rw [verify]; decide) with ⟨date, dated, -⟩
  refine ⟨date, dated, ?_, run_extractOrientation_lt exifBinary, fun note noted => ?_⟩
  · rw [Option.mem_def, run_extractDateTime] at dated
    split at dated
    · cases dated
      rfl
    · cases dated
  · rw [run_extractMakerNote] at noted
    split at noted
    · cases noted
    · rename_i nonempty
      cases noted
      exact nonempty

/-! ## Reads -/

/-- What `VerifyMakerNote` reads after `extracted` has been returned lies in the
values that were found, and nothing is copied without a maker note: the copy is
the last step of every success. -/
structure ReadsCovered (outside : UInt8) (crypto : VerifyCrypto) (fileId : AlbumFileId)
    (jpeg : Nat) (jpegSize : UInt64) (settings : AlbumSettings) (verifyMac : Bool)
    (memory : Memory) (extracted : Extracted) : Prop where
  reads : ∀ address ∈
    ((verifyMakerNote outside crypto fileId jpeg jpegSize settings verifyMac).reads memory).drop
      ((verifyExtraction outside crypto fileId jpeg jpegSize settings verifyMac).reads
        memory).length,
    extracted.Covers address
  copy : extracted.makerNote = none →
    ((verifyMakerNote outside crypto fileId jpeg jpegSize settings verifyMac).run memory).1 ≠
      .success

/-- The date that was found is that of the file id. -/
def SameDate (fileId : AlbumFileId) (memory : Memory) (extracted : Extracted) : Prop :=
  (strncmpEqual (exifDateTime fileId.dateTime) (extracted.dateString.getD (0, 0)).1 0x14).run
    memory = true

instance (fileId : AlbumFileId) (memory : Memory) (extracted : Extracted) :
    Decidable (SameDate fileId memory extracted) :=
  inferInstanceAs (Decidable (_ = true))

/-- The identifier in a maker note is that of the file id. -/
def SameIdentifier (pathDecrypt : Block → Block) (fileId : AlbumFileId) (memory : Memory)
    (makerNote : Nat) : Prop :=
  (((decryptMakerNote pathDecrypt makerNote).run memory).2 = 1 → isExtra fileId.type = true) ∧
    ((decryptMakerNote pathDecrypt makerNote).run memory).1 = fileId.applicationId

instance (pathDecrypt : Block → Block) (fileId : AlbumFileId) (memory : Memory)
    (makerNote : Nat) : Decidable (SameIdentifier pathDecrypt fileId memory makerNote) :=
  inferInstanceAs (Decidable (_ ∧ _))

/-- The maker note is long enough for the steps that use it. -/
structure NoteFills (pathDecrypt : Block → Block) (fileId : AlbumFileId) (verify : Bool)
    (memory : Memory) (extracted : Extracted) : Prop where
  unverified : verify = false →
    ∃ note ∈ extracted.makerNote, extracted.Fills note note.1 (note.1 + 0xc78)
  identifier : verify = true → ∀ note ∈ extracted.makerNote, SameDate fileId memory extracted →
    extracted.Fills note (note.1 + 0x14) (note.1 + 0x24)
  copied : verify = true → ∀ note ∈ extracted.makerNote, SameDate fileId memory extracted →
    SameIdentifier pathDecrypt fileId memory note.1 →
      extracted.Fills note note.1 (note.1 + 0xc78)

theorem within_strncmpEqual (text : Text) (src count : Nat) {stop : Nat}
    (inside : src + count ≤ stop) {start : Nat} (behind : start ≤ src) :
    (strncmpEqual text src count).Within memory start stop := by
  induction count generalizing text src with
  | zero => exact ByteReader.within_pure _
  | succ count induction =>
      rw [strncmpEqual, ByteReader.within_bind, ByteReader.within_byte, ByteReader.within_ite,
        ByteReader.within_ite]
      exact ⟨by omega, fun _ => ByteReader.within_pure _, fun _ =>
        ⟨fun _ => ByteReader.within_pure _, fun _ => induction _ _ (by omega) (by omega)⟩⟩

theorem reads_copyMakerNote (makerNote : Nat) :
    (copyMakerNote makerNote).reads memory = List.range' makerNote 0xc78 := by
  rw [copyMakerNote, ByteReader.reads_bind, ByteReader.reads_bytes, ByteReader.reads_pure,
    List.append_nil]

theorem reads_decryptMakerNote (pathDecrypt : Block → Block) (makerNote : Nat) :
    (decryptMakerNote pathDecrypt makerNote).reads memory =
      List.range' (makerNote + 0x14) 0x10 := by
  rw [decryptMakerNote, ByteReader.reads_bind, ByteReader.reads_bytes, ByteReader.reads_pure,
    List.append_nil]

theorem covers_range'_iff {note : Nat × UInt32} {start count : Nat}
    (found : extracted.makerNote = some note) (behind : note.1 ≤ start) (positive : 0 < count) :
    (∀ address ∈ List.range' start count, extracted.Covers address) ↔
      extracted.Fills note start (start + count) := by
  rw [← Extracted.covers_iff found behind (by omega)]
  simp only [List.mem_range'_1, and_imp]

/-- What is read without verification. -/
theorem reads_unverified (pathDecrypt : Block → Block) :
    (verifyExtracted pathDecrypt fileId false extracted).reads memory =
      List.range' ((extracted.makerNote.map Prod.fst).getD 0) 0xc78 := by
  simp only [verifyExtracted, rUnless, or_true, if_true, ByteReader.reads_bind,
    reads_copyMakerNote, ByteReader.reads_pure, List.append_nil]

theorem run_unverified (pathDecrypt : Block → Block) :
    ((verifyExtracted pathDecrypt fileId false extracted).run memory).1 = .success := by
  simp only [verifyExtracted, rUnless, or_true, if_true, ByteReader.run_bind, ByteReader.run_pure]

/-- With verification, nothing happens without a maker note. -/
theorem verifyExtracted_none (pathDecrypt : Block → Block)
    (absent : extracted.makerNote = none) :
    verifyExtracted pathDecrypt fileId true extracted =
      pure (internalFileDataVerificationMakerNoteExtractionFailed.result,
        some (.replicate 0xc90 0)) := by
  rw [verifyExtracted, absent, rUnless, if_neg]
  simp only [Option.not_mem_none, false_and, exists_false, Bool.true_eq_false, or_self,
    not_false_eq_true]

/-- With verification and a maker note, the date is compared and then what is in
the note. -/
theorem reads_verified (pathDecrypt : Block → Block) {note : Nat × UInt32}
    (found : extracted.makerNote = some note) (nonempty : note.2 ≠ 0)
    (length : (extracted.dateString.getD (0, 0)).2 = 0x14)
    (oriented : extracted.orientation.getD 1 < 9) :
    (verifyExtracted pathDecrypt fileId true extracted).reads memory =
      (strncmpEqual (exifDateTime fileId.dateTime) (extracted.dateString.getD (0, 0)).1
          0x14).reads memory ++
        if SameDate fileId memory extracted then
          List.range' (note.1 + 0x14) 0x10 ++
            if SameIdentifier pathDecrypt fileId memory note.1 then List.range' note.1 0xc78
            else []
        else [] := by
  simp only [verifyExtracted, rUnless, found, Option.mem_some_iff, exists_eq_left', nonempty,
    ne_eq, not_false_eq_true, true_or, if_true, Bool.true_eq_false, if_false,
    length, oriented, ByteReader.reads_bind, ByteReader.reads_ite, ByteReader.reads_pure,
    List.append_nil, reads_decryptMakerNote, reads_copyMakerNote, Option.map_some,
    Option.getD_some]
  by_cases date : SameDate fileId memory extracted
  · have equal : (strncmpEqual (exifDateTime fileId.dateTime)
        (extracted.dateString.getD (0, 0)).1 0x14).run memory = true := date
    rw [if_pos equal, if_pos date]
    by_cases flag :
        ((decryptMakerNote pathDecrypt note.1).run memory).2 = 1 → isExtra fileId.type = true
    · by_cases application :
          ((decryptMakerNote pathDecrypt note.1).run memory).1 = fileId.applicationId
      · rw [if_pos flag, if_pos application, if_pos ⟨flag, application⟩]
      · rw [if_pos flag, if_neg application, if_neg fun same => application same.2]
    · rw [if_neg flag, if_neg fun same => flag same.1]
  · have different : ¬ (strncmpEqual (exifDateTime fileId.dateTime)
        (extracted.dateString.getD (0, 0)).1 0x14).run memory = true := date
    rw [if_neg different, if_neg date]

/-! ## The maker note -/

/-- After a successful extraction the function goes on with its second part. -/
theorem run_verifyMakerNote_extracted
    (found : (verifyExtraction outside crypto fileId jpeg jpegSize settings verifyMac).run memory =
      .ok extracted) :
    (verifyMakerNote outside crypto fileId jpeg jpegSize settings verifyMac).run memory =
      (verifyExtracted crypto.pathDecrypt fileId settings.getVerifyScreenshotFiledata
        extracted).run memory := by
  rw [verifyMakerNote_eq, ByteReader.run_bind, found]

theorem reads_verifyMakerNote_extracted
    (found : (verifyExtraction outside crypto fileId jpeg jpegSize settings verifyMac).run memory =
      .ok extracted) :
    ((verifyMakerNote outside crypto fileId jpeg jpegSize settings verifyMac).reads memory).drop
        ((verifyExtraction outside crypto fileId jpeg jpegSize settings verifyMac).reads
          memory).length =
      (verifyExtracted crypto.pathDecrypt fileId settings.getVerifyScreenshotFiledata
        extracted).reads memory := by
  rw [verifyMakerNote_eq, ByteReader.reads_bind, found, List.drop_left]

/-- Without verification the copy is made in any case. -/
theorem unverified_covered_iff (pathDecrypt : Block → Block) (fileId : AlbumFileId)
    (memory : Memory) (extracted : Extracted) :
    ((∀ address ∈ (verifyExtracted pathDecrypt fileId false extracted).reads memory,
        extracted.Covers address) ∧ extracted.makerNote ≠ none) ↔
      ∃ note ∈ extracted.makerNote, extracted.Fills note note.1 (note.1 + 0xc78) := by
  cases found : extracted.makerNote with
  | none => simp
  | some note =>
      rw [reads_unverified, found, Option.map_some, Option.getD_some,
        covers_range'_iff found (Nat.le_refl _) (by decide)]
      simp

/-- The comparison of the date stays in the date. -/
theorem covers_strncmpEqual (memory : Memory) {date : Nat × UInt32} (text : Text)
    (found : extracted.dateString = some date) (length : date.2 = 0x14) :
    ∀ address ∈ (strncmpEqual text date.1 0x14).reads memory, extracted.Covers address := by
  intro address member
  have bounds := within_strncmpEqual text date.1 0x14 (Nat.le_refl _) (Nat.le_refl _) address member
  refine ⟨date, ?_, by rw [length]; exact bounds⟩
  rw [Extracted.values, found]
  exact List.mem_append_right _ List.mem_cons_self

theorem verified_covered_iff (pathDecrypt : Block → Block) {note date : Nat × UInt32}
    (found : extracted.makerNote = some note) (nonempty : note.2 ≠ 0)
    (dated : extracted.dateString = some date) (length : date.2 = 0x14)
    (oriented : extracted.orientation.getD 1 < 9) :
    (∀ address ∈ (verifyExtracted pathDecrypt fileId true extracted).reads memory,
        extracted.Covers address) ↔
      (SameDate fileId memory extracted →
        extracted.Fills note (note.1 + 0x14) (note.1 + 0x24) ∧
          (SameIdentifier pathDecrypt fileId memory note.1 →
            extracted.Fills note note.1 (note.1 + 0xc78))) := by
  have lengthOf : (extracted.dateString.getD (0, 0)).2 = 0x14 := by
    rw [dated, Option.getD_some, length]
  have compared := covers_strncmpEqual memory (exifDateTime fileId.dateTime) dated length
  have identifier : (∀ address ∈ List.range' (note.1 + 0x14) 0x10, extracted.Covers address) ↔
      extracted.Fills note (note.1 + 0x14) (note.1 + 0x24) :=
    covers_range'_iff found (Nat.le_add_right _ _) (by decide)
  have copied : (∀ address ∈ List.range' note.1 0xc78, extracted.Covers address) ↔
      extracted.Fills note note.1 (note.1 + 0xc78) :=
    covers_range'_iff found (Nat.le_refl _) (by decide)
  rw [reads_verified pathDecrypt found nonempty lengthOf oriented, List.forall_mem_append, dated,
    Option.getD_some, and_iff_right compared]
  by_cases same : SameDate fileId memory extracted
  · rw [if_pos same, List.forall_mem_append, identifier, forall_prop_of_true same]
    by_cases equal : SameIdentifier pathDecrypt fileId memory note.1
    · rw [if_pos equal, copied, forall_prop_of_true equal]
    · rw [if_neg equal, forall_prop_of_false equal]
      simp
  · rw [if_neg same, forall_prop_of_false same]
    simp

/-- Behind the extractors only values that were found are read exactly if the
maker note is long enough for the steps that use it. -/
theorem verifyMakerNote_readsCovered_iff (outside : UInt8) (crypto : VerifyCrypto)
    (fileId : AlbumFileId) (jpeg : Nat) (jpegSize : UInt64) (settings : AlbumSettings)
    (verifyMac : Bool) (memory : Memory) (extracted : Extracted)
    (found : (verifyExtraction outside crypto fileId jpeg jpegSize settings verifyMac).run memory =
      .ok extracted) :
    ReadsCovered outside crypto fileId jpeg jpegSize settings verifyMac memory extracted ↔
      NoteFills crypto.pathDecrypt fileId settings.getVerifyScreenshotFiledata memory
        extracted := by
  have covered : ReadsCovered outside crypto fileId jpeg jpegSize settings verifyMac memory
        extracted ↔
      (∀ address ∈ (verifyExtracted crypto.pathDecrypt fileId
          settings.getVerifyScreenshotFiledata extracted).reads memory,
        extracted.Covers address) ∧
      (extracted.makerNote = none → ((verifyExtracted crypto.pathDecrypt fileId
        settings.getVerifyScreenshotFiledata extracted).run memory).1 ≠ .success) := by
    rw [← reads_verifyMakerNote_extracted found, ← run_verifyMakerNote_extracted found]
    exact ⟨fun holds => ⟨holds.reads, holds.copy⟩, fun holds => ⟨holds.1, holds.2⟩⟩
  rw [covered]
  cases verify : settings.getVerifyScreenshotFiledata with
  | false =>
      simp only [run_unverified, ne_eq, not_true_eq_false, imp_false]
      rw [← ne_eq, unverified_covered_iff crypto.pathDecrypt fileId memory extracted]
      exact ⟨fun holds => ⟨fun _ => holds, nofun, nofun⟩, fun holds => holds.unverified rfl⟩
  | true =>
      rcases verifyExtraction_verified found verify with ⟨date, dated, length, oriented, note_ne⟩
      cases noted : extracted.makerNote with
      | none =>
          rw [verifyExtracted_none crypto.pathDecrypt noted, ByteReader.reads_pure,
            ByteReader.run_pure]
          refine iff_of_true ⟨nofun, fun _ => by decide⟩ ⟨nofun, ?_, ?_⟩
          · exact fun _ note member => by rw [noted] at member; cases member
          · exact fun _ note member => by rw [noted] at member; cases member
      | some note =>
          rw [verified_covered_iff crypto.pathDecrypt noted (note_ne note noted) dated length oriented]
          constructor
          · rintro ⟨fills, -⟩
            refine ⟨nofun, fun _ other member same => ?_, fun _ other member same equal => ?_⟩
            · cases noted.symm.trans member
              exact (fills same).1
            · cases noted.symm.trans member
              exact (fills same).2 equal
          · intro fills
            exact ⟨fun same => ⟨fills.identifier rfl note noted same,
              fills.copied rfl note noted same⟩, nofun⟩

end

/-- What is found in the forged file: a maker note of 0x40 bytes. -/
def forgedExtracted : Extracted :=
  ⟨some (0x105c, 0x14), none, some (0x110c, 0x40)⟩

theorem verifyExtraction_forgedJpeg :
    (verifyExtraction 0 forgedCrypto forgedFileId 0x1000 0x400 allSupported true).run forgedJpeg =
      .ok forgedExtracted := by
  have signature : (verifySignatureIf 0 forgedCrypto.signature 0x1000 0x400 true).run forgedJpeg =
      .success :=
    verifySignature_success_iff.mpr acceptedUnanalysed_forgedJpeg.signed
  have region : (extractExifRegion 0x1000 (0x400 : UInt64).toUInt32).run forgedJpeg =
      (0, some (0x100c, 0x2f8)) := by decide
  have status : ((analyse 0 0x100c (0x2f8 : UInt32).toUInt64).run forgedJpeg).1 =
      .invalidFormat := by decide +kernel
  have date : ((analyse 0 0x100c (0x2f8 : UInt32).toUInt64).run
      forgedJpeg).2.extractDateTime.run forgedJpeg = some (0x105c, 0x14) := by decide +kernel
  have orientation : ((analyse 0 0x100c (0x2f8 : UInt32).toUInt64).run
      forgedJpeg).2.extractOrientation.run forgedJpeg = none := by decide +kernel
  have note : ((analyse 0 0x100c (0x2f8 : UInt32).toUInt64).run
      forgedJpeg).2.extractMakerNote.run forgedJpeg = some (0x110c, 0x40) := by decide +kernel
  have enabled : (true && allSupported.getVerifyScreenshotFiledata) = true := rfl
  have type : allSupported.isTypeSupported forgedFileId.type = true := by decide
  have nonempty : ¬ (0x400 : UInt64) = 0 := by decide
  simp only [verifyExtraction, rUnless, rTry, ByteReader.run_ite, ByteReader.run_bind,
    ByteReader.run_pure, enabled, type, signature, region, Option.getD_some, status, date,
    orientation, note, if_true, Result.isSuccess_success, ne_eq, nonempty, not_false_eq_true]
  rfl

theorem verifyMakerNote_not_readsCovered_forgedJpeg :
    ¬ (∀ outside crypto fileId jpeg jpegSize settings verifyMac memory extracted,
      (verifyExtraction outside crypto fileId jpeg jpegSize settings verifyMac).run memory =
        .ok extracted →
      extracted.Inside jpeg (jpeg + jpegSize.toNat) →
      ReadsCovered outside crypto fileId jpeg jpegSize settings verifyMac memory extracted) := by
  intro always
  have covered := (always 0 forgedCrypto forgedFileId 0x1000 0x400 allSupported true forgedJpeg
    forgedExtracted verifyExtraction_forgedJpeg (by decide)).reads
  rw [reads_verifyMakerNote_extracted verifyExtraction_forgedJpeg] at covered
  have fills := ((verified_covered_iff forgedCrypto.pathDecrypt rfl (by decide) rfl rfl
    (by decide)).mp covered (by decide)).2 (by decide +kernel)
  rcases fills with long | ⟨date, found, -, bound⟩
  · exact absurd long (by decide)
  · cases found
    exact absurd bound (by decide)

theorem verifyMakerNote_readsCovered_iff_forgedJpeg :
    ReadsCovered 0 forgedCrypto forgedFileId 0x1000 0x400 allSupported true forgedJpeg
        forgedExtracted ↔
      NoteFills forgedCrypto.pathDecrypt forgedFileId true forgedJpeg forgedExtracted :=
  verifyMakerNote_readsCovered_iff 0 forgedCrypto forgedFileId 0x1000 0x400 allSupported true
    forgedJpeg forgedExtracted verifyExtraction_forgedJpeg

end Capsrv.Image
