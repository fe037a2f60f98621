import Capsrv.Image.ExifAccepted
import Capsrv.Image.ExifRegion
import Capsrv.Image.ExifVerify

/-! # Genuine screenshots

A file that has everything `VerifyMakerNote` looks for. Its Exif block is well
formed, so the analysis succeeds, and that is what the verification takes for a
failure.
-/

namespace Capsrv.Image

open Capsrv

/-! ## The file -/

/-- The maker note of a block is at an offset of it. -/
structure MakerNoteAt (memory : Memory) (data : Nat) (layout : ExifLayout)
    (content : ExifContent) (offset : Nat) (note : List UInt8) : Prop where
  entry : ∃ entries ∈ content.exif, ∃ (index : Nat) (below : index < entries.length),
    entries[index] = ⟨0x927c, .undefined note⟩ ∧
    offset = (layout.binaryIo.wordAt memory
      (data + (layout.exifOffset.toNat + 2 + 12 * index) + 8)).toNat
  length : 0xc78 ≤ note.length

/-- A jpeg with a well-formed Exif block for the file id and a signed maker note.
The block is what is left of the segment behind its first eight bytes. -/
structure GenuineScreenshot (crypto : VerifyCrypto) (fileId : AlbumFileId) (jpeg : Nat)
    (jpegSize : UInt64) (settings : AlbumSettings) (memory : Memory) (layout : ExifLayout)
    (content : ExifContent) (offset : Nat) (note : List UInt8) : Prop where
  verify : settings.getVerifyScreenshotFiledata = true
  type : settings.isTypeSupported fileId.type = true
  address : jpeg ≠ 0
  segment : IsExifSegment memory jpeg
  least : 8 ≤ (segmentLength memory jpeg).toNat
  inside : (segmentLength memory jpeg).toNat + 4 ≤ jpegSize.toNat
  block : WellFormedBlock memory (jpeg + 0xc) ((segmentLength memory jpeg).toNat - 8) layout
    content
  date : content.dateTime = some (exifDateTime fileId.dateTime ++ [0])
  orientation : ∃ orientation, content.orientation = some orientation
  makerNote : MakerNoteAt memory (jpeg + 0xc) layout content offset note
  signature : SignatureMatches crypto.signature memory jpeg jpegSize (UInt64.ofNat (0xc + offset))
    (UInt64.ofNat note.length)
  identifier : (decryptMakerNote crypto.pathDecrypt (jpeg + 0xc + offset)).run memory =
    (fileId.applicationId, if isExtra fileId.type then 1 else 0)

/-- `VerifyMakerNote` succeeds and copies the start of the maker note. -/
structure AcceptedWithNote (outside : UInt8) (crypto : VerifyCrypto) (fileId : AlbumFileId)
    (jpeg : Nat) (jpegSize : UInt64) (settings : AlbumSettings) (memory : Memory)
    (note : List UInt8) : Prop where
  result : ((verifyMakerNote outside crypto fileId jpeg jpegSize settings true).run memory).1 =
    .success
  copied : ((verifyMakerNote outside crypto fileId jpeg jpegSize settings true).run memory).2 =
    some (note.take 0xc78 ++ .replicate 0x18 0)

/-! ## Refusal -/

section

variable {outside : UInt8} {crypto : VerifyCrypto} {fileId : AlbumFileId} {jpeg : Nat}
variable {jpegSize : UInt64} {settings : AlbumSettings} {memory : Memory} {layout : ExifLayout}
variable {content : ExifContent} {offset : Nat} {note : List UInt8}

/-- With verification, a well-formed block with an Exif directory is refused. -/
theorem verifyMakerNote_refuses_block
    (verify : settings.getVerifyScreenshotFiledata = true)
    (least : 8 ≤ (segmentLength memory jpeg).toNat)
    (block : WellFormedBlock memory (jpeg + 0xc) ((segmentLength memory jpeg).toNat - 8) layout
      content)
    (present : content.exif ≠ none) :
    ((verifyMakerNote outside crypto fileId jpeg jpegSize settings true).run memory).1 ≠
      .success := by
  intro success
  rcases ((verifyMakerNote_success_iff verify).mp success).contents with
    ⟨region, exifSize, exifBinary, extracted, -, -, broken, consistent⟩
  rcases run_extractExifRegion_iff.mp extracted with ⟨-, -, rfl, rfl⟩
  have size : (segmentLength memory jpeg - 8).toUInt32.toUInt64.toNat =
      (segmentLength memory jpeg).toNat - 8 := by
    have eight : (8 : UInt16).toNat = 8 := rfl
    rw [UInt32.toNat_toUInt64, UInt16.toNat_toUInt32, UInt16.toNat_sub_of_le _ _ (by
      rw [UInt16.le_iff_toNat_le, eight]
      exact least), eight]
  rw [← size] at block
  rcases Option.ne_none_iff_exists'.mp present with ⟨entries, found⟩
  rcases block.analysed outside found with ⟨other, analysed, -⟩
  have failed := (run_analyse_invalidFormat_iff consistent.note).mpr broken
  cases analysed.symm.trans failed

/-- No genuine screenshot is accepted. -/
theorem genuineScreenshot_not_accepted (outside : UInt8) (crypto : VerifyCrypto)
    (fileId : AlbumFileId) (jpeg : Nat) (jpegSize : UInt64) (settings : AlbumSettings)
    (memory : Memory) (layout : ExifLayout) (content : ExifContent) (offset : Nat)
    (note : List UInt8)
    (genuine : GenuineScreenshot crypto fileId jpeg jpegSize settings memory layout content offset
      note) :
    ¬ AcceptedWithNote outside crypto fileId jpeg jpegSize settings memory note := by
  intro accepted
  rcases genuine.makerNote.entry with ⟨entries, present, -⟩
  apply verifyMakerNote_refuses_block genuine.verify genuine.least genuine.block _ accepted.result
  rw [Option.mem_def.mp present]
  exact Option.some_ne_none entries

end

/-! ## A genuine file -/

/-- A jpeg with an orientation, a date and a maker note of zeros. -/
def genuineJpeg : Memory := fun address =>
  ([0xff, 0xd8, 0xff, 0xe1, 0x0c, 0xd8] ++ exifStart ++
    [0x49, 0x49, 0x2a, 0, 8, 0, 0, 0,
      3, 0, 0x12, 0x01, 3, 0, 1, 0, 0, 0, 1, 0, 0, 0,
      0x32, 0x01, 2, 0, 0x14, 0, 0, 0, 0x44, 0, 0, 0,
      0x69, 0x87, 4, 0, 1, 0, 0, 0, 0x32, 0, 0, 0, 0, 0, 0, 0,
      1, 0, 0x7c, 0x92, 7, 0, 0x78, 0x0c, 0, 0, 0x58, 0, 0, 0, 0, 0, 0, 0] ++
    ascii "2021:05:17 20:31:04").getD (address - 0x1000) 0

def genuineContent : ExifContent where
  main := [⟨0x0112, .shorts [1]⟩, ⟨0x0132, .ascii (ascii "2021:05:17 20:31:04" ++ [0])⟩,
    ⟨0x8769, .longs [0x32]⟩]
  exif := some [⟨0x927c, .undefined (.replicate 0xc78 0)⟩]
  thumbnail := none

/-- Everything behind the date is zero. -/
theorem genuineJpeg_note :
    (List.range' 0x1064 0xc78).map genuineJpeg = .replicate 0xc78 0 := by
  apply List.eq_replicate_iff.mpr
  refine ⟨by rw [List.length_map, List.length_range'], fun byte member => ?_⟩
  rcases List.mem_map.mp member with ⟨address, position, rfl⟩
  have behind := (List.mem_range'_1.mp position).1
  rw [genuineJpeg, List.getD_eq_getElem?_getD, List.getElem?_eq_none]
  · rfl
  · change 0x63 ≤ address - 0x1000
    omega

theorem genuineNote_genuineJpeg {note : List UInt8} (length : note.length = 0xc78)
    (stored : (List.range' 0x1064 0xc78).map genuineJpeg = note) :
    EntryAt .intel genuineJpeg 0x100c 0xcd0 0x34 ⟨0x927c, .undefined note⟩ := by
  have word : (BinaryIo.intel.wordAt genuineJpeg (0x100c + 0x34 + 8)).toNat = 0x58 := by decide
  have count : (BinaryIo.intel.wordAt genuineJpeg (0x100c + 0x34 + 4)).toNat = 0xc78 := by decide
  have marker : BinaryIo.intel.halfAt genuineJpeg (0x100c + 0x34) = 0x927c := by decide
  have format : BinaryIo.intel.halfAt genuineJpeg (0x100c + 0x34 + 2) = DataFormat.undefined := by
    decide
  refine ⟨marker, format, count.trans length.symm, fun inline => ?_, fun _ => ?_⟩
  · change note.length ≤ 4 at inline
    omega
  · rw [word]
    change (List.range' 0x1064 note.length).map genuineJpeg = note ∧
      8 ≤ 0x58 ∧ 0x58 + note.length ≤ 0xcd0
    rw [length]
    exact ⟨stored, by decide, by decide⟩

theorem genuineExif_genuineJpeg :
    DirectoryAt .intel genuineJpeg 0x100c 0xcd0 0x32 [⟨0x927c, .undefined (.replicate 0xc78 0)⟩]
      0 where
  first := by decide
  fits := by decide
  count := by decide
  entry := by
    intro index below
    have zero : index = 0 := Nat.lt_one_iff.mp below
    subst zero
    exact genuineNote_genuineJpeg List.length_replicate genuineJpeg_note
  distinct := List.nodup_singleton _
  next := by decide

theorem genuineScreenshot_genuineJpeg :
    GenuineScreenshot forgedCrypto forgedFileId 0x1000 0xce0 allSupported genuineJpeg
      ⟨.intel, 8, 0x32, 0⟩ genuineContent 0x58 (.replicate 0xc78 0) where
  verify := rfl
  type := by decide
  address := by decide
  segment := ⟨⟨by decide, by decide⟩, by decide, by decide⟩
  least := by decide
  inside := by decide
  block := {
    small := by decide
    magic := by decide
    tagMark := by decide
    mainOffset := by decide
    main := by decide
    noPointer := by decide
    pointer := by decide
    exif := by
      rintro entries ⟨⟩
      exact genuineExif_genuineJpeg
    thumbnail := nofun }
  date := by decide
  orientation := ⟨1, by decide⟩
  makerNote := ⟨⟨_, rfl, 0, by decide, rfl, by decide⟩, Nat.le_of_eq List.length_replicate.symm⟩
  signature := by
    rw [List.length_replicate]
    exact ⟨by decide, by decide, by decide, by decide, by decide, by decide,
      fun _ => 0, by rw [run_generateScreenshotMac]; rfl, by decide⟩
  identifier := by decide +kernel

theorem genuineScreenshot_not_accepted_genuineJpeg :
    ¬ AcceptedWithNote 0 forgedCrypto forgedFileId 0x1000 0xce0 allSupported genuineJpeg
      (.replicate 0xc78 0) :=
  genuineScreenshot_not_accepted 0 forgedCrypto forgedFileId 0x1000 0xce0 allSupported genuineJpeg
    ⟨.intel, 8, 0x32, 0⟩ genuineContent 0x58 (.replicate 0xc78 0) genuineScreenshot_genuineJpeg

/-- Not every genuine screenshot is accepted. -/
theorem not_accepted_genuineJpeg :
    ¬ (∀ outside crypto fileId jpeg jpegSize settings memory layout content offset note,
      GenuineScreenshot crypto fileId jpeg jpegSize settings memory layout content offset note →
      AcceptedWithNote outside crypto fileId jpeg jpegSize settings memory note) := by
  intro always
  have accepted := always 0 _ _ _ _ _ _ _ _ _ _ genuineScreenshot_genuineJpeg
  exact verifyMakerNote_refuses_block rfl (by decide) genuineScreenshot_genuineJpeg.block
    (by decide) accepted.result

end Capsrv.Image
