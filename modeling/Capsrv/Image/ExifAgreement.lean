import Capsrv.Image.ExifRegion
import Capsrv.Image.ExifVerify

/-! # Two analyses of one block

The size of a block only ever decides whether the analysis goes on. Two analyses
of the same bytes that get equally far have found the same headers and tags, so
the maker note that is authenticated is the one that is used afterwards.
-/

namespace Capsrv.Image

open Capsrv

/-- The same binary under another size. -/
def ExifBinary.resize (exifBinary : ExifBinary) (size : UInt32) : ExifBinary :=
  { exifBinary with size }

section

variable {outside : UInt8} {memory : Memory} {exifBinary first second : ExifBinary}
variable {size : UInt32}

/-! ## Headers and directories -/

theorem IsTiffHeader.unique {ptr : Nat} {firstSize secondSize : UInt32}
    {firstIo secondIo : BinaryIo} {firstOffset secondOffset : UInt32}
    (isFirst : IsTiffHeader memory ptr firstSize firstIo firstOffset)
    (isSecond : IsTiffHeader memory ptr secondSize secondIo secondOffset) :
    firstIo = secondIo ∧ firstOffset = secondOffset := by
  have sameIo : firstIo = secondIo := Option.some.inj (isFirst.magic.symm.trans isSecond.magic)
  subst sameIo
  exact ⟨rfl, isFirst.offset_eq.trans isSecond.offset_eq.symm⟩

theorem IsIfdHeader.resize_unique {offset : UInt32} {header other : IfdHeader}
    (isHeader : IsIfdHeader memory exifBinary offset header)
    (isOther : IsIfdHeader memory (exifBinary.resize size) offset other) : header = other := by
  have sameOffset := isHeader.offset_eq.trans isOther.offset_eq.symm
  have sameCount : header.count = other.count := isHeader.count_eq.trans isOther.count_eq.symm
  have sameSize : header.size = other.size := by
    rw [isHeader.size_eq, isOther.size_eq, sameCount]
    rfl
  cases header
  cases other
  simp only [IfdHeader.mk.injEq]
  exact ⟨sameOffset, sameCount, sameSize⟩

theorem IsIfd.resize_unique {n : Nat} {offset : UInt32} {count : Nat} {tags : IfdTags n}
    {header other : IfdHeader} {filled otherFilled : IfdTags n}
    (isIfd : IsIfd outside memory exifBinary offset count tags header filled)
    (isOther : IsIfd outside memory (exifBinary.resize size) offset count tags other
      otherFilled) :
    header = other ∧ filled = otherFilled := by
  have sameHeader := isIfd.isHeader.resize_unique isOther.isHeader
  subst sameHeader
  refine ⟨rfl, ?_⟩
  rw [isIfd.filled_eq, isOther.filled_eq]
  have sameData : exifBinary.data = (exifBinary.resize size).data := rfl
  have sameOrder : exifBinary.binaryIo = (exifBinary.resize size).binaryIo := rfl
  exact IfdTags.after_congr sameData sameOrder count tags header.count.toNat

/-! ## Stages -/

theorem IsMain.resize_unique (isMain : IsMain outside memory exifBinary first)
    (isOther : IsMain outside memory (exifBinary.resize size) second) :
    second = first.resize size := by
  rcases isMain with ⟨tiffHeader, directory⟩
  rcases isOther with ⟨otherTiffHeader, otherDirectory⟩
  rcases tiffHeader.unique otherTiffHeader with ⟨rfl, rfl⟩
  rcases directory.resize_unique otherDirectory with ⟨rfl, rfl⟩
  rfl

theorem IsExif.resize_unique (isExif : IsExif outside memory exifBinary first)
    (isOther : IsExif outside memory (exifBinary.resize size) second) :
    second = first.resize size := by
  rcases isExif with zero | ⟨nonzero, -, directory⟩
  · rcases isOther with - | ⟨nonzero, -, -⟩
    · rfl
    · exact absurd zero nonzero
  · rcases isOther with zero | ⟨-, -, otherDirectory⟩
    · exact absurd zero nonzero
    · rcases directory.resize_unique otherDirectory with ⟨rfl, rfl⟩
      rfl

/-! ## The maker note -/

/-- An analysis that leaves a maker note has got through both directories in
front of the thumbnail, whatever it returns. -/
theorem run_analyse_makerNote {data : Nat} {size : UInt64} {status : JpegStatus}
    (analysed : (analyse outside data size).run memory = (status, exifBinary))
    (note : exifBinary.makerNoteTag.size ≠ 0) :
    ∃ first second, IsMain outside memory (.init data size.toUInt32) first ∧
      IsExif outside memory first second ∧
      exifBinary.data = second.data ∧ exifBinary.makerNoteTag = second.makerNoteTag := by
  cases status with
  | ok =>
      rcases run_analyse_ok analysed with ⟨first, second, isMain, isExif, isThumbnail⟩
      refine ⟨first, second, isMain, isExif, isThumbnail.same.1, ?_⟩
      cases isThumbnail <;> rfl
  | invalidFormat =>
      have broken := (run_analyse_invalidFormat_iff note).mp analysed
      rcases broken.directories with ⟨first, isMain, isExif⟩
      exact ⟨first, exifBinary, isMain, isExif, rfl, rfl⟩

/-- Two analyses that leave a maker note leave the same one. -/
theorem analyse_makerNoteTag_unique {data : Nat} {firstSize secondSize : UInt64}
    {firstStatus secondStatus : JpegStatus}
    (firstAnalysed : (analyse outside data firstSize).run memory = (firstStatus, first))
    (secondAnalysed : (analyse outside data secondSize).run memory = (secondStatus, second))
    (firstNote : first.makerNoteTag.size ≠ 0) (secondNote : second.makerNoteTag.size ≠ 0) :
    first.data = second.data ∧ first.makerNoteTag = second.makerNoteTag := by
  rcases run_analyse_makerNote firstAnalysed firstNote with
      ⟨firstMain, firstExif, isMain, isExif, sameData, sameTag⟩
  rcases run_analyse_makerNote secondAnalysed secondNote with
      ⟨otherMain, otherExif, isOtherMain, isOtherExif, otherData, otherTag⟩
  have main : otherMain = firstMain.resize secondSize.toUInt32 := isMain.resize_unique isOtherMain
  subst main
  have exif : otherExif = firstExif.resize secondSize.toUInt32 := isExif.resize_unique isOtherExif
  subst exif
  exact ⟨sameData.trans otherData.symm, sameTag.trans otherTag.symm⟩

/-- The maker note that `ExtractMakerNote` hands to `VerifyMAC` is the one that
`VerifyMakerNote` extracts again from the Exif region. -/
theorem signedMakerNote_eq_extracted (outside : UInt8) (memory : Memory) (jpeg : Nat)
    (jpegSize : UInt64) {offset size : UInt64} {region makerNote : Nat}
    {exifSize makerNoteSize : UInt32}
    (signed : (extractMakerNote outside jpeg jpegSize).run memory = .ok (offset, size))
    (extracted : (extractExifRegion jpeg jpegSize.toUInt32).run memory =
      (0, some (region, exifSize)))
    (found : ((analyse outside region exifSize.toUInt64).run memory).2.extractMakerNote.run
      memory = some (makerNote, makerNoteSize)) :
    makerNote = jpeg + offset.toNat ∧ makerNoteSize.toUInt64 = size := by
  rcases run_extractMakerNote_ok_iff.mp signed with
      ⟨-, -, exifBinary, broken, note, rfl, rfl, -⟩
  have analysed := (run_analyse_invalidFormat_iff note).mpr broken
  rcases run_extractExifRegion_iff.mp extracted with ⟨-, -, rfl, -⟩
  rw [run_extractMakerNote] at found
  split at found
  · cases found
  · rename_i used
    cases found
    rcases analyse_makerNoteTag_unique analysed (by rfl) note used with ⟨sameData, sameTag⟩
    have bound := exifBinary.makerNoteTag.offset.toNat_lt
    have position : (UInt64.ofNat (0xc + exifBinary.makerNoteTag.offset.toNat)).toNat =
        0xc + exifBinary.makerNoteTag.offset.toNat := by
      rw [UInt64.toNat_ofNat']
      omega
    rw [← sameData, ← sameTag, broken.same.1, position]
    exact ⟨by omega, rfl⟩

end

theorem signedMakerNote_eq_extracted_forgedJpeg :
    0x110c = 0x1000 + (0x10c : UInt64).toNat ∧ (0x40 : UInt32).toUInt64 = 0x40 := by
  have signed : (extractMakerNote 0 0x1000 0x400).run forgedJpeg = .ok (0x10c, 0x40) := by
    decide +kernel
  have found : ((analyse 0 0x100c (0x2f8 : UInt32).toUInt64).run
      forgedJpeg).2.extractMakerNote.run forgedJpeg = some (0x110c, 0x40) := by
    decide +kernel
  exact signedMakerNote_eq_extracted 0 forgedJpeg 0x1000 0x400 signed (by decide) found

end Capsrv.Image
