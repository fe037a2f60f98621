import Capsrv.Image.ExifDetail

/-! # The Exif extractor

`ExifExtractor`: the analysis of an Exif block and the values read from it
afterwards.
-/

namespace Capsrv.Image

open Capsrv

inductive JpegStatus where
  | ok
  | invalidFormat
deriving DecidableEq, Repr

namespace JpegStatus

/-- The value of the enumerator, as `Analyse` returns it. -/
def toInt : JpegStatus → Int
  | ok => 0
  | invalidFormat => -0x20

end JpegStatus

/-! ## Analysis

`outside` is the byte in front of `DataFormatSize`. -/

/-- `ReadIfdHeader` and, if it succeeds, `SearchIfdTags` on its directory. -/
def readIfd (outside : UInt8) (offset : UInt32) (tags : IfdTags n) (count : Nat)
    (exifBinary : ExifBinary) : ByteReader (Option (IfdHeader × IfdTags n)) := do
  match ← readIfdHeader offset exifBinary with
  | none => return none
  | some header => return some (header, ← searchIfdTags outside tags count header exifBinary)

/-- `Analyse`: the main directory behind the TIFF header. -/
def analyseMain (outside : UInt8) (exifBinary : ExifBinary) :
    ByteReader (Option ExifBinary) := do
  match ← readTiffHeader exifBinary.data exifBinary.size with
  | none => return none
  | some (binaryIo, offset) =>
      let exifBinary := { exifBinary with binaryIo }
      let directory ← readIfd outside offset exifBinary.mainTags 7 exifBinary
      return directory.map fun (mainHeader, mainTags) =>
        { exifBinary with mainHeader, mainTags }

/-- `Analyse`: the Exif directory. An absent tag leaves the expected count in
the place of its offset. -/
def analyseExif (outside : UInt8) (exifBinary : ExifBinary) :
    ByteReader (Option ExifBinary) := do
  let exifTagDataOffset := exifBinary.exifTag.offset
  if exifTagDataOffset = 0 then
    return some { exifBinary with exifTags := fun index => (exifBinary.exifTags index).clear }
  else
    let exifOffset ← exifBinary.binaryIo.getU32 (exifBinary.data + exifTagDataOffset.toNat)
    if exifBinary.size ≤ exifOffset then return none
    else
      let directory ← readIfd outside exifOffset exifBinary.exifTags 4 exifBinary
      return directory.map fun (exifHeader, exifTags) => { exifBinary with exifHeader, exifTags }

/-- `Analyse`: the thumbnail directory behind the main directory. -/
def analyseThumbnail (outside : UInt8) (exifBinary : ExifBinary) :
    ByteReader (Option ExifBinary) := do
  let exifSize := exifBinary.mainHeader.size
  if exifSize = 0 then
    return some { exifBinary with
      thumbnailTags := fun index =>
        if index.val < 3 then (exifBinary.thumbnailTags index).clear
        else exifBinary.thumbnailTags index }
  else
    let directory ← readIfd outside exifSize.toUInt32 exifBinary.thumbnailTags 3 exifBinary
    return directory.map fun (thumbnailHeader, thumbnailTags) =>
      { exifBinary with thumbnailHeader, thumbnailTags }

/-- `SetExifData(data, size)` and `Analyse()` on a new `ExifBinary`: the status,
and the binary as the analysis leaves it. A stage that fails has filled no tag
slot. -/
def analyse (outside : UInt8) (data : Nat) (size : UInt64) :
    ByteReader (JpegStatus × ExifBinary) := do
  let exifBinary := ExifBinary.init data size.toUInt32
  match ← analyseMain outside exifBinary with
  | none => return (.invalidFormat, exifBinary)
  | some exifBinary =>
      match ← analyseExif outside exifBinary with
      | none => return (.invalidFormat, exifBinary)
      | some exifBinary =>
          match ← analyseThumbnail outside exifBinary with
          | none => return (.invalidFormat, exifBinary)
          | some exifBinary => return (.ok, exifBinary)

/-! ## Extraction

A pointer is returned together with the size; a null pointer is `none`. -/

/-- `length` characters from `src` on, the last of them the only NUL. -/
def scanText (src : Nat) : (length : Nat) → ByteReader Bool
  | 0 => do
      let last ← ByteReader.byte src
      return last = 0
  | length + 1 => do
      let character ← ByteReader.byte src
      if character = 0 then return false else scanText (src + 1) length

/-- A string as long as its tag says. -/
def extractString (exifBinary : ExifBinary) (tag : IfdTag) :
    ByteReader (Option (Nat × UInt32)) :=
  if tag.size = 0 then return none
  else do
    let string := exifBinary.data + tag.offset.toNat
    let terminated ← scanText string (tag.size.toNat - 1)
    return if terminated then some (string, tag.size) else none

/-- A string of one fixed length, for which `reported` is returned. -/
def extractFixedString (exifBinary : ExifBinary) (tag : IfdTag) (length reported : UInt32) :
    ByteReader (Option (Nat × UInt32)) :=
  if tag.size ≠ length then return none
  else do
    let string := exifBinary.data + tag.offset.toNat
    let terminated ← scanText string (length.toNat - 1)
    return if terminated then some (string, reported) else none

namespace ExifBinary

variable (exifBinary : ExifBinary)

def extractMaker : ByteReader (Option (Nat × UInt32)) :=
  extractString exifBinary exifBinary.makerTag

def extractModel : ByteReader (Option (Nat × UInt32)) :=
  extractString exifBinary exifBinary.modelTag

def extractOrientation : ByteReader (Option UInt16) :=
  if exifBinary.orientationTag.size ≠ 2 then return none
  else do
    let num ← exifBinary.binaryIo.getU16
      (exifBinary.data + exifBinary.orientationTag.offset.toNat)
    return if num ≥ 9 then none else some num

def extractSoftware : ByteReader (Option (Nat × UInt32)) :=
  extractString exifBinary exifBinary.softwareTag

def extractDateTime : ByteReader (Option (Nat × UInt32)) :=
  extractFixedString exifBinary exifBinary.dateTimeTag 0x14 0x14

def extractMakerNote : ByteReader (Option (Nat × UInt32)) :=
  let tag := exifBinary.makerNoteTag
  return if tag.size = 0 then none else some (exifBinary.data + tag.offset.toNat, tag.size)

/-- `ExtractEffectiveDimension`, which the source leaves to be done. -/
def extractEffectiveDimension (_exifBinary : ExifBinary) :
    ByteReader (Option (UInt32 × UInt32)) :=
  return none

/-- The reported size is that of a date. -/
def extractUniqueId : ByteReader (Option (Nat × UInt32)) :=
  extractFixedString exifBinary exifBinary.uniqueIdTag 0x21 0x14

def extractThumbnail : ByteReader (Option (Nat × UInt32)) :=
  if exifBinary.compressionTag.size ≠ 2 ∨ exifBinary.jpegOffsetTag.size ≠ 4 ∨
      exifBinary.jpegSizeTag.size ≠ 4 then return none
  else do
    let compression ← exifBinary.binaryIo.getU16 (exifBinary.data + exifBinary.compressionTag.offset.toNat)
    if compression ≠ 6 then return none
    else
      let jpegOffset ← exifBinary.binaryIo.getU32 (exifBinary.data + exifBinary.jpegOffsetTag.offset.toNat)
      let jpegSize ← exifBinary.binaryIo.getU32 (exifBinary.data + exifBinary.jpegSizeTag.offset.toNat)
      let max := exifBinary.size
      return if jpegOffset + jpegSize > max ∨ jpegOffset > max ∨ jpegSize > max then none
        else some (exifBinary.data + jpegOffset.toNat, jpegSize)

end ExifBinary

end Capsrv.Image
