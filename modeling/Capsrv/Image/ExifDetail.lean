import Mathlib.Data.List.FinRange
import Mathlib.Data.Fin.VecNotation
import Capsrv.Foundation.ByteReader

/-! # Exif directories

The TIFF header, the image file directories and the Exif region of a JPEG, as
`exif_detail.cpp` reads them. A pointer is an address, with null the address
zero, and pointer arithmetic is exact; everything the source keeps in a `u16`
or `u32` wraps around as it does there.
-/

namespace Capsrv.Image

open Capsrv

/-! ## Byte order -/

/-- The functions `ReadTiffHeader` puts into a `BinaryIo`. -/
inductive BinaryIo where
  | motorola
  | intel
deriving DecidableEq, Repr

namespace BinaryIo

def u16 (binaryIo : BinaryIo) (first second : UInt8) : UInt16 :=
  match binaryIo with
  | motorola => UInt16.ofNat (first.toNat * 0x100 + second.toNat)
  | intel => UInt16.ofNat (second.toNat * 0x100 + first.toNat)

def u32 (binaryIo : BinaryIo) (first second third fourth : UInt8) : UInt32 :=
  match binaryIo with
  | motorola => UInt32.ofNat
      (first.toNat * 0x1000000 + second.toNat * 0x10000 + third.toNat * 0x100 + fourth.toNat)
  | intel => UInt32.ofNat
      (fourth.toNat * 0x1000000 + third.toNat * 0x10000 + second.toNat * 0x100 + first.toNat)

def getU16 (binaryIo : BinaryIo) (src : Nat) : ByteReader UInt16 := do
  let first ← ByteReader.byte src
  let second ← ByteReader.byte (src + 1)
  return binaryIo.u16 first second

def getU32 (binaryIo : BinaryIo) (src : Nat) : ByteReader UInt32 := do
  let first ← ByteReader.byte src
  let second ← ByteReader.byte (src + 1)
  let third ← ByteReader.byte (src + 2)
  let fourth ← ByteReader.byte (src + 3)
  return binaryIo.u32 first second third fourth

/-- The byte order behind a magic, which the source compares as a host word. -/
def ofMagic (magic : UInt16) : Option BinaryIo :=
  if magic = 0x4d4d then some motorola
  else if magic = 0x4949 then some intel
  else none

/-- The halfword at an address of `memory`. -/
def halfAt (binaryIo : BinaryIo) (memory : Memory) (src : Nat) : UInt16 :=
  binaryIo.u16 (memory src) (memory (src + 1))

/-- The word at an address of `memory`. -/
def wordAt (binaryIo : BinaryIo) (memory : Memory) (src : Nat) : UInt32 :=
  binaryIo.u32 (memory src) (memory (src + 1)) (memory (src + 2)) (memory (src + 3))

variable {memory : Memory} {start stop : Nat}

@[simp] theorem run_getU16 (binaryIo : BinaryIo) (src : Nat) :
    (binaryIo.getU16 src).run memory = binaryIo.halfAt memory src := by
  simp [getU16, halfAt]

@[simp] theorem run_getU32 (binaryIo : BinaryIo) (src : Nat) :
    (binaryIo.getU32 src).run memory = binaryIo.wordAt memory src := by
  simp [getU32, wordAt]

@[simp] theorem within_getU16 (binaryIo : BinaryIo) (src : Nat) :
    (binaryIo.getU16 src).Within memory start stop ↔ start ≤ src ∧ src + 2 ≤ stop := by
  simp only [getU16, ByteReader.within_bind, ByteReader.within_byte, ByteReader.within_pure,
    and_true]
  omega

@[simp] theorem within_getU32 (binaryIo : BinaryIo) (src : Nat) :
    (binaryIo.getU32 src).Within memory start stop ↔ start ≤ src ∧ src + 4 ≤ stop := by
  simp only [getU32, ByteReader.within_bind, ByteReader.within_byte, ByteReader.within_pure,
    and_true]
  omega

end BinaryIo

/-! ## Directories and tags -/

/-- `DataFormat`. A format read from a file can be any `u16`. -/
abbrev DataFormat := UInt16

namespace DataFormat

def asciiStrings : DataFormat := 2
def unsignedShort : DataFormat := 3
def unsignedLong : DataFormat := 4
def undefined : DataFormat := 7

end DataFormat

/-- `DataFormatSize[format - 1]`, where format zero reads the byte in front of
the table. -/
def dataFormatSize (outside : UInt8) (format : DataFormat) : UInt8 :=
  (outside :: [1, 1, 2, 4, 8, 1, 1, 2, 4, 8, 4, 8]).getD format.toNat 0

theorem dataFormatSize_unsignedLong (outside : UInt8) :
    dataFormatSize outside .unsignedLong = 4 := rfl

structure IfdHeader where
  offset : UInt16
  count : UInt16
  size : UInt16
deriving DecidableEq, Repr

/-- `u16 offset` of the loop of `SearchIfdTags`. -/
def IfdHeader.entryOffset (header : IfdHeader) (entryIndex : Nat) : UInt16 :=
  UInt16.ofNat (entryIndex * 0xc + 2 + header.offset.toNat)

/-- A tag slot. Its expected count shares the memory of the two data words. -/
structure IfdTag where
  marker : UInt16
  format : DataFormat
  offset : UInt32
  size : UInt32
deriving DecidableEq, Repr

namespace IfdTag

/-- A slot as it is declared, with its count. -/
def declare (marker : UInt16) (format : DataFormat) (count : UInt32) : IfdTag :=
  ⟨marker, format, count, 0⟩

/-- The union read as `u64 count`. -/
def count (tag : IfdTag) : Nat :=
  tag.offset.toNat + tag.size.toNat * 2 ^ 32

/-- `count = 0` on the union. -/
def clear (tag : IfdTag) : IfdTag :=
  { tag with offset := 0, size := 0 }

end IfdTag

/-- `IfdTag tags[n]`. -/
abbrev IfdTags (n : Nat) := Fin n → IfdTag

/-- `ExifBinary`. Its `binaryIo` and headers are unset in the source until they
are read, and nothing uses them before. -/
structure ExifBinary where
  data : Nat
  size : UInt32
  binaryIo : BinaryIo
  mainHeader : IfdHeader
  mainTags : IfdTags 7
  exifHeader : IfdHeader
  exifTags : IfdTags 4
  thumbnailHeader : IfdHeader
  thumbnailTags : IfdTags 4

namespace ExifBinary

/-- A new `ExifBinary` given its data. The last thumbnail slot has no
initialiser. -/
def init (data : Nat) (size : UInt32) : ExifBinary where
  data := data
  size := size
  binaryIo := .intel
  mainHeader := ⟨0, 0, 0⟩
  mainTags := ![
    .declare 0x010f .asciiStrings 0,
    .declare 0x0110 .asciiStrings 0,
    .declare 0x0112 .unsignedShort 1,
    .declare 0x0131 .asciiStrings 0,
    .declare 0x0132 .asciiStrings 0x14,
    .declare 0x8769 .unsignedLong 1,
    .declare 0x8825 .unsignedLong 1]
  exifHeader := ⟨0, 0, 0⟩
  exifTags := ![
    .declare 0x927c .undefined 0,
    .declare 0xa002 .unsignedShort 1,
    .declare 0xa003 .unsignedShort 1,
    .declare 0xa420 .asciiStrings 0x21]
  thumbnailHeader := ⟨0, 0, 0⟩
  thumbnailTags := ![
    .declare 0x0103 .unsignedShort 1,
    .declare 0x0201 .unsignedLong 1,
    .declare 0x0202 .unsignedLong 1,
    .declare 0 0 0]

@[simp] theorem data_init (data : Nat) (size : UInt32) : (init data size).data = data := rfl

@[simp] theorem size_init (data : Nat) (size : UInt32) : (init data size).size = size := rfl

/-! ### The slots that are read -/

section

variable (exifBinary : ExifBinary)

def makerTag : IfdTag := exifBinary.mainTags 0

def modelTag : IfdTag := exifBinary.mainTags 1

def orientationTag : IfdTag := exifBinary.mainTags 2

def softwareTag : IfdTag := exifBinary.mainTags 3

def dateTimeTag : IfdTag := exifBinary.mainTags 4

/-- Where the Exif directory is. -/
def exifTag : IfdTag := exifBinary.mainTags 5

def makerNoteTag : IfdTag := exifBinary.exifTags 0

def uniqueIdTag : IfdTag := exifBinary.exifTags 3

def compressionTag : IfdTag := exifBinary.thumbnailTags 0

def jpegOffsetTag : IfdTag := exifBinary.thumbnailTags 1

def jpegSizeTag : IfdTag := exifBinary.thumbnailTags 2

end

theorem mainTags_init_exif (data : Nat) (size : UInt32) :
    (init data size).mainTags 5 = .declare 0x8769 .unsignedLong 1 := rfl

end ExifBinary

/-! ## Reading -/

/-- `ReadTiffHeader`: the byte order and the offset of the main directory. -/
def readTiffHeader (ptr : Nat) (maxSize : UInt32) : ByteReader (Option (BinaryIo × UInt32)) := do
  let magic ← BinaryIo.intel.getU16 ptr
  match BinaryIo.ofMagic magic with
  | none => return none
  | some binaryIo =>
      let tagMark ← binaryIo.getU16 (ptr + 2)
      if tagMark ≠ 0x2a then return none
      else
        let offset ← binaryIo.getU32 (ptr + 4)
        if offset < 8 ∨ offset > maxSize - 6 then return none
        else return some (binaryIo, offset)

/-- `u16 headerSize = (count * 3) * 4`. -/
def headerSize (count : UInt16) : UInt16 :=
  UInt16.ofNat (count.toNat * 3 * 4)

/-- `ReadIfdHeader`. -/
def readIfdHeader (offset : UInt32) (exifBinary : ExifBinary) :
    ByteReader (Option IfdHeader) :=
  if offset < 8 ∨ offset > exifBinary.size - 6 then return none
  else do
    let count ← exifBinary.binaryIo.getU16 (exifBinary.data + offset.toNat)
    if offset + (headerSize count).toUInt32 + 6 > exifBinary.size then return none
    else
      let next ← exifBinary.binaryIo.getU32
        (exifBinary.data + (headerSize count ||| 2).toNat + offset.toNat)
      let ifdSize := next.toUInt16
      if ifdSize ≠ 0 ∧ (ifdSize < 8 ∨ ifdSize.toUInt32 > exifBinary.size - 6) then return none
      else return some ⟨offset.toUInt16, count, ifdSize⟩

/-- The first slot up to and including `tags[count]` with the marker. A slot
past the table matches nothing. -/
def findTag (tags : IfdTags n) (count : Nat) (marker : UInt16) : Option (Fin n) :=
  (List.finRange n).find? fun index => index.val ≤ count ∧ (tags index).marker = marker

/-- One turn of the loop of `SearchIfdTags`. -/
def searchIfdEntry (outside : UInt8) (count : Nat) (header : IfdHeader)
    (exifBinary : ExifBinary) (tags : IfdTags n) (entryIndex : Nat) :
    ByteReader (IfdTags n) := do
  let offset := header.entryOffset entryIndex
  let entry := exifBinary.data + offset.toNat
  let marker ← exifBinary.binaryIo.getU16 entry
  match findTag tags count marker with
  | none => return tags
  | some tagIndex =>
      let tag := tags tagIndex
      let format ← exifBinary.binaryIo.getU16 (entry + 2)
      if format ≠ tag.format then return tags
      else
        let componentNumber ← exifBinary.binaryIo.getU32 (entry + 4)
        if componentNumber ≥ 0xffff ∨ (tag.count ≠ 0 ∧ tag.count ≠ componentNumber.toNat) then
          return tags
        else
          let size := (dataFormatSize outside format).toUInt32 * componentNumber
          let value ←
            if size ≤ 4 then pure (offset.toUInt32 + 8)
            else exifBinary.binaryIo.getU32 (entry + 8)
          return Function.update tags tagIndex { tag with offset := value, size := size }

/-- `SearchIfdTags`, which never fails. -/
def searchIfdTags (outside : UInt8) (tags : IfdTags n) (count : Nat) (header : IfdHeader)
    (exifBinary : ExifBinary) : ByteReader (IfdTags n) :=
  if count = 0 then return tags
  else
    (List.range header.count.toNat).foldlM
      (searchIfdEntry outside count header exifBinary) tags

/-! ## The Exif region of a JPEG -/

/-- `CheckSoi`. -/
def checkSoi (soi : Nat) : ByteReader Int := do
  let first ← ByteReader.byte soi
  if first = 0xff then
    let second ← ByteReader.byte (soi + 1)
    return if second = 0xd8 then 0 else -0x20
  else return -0x20

/-- `EXIF_START`. -/
def exifStart : List UInt8 := [0x45, 0x58, 0x49, 0x46, 0, 0]

/-- `GetExifInfo`: the region and the size of the segment behind its marker. -/
def getExifInfo (input : Nat) : ByteReader (Option (Nat × UInt16)) := do
  let first ← ByteReader.byte (input + 2)
  if first = 0xff then
    let second ← ByteReader.byte (input + 3)
    if second = 0xe1 then
      let exifSize ← BinaryIo.motorola.getU16 (input + 4)
      let start ← ByteReader.bytes (input + 6) 6
      return if start = exifStart then some (input + 0xc, exifSize - 8) else none
    else return none
  else return none

/-- `ExtractExifRegion`: a status and, for zero, the region and its size. -/
def extractExifRegion (input : Nat) (size : UInt32) : ByteReader (Int × Option (Nat × UInt32)) :=
  if 1 < size then do
    let res ← checkSoi input
    if res ≠ 0 then return (res, none)
    else
      match ← getExifInfo input with
      | some (region, regionSize) => return (0, some (region, regionSize.toUInt32))
      | none => return (-0x20, none)
  else return (-0x20, none)

end Capsrv.Image
