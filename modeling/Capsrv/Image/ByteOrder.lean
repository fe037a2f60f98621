import Capsrv.Image.LogicalExif

/-! # The byte order of a block

The same content in either byte order is analysed alike and has the same values
extracted, unless the content has no Exif directory: then the header is read as
a pointer, and leads somewhere in one of the orders only.
-/

namespace Capsrv.Image

open Capsrv

/-! ## What is the same -/

structure SameLocation (first second : IfdTag) : Prop where
  offset : first.offset = second.offset
  size : first.size = second.size

/-- The extractors return the same. -/
structure SameValues (first second : ExifBinary) (firstMemory secondMemory : Memory) : Prop where
  maker : first.extractMaker.run firstMemory = second.extractMaker.run secondMemory
  model : first.extractModel.run firstMemory = second.extractModel.run secondMemory
  orientation : first.extractOrientation.run firstMemory =
    second.extractOrientation.run secondMemory
  software : first.extractSoftware.run firstMemory = second.extractSoftware.run secondMemory
  dateTime : first.extractDateTime.run firstMemory = second.extractDateTime.run secondMemory
  makerNote : first.extractMakerNote.run firstMemory = second.extractMakerNote.run secondMemory
  effectiveDimension : first.extractEffectiveDimension.run firstMemory =
    second.extractEffectiveDimension.run secondMemory
  uniqueId : first.extractUniqueId.run firstMemory = second.extractUniqueId.run secondMemory
  thumbnail : first.extractThumbnail.run firstMemory = second.extractThumbnail.run secondMemory

/-- Status, slots and values after two analyses. -/
structure SameAnalysis (first second : JpegStatus × ExifBinary)
    (firstMemory secondMemory : Memory) : Prop where
  status : first.1 = second.1
  main : ∀ slot, SameLocation (first.2.mainTags slot) (second.2.mainTags slot)
  exif : ∀ slot, SameLocation (first.2.exifTags slot) (second.2.exifTags slot)
  thumbnail : ∀ slot, SameLocation (first.2.thumbnailTags slot) (second.2.thumbnailTags slot)
  values : SameValues first.2 second.2 firstMemory secondMemory

/-- The analyses of the block in each order. -/
def OrderIrrelevant (outside : UInt8) (memories : BinaryIo → Memory) (data : Nat)
    (size : UInt64) : Prop :=
  SameAnalysis ((analyse outside data size).run (memories .intel))
    ((analyse outside data size).run (memories .motorola)) (memories .intel)
    (memories .motorola)

/-- In the order of Intel, the header read as a pointer leads to the header of a
directory. -/
def StrayHeader (memories : BinaryIo → Memory) (data : Nat) (size : UInt32)
    (content : LogicalExif) : Prop :=
  content.main.offset.toNat % 0x100 = 0 ∧
    ∃ header, IsIfdHeader (memories .intel)
      { ExifBinary.init data size with binaryIo := .intel } 0x2a49 header

/-! ## Slots that agree -/

section

variable (memories : BinaryIo → Memory)

/-- In either order the slot leads to a value of its format, or to none. -/
def SlotAgrees (data : Nat) (format : DataFormat) (slot : IfdTag) : Prop :=
  slot.size = 0 ∨
    ∃ value : LogicalValue, value.format = format ∧ slot.size.toNat = value.size ∧
      ∀ binaryIo, HoldsBytes (memories binaryIo) (data + slot.offset.toNat)
        (value.bytes binaryIo)

/-- Every slot that is extracted from. -/
structure SlotsAgree (exifBinary : ExifBinary) : Prop where
  main : ∀ slot, SlotAgrees memories exifBinary.data
    ((ExifBinary.init 0 0).mainTags slot).format (exifBinary.mainTags slot)
  exif : ∀ slot, SlotAgrees memories exifBinary.data
    ((ExifBinary.init 0 0).exifTags slot).format (exifBinary.exifTags slot)
  thumbnail : ∀ slot, slot.val < 3 → SlotAgrees memories exifBinary.data
    ((ExifBinary.init 0 0).thumbnailTags slot).format (exifBinary.thumbnailTags slot)

end

section

variable {memories : BinaryIo → Memory} {data : Nat} {slot : IfdTag}

theorem SlotAgrees.half (agrees : SlotAgrees memories data .unsignedShort slot)
    (size : slot.size = 2) :
    BinaryIo.intel.halfAt (memories .intel) (data + slot.offset.toNat) =
      BinaryIo.motorola.halfAt (memories .motorola) (data + slot.offset.toNat) := by
  rcases agrees with empty | ⟨value, format, sameSize, holds⟩
  · rw [size] at empty
    cases empty
  · rw [size] at sameSize
    rcases LogicalValue.exists_short format sameSize.symm with ⟨number, short⟩
    rw [LogicalValue.halfAt_of_short short (holds .intel),
      LogicalValue.halfAt_of_short short (holds .motorola)]

theorem SlotAgrees.word (agrees : SlotAgrees memories data .unsignedLong slot)
    (size : slot.size = 4) :
    BinaryIo.intel.wordAt (memories .intel) (data + slot.offset.toNat) =
      BinaryIo.motorola.wordAt (memories .motorola) (data + slot.offset.toNat) := by
  rcases agrees with empty | ⟨value, format, sameSize, holds⟩
  · rw [size] at empty
    cases empty
  · rw [size] at sameSize
    rcases LogicalValue.exists_long format sameSize.symm with ⟨number, long⟩
    rw [LogicalValue.wordAt_of_long long (holds .intel),
      LogicalValue.wordAt_of_long long (holds .motorola)]

theorem scanText_congr {first second : Memory} {src length : Nat}
    (same : ∀ index ≤ length, first (src + index) = second (src + index)) :
    (scanText src length).run first = (scanText src length).run second := by
  rw [Bool.eq_iff_iff, run_scanText_iff, run_scanText_iff, same length (Nat.le_refl length)]
  apply and_congr_left
  intro _
  constructor
  · intro before index below
    rw [← same index (Nat.le_of_lt below)]
    exact before index below
  · intro before index below
    rw [same index (Nat.le_of_lt below)]
    exact before index below

theorem SlotAgrees.text (agrees : SlotAgrees memories data .asciiStrings slot)
    (nonempty : slot.size ≠ 0) :
    (scanText (data + slot.offset.toNat) (slot.size.toNat - 1)).run (memories .intel) =
      (scanText (data + slot.offset.toNat) (slot.size.toNat - 1)).run (memories .motorola) := by
  rcases agrees with empty | ⟨value, format, sameSize, holds⟩
  · exact absurd empty nonempty
  · have positive : slot.size.toNat ≠ 0 := fun zero => nonempty (UInt32.toNat_inj.mp zero)
    have narrow : unitWidth value.format = 1 := by
      rw [format]
      rfl
    have intel := holds .intel
    have motorola := holds .motorola
    rw [value.bytes_of_narrow narrow] at intel
    have length := value.length_bytes .motorola
    apply scanText_congr
    intro index inside
    rw [intel.getElem (by omega), motorola.getElem (by omega)]

theorem SlotAgrees.extractFixedString {first second : ExifBinary} {length reported : UInt32}
    (agrees : SlotAgrees memories first.data .asciiStrings slot) (positive : length ≠ 0)
    (same : first.data = second.data) :
    (extractFixedString first slot length reported).run (memories .intel) =
      (Capsrv.Image.extractFixedString second slot length reported).run (memories .motorola) := by
  rw [Capsrv.Image.extractFixedString, Capsrv.Image.extractFixedString]
  by_cases size : slot.size = length
  · have text := agrees.text (by rw [size]; exact positive)
    rw [size] at text
    rw [if_neg (not_not.mpr size), if_neg (not_not.mpr size), ByteReader.run_bind,
      ByteReader.run_bind, text, same]
    rfl
  · rw [if_pos size, if_pos size]
    rfl

theorem SlotAgrees.extractString {first second : ExifBinary}
    (agrees : SlotAgrees memories first.data .asciiStrings slot)
    (same : first.data = second.data) :
    (extractString first slot).run (memories .intel) =
      (Capsrv.Image.extractString second slot).run (memories .motorola) := by
  by_cases empty : slot.size = 0
  · rw [Capsrv.Image.extractString, Capsrv.Image.extractString, if_pos empty, if_pos empty]
    rfl
  · rw [extractString_eq empty, extractString_eq empty]
    exact agrees.extractFixedString empty same

theorem run_extractOrientation (exifBinary : ExifBinary) (memory : Memory) :
    exifBinary.extractOrientation.run memory =
      if exifBinary.orientationTag.size ≠ 2 then none
      else
        let num := exifBinary.binaryIo.halfAt memory
          (exifBinary.data + exifBinary.orientationTag.offset.toNat)
        if num ≥ 9 then none else some num := by
  simp only [ExifBinary.extractOrientation, ByteReader.run_ite, ByteReader.run_bind,
    ByteReader.run_pure, BinaryIo.run_getU16]

theorem run_extractThumbnail (exifBinary : ExifBinary) (memory : Memory) :
    exifBinary.extractThumbnail.run memory =
      if exifBinary.compressionTag.size ≠ 2 ∨ exifBinary.jpegOffsetTag.size ≠ 4 ∨
        exifBinary.jpegSizeTag.size ≠ 4 then none
      else if exifBinary.binaryIo.halfAt memory
          (exifBinary.data + exifBinary.compressionTag.offset.toNat) ≠ 6 then none
      else
        let jpegOffset := exifBinary.binaryIo.wordAt memory
          (exifBinary.data + exifBinary.jpegOffsetTag.offset.toNat)
        let jpegSize := exifBinary.binaryIo.wordAt memory
          (exifBinary.data + exifBinary.jpegSizeTag.offset.toNat)
        if jpegOffset + jpegSize > exifBinary.size ∨ jpegOffset > exifBinary.size ∨
          jpegSize > exifBinary.size then none
        else some (exifBinary.data + jpegOffset.toNat, jpegSize) := by
  simp only [ExifBinary.extractThumbnail, ByteReader.run_ite, ByteReader.run_bind,
    ByteReader.run_pure, BinaryIo.run_getU16, BinaryIo.run_getU32]

section

variable {exifBinary : ExifBinary} (agree : SlotsAgree memories exifBinary)
  (intel : exifBinary.binaryIo = .intel)

include agree intel

theorem SlotsAgree.orientation :
    exifBinary.extractOrientation.run (memories .intel) =
      { exifBinary with binaryIo := .motorola }.extractOrientation.run (memories .motorola) := by
  rw [run_extractOrientation, run_extractOrientation, intel]
  change _ = if exifBinary.orientationTag.size ≠ 2 then none else _
  by_cases size : exifBinary.orientationTag.size = 2
  · have value : BinaryIo.intel.halfAt (memories .intel)
        (exifBinary.data + exifBinary.orientationTag.offset.toNat) =
        BinaryIo.motorola.halfAt (memories .motorola)
          (exifBinary.data + exifBinary.orientationTag.offset.toNat) :=
      (agree.main 2).half size
    rw [value]
    rfl
  · rw [if_pos size, if_pos size]

theorem SlotsAgree.extractThumbnail :
    exifBinary.extractThumbnail.run (memories .intel) =
      { exifBinary with binaryIo := .motorola }.extractThumbnail.run (memories .motorola) := by
  rw [run_extractThumbnail, run_extractThumbnail, intel]
  change _ = if exifBinary.compressionTag.size ≠ 2 ∨ exifBinary.jpegOffsetTag.size ≠ 4 ∨
    exifBinary.jpegSizeTag.size ≠ 4 then none else _
  by_cases sizes : exifBinary.compressionTag.size ≠ 2 ∨ exifBinary.jpegOffsetTag.size ≠ 4 ∨
      exifBinary.jpegSizeTag.size ≠ 4
  · rw [if_pos sizes, if_pos sizes]
  · rw [if_neg sizes, if_neg sizes]
    rw [not_or, not_or, not_not, not_not, not_not] at sizes
    have compression : BinaryIo.intel.halfAt (memories .intel)
        (exifBinary.data + exifBinary.compressionTag.offset.toNat) =
        BinaryIo.motorola.halfAt (memories .motorola)
          (exifBinary.data + exifBinary.compressionTag.offset.toNat) :=
      (agree.thumbnail 0 (by decide)).half sizes.1
    have jpegOffset : BinaryIo.intel.wordAt (memories .intel)
        (exifBinary.data + exifBinary.jpegOffsetTag.offset.toNat) =
        BinaryIo.motorola.wordAt (memories .motorola)
          (exifBinary.data + exifBinary.jpegOffsetTag.offset.toNat) :=
      (agree.thumbnail 1 (by decide)).word sizes.2.1
    have jpegSize : BinaryIo.intel.wordAt (memories .intel)
        (exifBinary.data + exifBinary.jpegSizeTag.offset.toNat) =
        BinaryIo.motorola.wordAt (memories .motorola)
          (exifBinary.data + exifBinary.jpegSizeTag.offset.toNat) :=
      (agree.thumbnail 2 (by decide)).word sizes.2.2
    rw [compression, jpegOffset, jpegSize]
    rfl

/-- Slots that agree have the same values extracted. -/
theorem SlotsAgree.sameValues :
    SameValues exifBinary { exifBinary with binaryIo := .motorola } (memories .intel)
      (memories .motorola) where
  maker := (agree.main 0).extractString rfl
  model := (agree.main 1).extractString rfl
  orientation := agree.orientation intel
  software := (agree.main 3).extractString rfl
  dateTime := (agree.main 4).extractFixedString (by decide) rfl
  makerNote := rfl
  effectiveDimension := rfl
  uniqueId := (agree.exif 3).extractFixedString (by decide) rfl
  thumbnail := agree.extractThumbnail intel

end

end

theorem SameAnalysis.of_slotsAgree {memories : BinaryIo → Memory} {status : JpegStatus}
    {exifBinary : ExifBinary} (agree : SlotsAgree memories exifBinary)
    (intel : exifBinary.binaryIo = .intel) :
    SameAnalysis (status, exifBinary) (status, { exifBinary with binaryIo := .motorola })
      (memories .intel) (memories .motorola) where
  status := rfl
  main := fun _ => ⟨rfl, rfl⟩
  exif := fun _ => ⟨rfl, rfl⟩
  thumbnail := fun _ => ⟨rfl, rfl⟩
  values := agree.sameValues intel

/-! ## Filled slots -/

section

variable {memories : BinaryIo → Memory} {data size : Nat} {directory : LogicalDirectory}
variable {next : UInt32} {tag : IfdTag}

/-- What a directory makes of an empty slot agrees. -/
theorem slotAgrees_takeAll (outside : UInt8)
    (encoded : ∀ binaryIo, DirectoryEncoded binaryIo (memories binaryIo) data size directory next)
    (small : size < 0x10000) (empty : tag.size = 0) (known : IsDataFormat tag.format) :
    SlotAgrees memories data tag.format (tag.takeAll outside directory.placed) := by
  rcases takeAll_cases outside known directory.placed with
    ⟨same, -⟩ | ⟨placed, member, takes, filled⟩
  · rw [same]
    exact .inl empty
  · rcases LogicalDirectory.mem_placed_iff.mp member with ⟨index, below, rfl⟩
    have holds := fun binaryIo => ((encoded binaryIo).entry index below).holds_fill outside known
      takes ((encoded binaryIo).toNat_position small below)
    rw [filled]
    exact .inr ⟨_, takes.format, (holds .intel).1, fun binaryIo => (holds binaryIo).2⟩

end

/-! ## The stages -/

namespace LogicalExif

variable (content : LogicalExif) (outside : UInt8) (data : Nat) (size : UInt32)

/-- The binary behind the main directory. -/
def behindMain (binaryIo : BinaryIo) : ExifBinary :=
  mainBinary data size binaryIo (content.main.header content.next)
    (content.main.fill outside (ExifBinary.init data size).mainTags)

/-- The binary behind the Exif directory. -/
def behindExif (directory : LogicalDirectory) (binaryIo : BinaryIo) : ExifBinary :=
  { content.behindMain outside data size binaryIo with
    exifHeader := directory.header 0
    exifTags := directory.fill outside (ExifBinary.init data size).exifTags }

/-- A binary behind the thumbnail directory. -/
def behindThumbnail (exifBinary : ExifBinary) : ExifBinary :=
  match content.thumbnail with
  | none => { exifBinary with
      thumbnailTags := fun index =>
        if index.val < 3 then (exifBinary.thumbnailTags index).clear
        else exifBinary.thumbnailTags index }
  | some directory => { exifBinary with
      thumbnailHeader := directory.header 0
      thumbnailTags := directory.fill outside exifBinary.thumbnailTags }

end LogicalExif

section

variable {outside : UInt8} {binaryIo : BinaryIo} {memory : Memory} {data : Nat} {size : UInt32}
variable {content : LogicalExif} {directory : LogicalDirectory}

theorem BlockEncoded.toUInt32 {size : UInt64}
    (block : BlockEncoded binaryIo memory data size.toNat content) :
    BlockEncoded binaryIo memory data size.toUInt32.toNat content := by
  have small := block.small
  have exact : size.toUInt32.toNat = size.toNat := by
    rw [UInt64.toNat_toUInt32]
    omega
  rw [exact]
  exact block

theorem BlockEncoded.nextInside
    (block : BlockEncoded binaryIo memory data size.toNat content) :
    NextInside size content.next := by
  rw [LogicalExif.next]
  cases thumbnail : content.thumbnail with
  | none => exact .inl rfl
  | some directory =>
      rw [Option.map_some, Option.getD_some]
      exact (block.thumbnail directory thumbnail).frame.nextInside

theorem BlockEncoded.tiffHeader
    (block : BlockEncoded binaryIo memory data size.toNat content) :
    IsTiffHeader memory data size binaryIo content.main.offset := by
  exact ⟨block.magic, block.tagMark, block.mainOffset.symm,
    UInt32.le_iff_toNat_le.mpr block.main.frame.first, block.main.frame.last⟩

theorem BlockEncoded.isMain (outside : UInt8)
    (block : BlockEncoded binaryIo memory data size.toNat content) :
    IsMain outside memory (.init data size) (content.behindMain outside data size binaryIo) := by
  have main : DirectoryEncoded
      ({ ExifBinary.init data size with binaryIo } : ExifBinary).binaryIo memory data size.toNat
      content.main content.next := block.main
  exact .found block.tiffHeader (main.isIfd outside block.small block.nextInside (by decide)
    (declaredTags_main data size).distinct)

/-- The pointer is an entry for its slot. -/
theorem takes_pointer_iff (entry : LogicalEntry) :
    (IfdTag.declare 0x8769 .unsignedLong 1).Takes entry.ifdEntry ↔ entry.IsPointer := by
  have single : (IfdTag.declare 0x8769 .unsignedLong 1).count = 1 := by decide
  constructor
  · intro takes
    rcases takes.counts.2 with zero | same
    · rw [single] at zero
      cases zero
    · exact ⟨takes.marker, takes.format, UInt32.toNat_inj.mp (same.symm.trans single)⟩
  · intro isPointer
    rcases isPointer with ⟨marker, format, count⟩
    refine ⟨marker, format, ?_, .inr ?_⟩
    · change entry.value.count < 0xffff
      rw [count]
      decide
    · change (IfdTag.declare 0x8769 .unsignedLong 1).count = entry.value.count.toNat
      rw [count, single]
      rfl

/-- Without an Exif directory the slot of the pointer is as declared. -/
theorem LogicalExif.exifTag_of_absent (outside : UInt8) (absent : content.exif = none) :
    (content.behindMain outside data size binaryIo).exifTag.offset = 1 := by
  have known : IsDataFormat (IfdTag.declare 0x8769 .unsignedLong 1).format := by decide
  have slot : (content.behindMain outside data size binaryIo).exifTag =
      (IfdTag.declare 0x8769 .unsignedLong 1).takeAll outside content.main.placed := rfl
  rcases takeAll_cases outside known content.main.placed with
    ⟨same, -⟩ | ⟨placed, member, takes, -⟩
  · rw [slot, same]
    rfl
  · rcases LogicalDirectory.mem_placed_iff.mp member with ⟨index, below, rfl⟩
    have isPointer := (takes_pointer_iff _).mp takes
    rcases content.pointer _ (List.getElem_mem below) isPointer with ⟨directory, present, -⟩
    rw [absent] at present
    cases present

/-- With one, the slot leads to its offset. -/
theorem BlockEncoded.exifTag_of_present (outside : UInt8)
    (block : BlockEncoded binaryIo memory data size.toNat content)
    (present : content.exif = some directory) :
    (content.behindMain outside data size binaryIo).exifTag.offset ≠ 0 ∧
      (content.behindMain outside data size binaryIo).exifOffset memory = directory.offset := by
  have known : IsDataFormat (IfdTag.declare 0x8769 .unsignedLong 1).format := by decide
  have slot : (content.behindMain outside data size binaryIo).exifTag =
      (IfdTag.declare 0x8769 .unsignedLong 1).takeAll outside content.main.placed := rfl
  rcases takeAll_cases outside known content.main.placed with
    ⟨-, refused⟩ | ⟨placed, member, takes, filled⟩
  · have given : content.exif ≠ none := by
      rw [present]
      exact Option.some_ne_none directory
    rcases content.pointed given with ⟨entry, member, isPointer⟩
    rcases List.getElem_of_mem member with ⟨index, below, rfl⟩
    exact absurd ((takes_pointer_iff _).mpr isPointer)
      (refused _ (LogicalDirectory.mem_placed_iff.mpr ⟨index, below, rfl⟩))
  · rcases LogicalDirectory.mem_placed_iff.mp member with ⟨index, below, rfl⟩
    have isPointer := (takes_pointer_iff _).mp takes
    have position := block.main.toNat_position block.small below
    have holds := ((block.main.entry index below).holds_fill outside known takes position).2
    rcases content.pointer _ (List.getElem_mem below) isPointer with ⟨other, isOther, long⟩
    rw [present] at isOther
    cases isOther
    have four : (content.main.entries[index].ifdEntry.size outside).toNat ≤ 4 := by
      rw [IfdEntry.size, takes.format]
      change ((dataFormatSize outside .unsignedLong).toUInt32 *
        content.main.entries[index].value.count).toNat ≤ 4
      rw [isPointer.2.2, dataFormatSize_unsignedLong]
      decide
    rw [ExifBinary.exifOffset, slot, filled]
    constructor
    · exact IfdTag.offset_fill_ne_zero four
    · exact LogicalValue.wordAt_of_long long holds

theorem BlockEncoded.isExif (outside : UInt8)
    (block : BlockEncoded binaryIo memory data size.toNat content)
    (present : content.exif = some directory) :
    IsExif outside memory (content.behindMain outside data size binaryIo)
      (content.behindExif outside data size directory binaryIo) := by
  rcases block.exifTag_of_present outside present with ⟨nonzero, leads⟩
  have exif : DirectoryEncoded (content.behindMain outside data size binaryIo).binaryIo memory data
      size.toNat directory 0 := block.exif directory present
  have fits := exif.frame.fits
  apply IsExif.found nonzero
  · rw [leads, UInt32.lt_iff_toNat_lt]
    exact Nat.lt_of_lt_of_le (by omega) fits
  · rw [leads]
    exact exif.isIfd outside block.small (.inl rfl) (by decide)
      (declaredTags_exif data size).distinct

/-- The thumbnail directory is found behind any Exif stage. -/
theorem BlockEncoded.isThumbnail (outside : UInt8)
    (block : BlockEncoded binaryIo memory data size.toNat content) {second : ExifBinary}
    (isExif : IsExif outside memory (content.behindMain outside data size binaryIo) second) :
    IsThumbnail outside memory second (content.behindThumbnail outside second) := by
  have sameData : second.data = data := isExif.same.1
  have sameSize : second.size = size := isExif.same.2
  have sameOrder : second.binaryIo = binaryIo := by cases isExif <;> rfl
  have sameHeader : second.mainHeader = content.main.header content.next := by cases isExif <;> rfl
  have sameTags : second.thumbnailTags = (ExifBinary.init data size).thumbnailTags := by
    cases isExif <;> rfl
  have next : second.mainHeader.size = content.next.toUInt16 := by
    rw [sameHeader]
    rfl
  rw [LogicalExif.behindThumbnail]
  cases thumbnail : content.thumbnail with
  | none =>
      apply IsThumbnail.absent
      rw [next, LogicalExif.next, thumbnail]
      rfl
  | some directory =>
      have encoded := block.thumbnail directory thumbnail
      have offset : content.next = directory.offset := by
        rw [LogicalExif.next, thumbnail]
        rfl
      rcases encoded.frame.toUInt16_offset block.small with ⟨nonzero, wide⟩
      rw [← offset, ← next] at nonzero wide
      apply IsThumbnail.found nonzero
      rw [wide, offset]
      rw [← sameOrder, ← sameData, ← sameSize] at encoded
      apply encoded.isIfd outside _ (.inl rfl) (by decide)
      · rw [sameTags]
        exact (declaredTags_thumbnail data size).distinct
      · rw [sameSize]
        exact block.small

end

/-! ## Both orders -/

section

variable {outside : UInt8} {memories : BinaryIo → Memory} {data : Nat} {size : UInt32}
variable {content : LogicalExif} {directory : LogicalDirectory}
variable (encoded : ∀ binaryIo, BlockEncoded binaryIo (memories binaryIo) data size.toNat content)

include encoded

theorem main_agrees (outside : UInt8) (slot : Fin 7) :
    SlotAgrees memories data ((ExifBinary.init 0 0).mainTags slot).format
      (content.main.fill outside (ExifBinary.init data size).mainTags slot) := by
  have declared := declaredTags_main data size
  apply slotAgrees_takeAll outside (fun binaryIo => (encoded binaryIo).main) (encoded .intel).small
  · exact declared.empty slot slot.isLt
  · exact (declared.formats slot slot.isLt).isDataFormat

theorem exif_agrees (outside : UInt8) (present : content.exif = some directory) (slot : Fin 4) :
    SlotAgrees memories data ((ExifBinary.init 0 0).exifTags slot).format
      (directory.fill outside (ExifBinary.init data size).exifTags slot) := by
  have declared := declaredTags_exif data size
  apply slotAgrees_takeAll outside (fun binaryIo => (encoded binaryIo).exif directory present)
    (encoded .intel).small
  · exact declared.empty slot slot.isLt
  · exact (declared.formats slot slot.isLt).isDataFormat

theorem thumbnail_agrees (outside : UInt8) (present : content.thumbnail = some directory)
    (slot : Fin 4) (used : slot.val < 3) :
    SlotAgrees memories data ((ExifBinary.init 0 0).thumbnailTags slot).format
      (directory.fill outside (ExifBinary.init data size).thumbnailTags slot) := by
  have declared := declaredTags_thumbnail data size
  apply slotAgrees_takeAll outside (fun binaryIo => (encoded binaryIo).thumbnail directory present)
    (encoded .intel).small
  · exact declared.empty slot used
  · exact (declared.formats slot used).isDataFormat

/-- The slots behind the main directory agree, those of the others are empty. -/
theorem slotsAgree_behindMain (outside : UInt8) :
    SlotsAgree memories (content.behindMain outside data size .intel) := by
  constructor
  · exact main_agrees encoded outside
  · intro slot
    exact .inl ((declaredTags_exif data size).empty slot slot.isLt)
  · intro slot used
    exact .inl ((declaredTags_thumbnail data size).empty slot used)

/-- The slots of an accepted block agree. -/
theorem slotsAgree_behindThumbnail (outside : UInt8) (present : content.exif = some directory) :
    SlotsAgree memories (content.behindThumbnail outside
      (content.behindExif outside data size directory .intel)) := by
  have main := main_agrees encoded outside
  have exif := exif_agrees encoded outside present
  rw [LogicalExif.behindThumbnail]
  cases thumbnail : content.thumbnail with
  | none =>
      refine ⟨main, exif, fun slot used => .inl ?_⟩
      dsimp only
      rw [if_pos used]
      rfl
  | some other => exact ⟨main, exif, thumbnail_agrees encoded outside thumbnail⟩

end

section

variable {outside : UInt8} {memories : BinaryIo → Memory} {data : Nat} {size : UInt64}
variable {content : LogicalExif} {directory : LogicalDirectory}
variable (encoded : ∀ binaryIo,
  BlockEncoded binaryIo (memories binaryIo) data size.toUInt32.toNat content)

include encoded

/-- With an Exif directory both orders are accepted, and lead to the same. -/
theorem orderIrrelevant_of_present (outside : UInt8) (present : content.exif = some directory) :
    OrderIrrelevant outside memories data size := by
  have ends : ∀ binaryIo, (analyse outside data size).run (memories binaryIo) =
      (.ok, content.behindThumbnail outside
        (content.behindExif outside data size.toUInt32 directory binaryIo)) := by
    intro binaryIo
    have isMain := (encoded binaryIo).isMain outside
    have isExif := (encoded binaryIo).isExif outside present
    have isThumbnail := (encoded binaryIo).isThumbnail outside isExif
    exact run_analyse_iff.mpr (.ok isMain isExif isThumbnail)
  have same : content.behindThumbnail outside
        (content.behindExif outside data size.toUInt32 directory .motorola) =
      { content.behindThumbnail outside
          (content.behindExif outside data size.toUInt32 directory .intel) with
        binaryIo := .motorola } := by
    rw [LogicalExif.behindThumbnail, LogicalExif.behindThumbnail]
    cases content.thumbnail <;> rfl
  have intel : (content.behindThumbnail outside
      (content.behindExif outside data size.toUInt32 directory .intel)).binaryIo = .intel := by
    rw [LogicalExif.behindThumbnail]
    cases content.thumbnail <;> rfl
  rw [OrderIrrelevant, ends, ends, same]
  exact .of_slotsAgree (slotsAgree_behindThumbnail encoded outside present) intel

/-- Without one, the order of Motorola is refused. -/
theorem run_analyse_motorola (outside : UInt8) (absent : content.exif = none) :
    (analyse outside data size).run (memories .motorola) =
      (.invalidFormat, content.behindMain outside data size.toUInt32 .motorola) := by
  have block := encoded .motorola
  have fits := block.main.frame.fits
  apply run_analyse_iff.mpr
  apply AnalyseEnds.noExif (block.isMain outside)
  intro second isExif
  have tiffHeader : IsTiffHeader (memories .motorola)
      (content.behindMain outside data size.toUInt32 .motorola).data
      (content.behindMain outside data size.toUInt32 .motorola).size .motorola
      content.main.offset := block.tiffHeader
  have stray := (tiffHeader.isExif_iff rfl (Nat.le_trans (by omega) fits) block.small
    (content.exifTag_of_absent outside absent)).mp isExif
  cases stray.1

/-- The order of Intel is accepted with a stray directory, and refused without. -/
theorem run_analyse_intel (outside : UInt8) (absent : content.exif = none) :
    (StrayHeader memories data size.toUInt32 content →
      ((analyse outside data size).run (memories .intel)).1 = .ok) ∧
    (¬ StrayHeader memories data size.toUInt32 content →
      (analyse outside data size).run (memories .intel) =
        (.invalidFormat, content.behindMain outside data size.toUInt32 .intel)) := by
  have block := encoded .intel
  have fits := block.main.frame.fits
  have isMain := block.isMain outside
  have tiffHeader : IsTiffHeader (memories .intel)
      (content.behindMain outside data size.toUInt32 .intel).data
      (content.behindMain outside data size.toUInt32 .intel).size .intel
      content.main.offset := block.tiffHeader
  have isExif_iff : ∀ second, IsExif outside (memories .intel) _ second ↔ _ := fun _ =>
    tiffHeader.isExif_iff rfl (Nat.le_trans (by omega) fits) block.small
      (content.exifTag_of_absent outside absent)
  constructor
  · intro stray
    rcases stray with ⟨aligned, header, isHeader⟩
    have directory : IsIfd outside (memories .intel)
        { ExifBinary.init data size.toUInt32 with binaryIo := .intel } 0x2a49 4
        (ExifBinary.init data size.toUInt32).exifTags header _ := ⟨isHeader, rfl⟩
    have isExif := (isExif_iff _).mpr ⟨rfl, aligned, header, _, directory.congr rfl rfl rfl, rfl⟩
    have ends := run_analyse_iff.mpr (.ok isMain isExif (block.isThumbnail outside isExif))
    rw [ends]
  · intro noStray
    apply run_analyse_iff.mpr
    apply AnalyseEnds.noExif isMain
    intro second isExif
    rcases (isExif_iff second).mp isExif with ⟨-, aligned, exifHeader, exifTags, directory, -⟩
    have moved : IsIfd outside (memories .intel)
        { ExifBinary.init data size.toUInt32 with binaryIo := .intel } 0x2a49 4 _ exifHeader _ :=
      directory.congr rfl rfl rfl
    exact noStray ⟨aligned, exifHeader, moved.isHeader⟩

end

/-- Encoded in either byte order at the same offsets, a content is analysed
alike exactly if it has an Exif directory, or no bytes in the order of Intel
stand in for one. -/
theorem orderIrrelevant_iff (outside : UInt8) (memories : BinaryIo → Memory) (data : Nat)
    (size : UInt64) (content : LogicalExif)
    (encoded : ∀ binaryIo, BlockEncoded binaryIo (memories binaryIo) data size.toNat content) :
    OrderIrrelevant outside memories data size ↔
      content.exif ≠ none ∨ ¬ StrayHeader memories data size.toUInt32 content := by
  have encoded := fun binaryIo => (encoded binaryIo).toUInt32
  cases present : content.exif with
  | some directory =>
      exact iff_of_true (orderIrrelevant_of_present encoded outside present)
        (.inl (Option.some_ne_none directory))
  | none =>
      have motorola := run_analyse_motorola encoded outside present
      rcases run_analyse_intel encoded outside present with ⟨accepted, refused⟩
      constructor
      · intro irrelevant
        refine .inr fun stray => ?_
        have status := irrelevant.status
        rw [accepted stray, motorola] at status
        cases status
      · intro condition
        have noStray := condition.resolve_left (fun other => other rfl)
        rw [OrderIrrelevant, refused noStray, motorola]
        exact .of_slotsAgree (slotsAgree_behindMain encoded outside) rfl

/-! ## An orientation in either order -/

theorem isDataFormat_unsignedShort : IsDataFormat .unsignedShort := by decide

/-- The number one. -/
def orientationValue : LogicalValue where
  format := .unsignedShort
  count := 1
  units := [[0, 1]]
  known := isDataFormat_unsignedShort
  length := rfl
  width := fun unit member => by
    rw [List.mem_singleton.mp member]
    rfl

/-- A main directory at 0x100 with an orientation, and nothing else. -/
def alignedContent : LogicalExif where
  main := ⟨0x100, [⟨0x0112, orientationValue, 0⟩]⟩
  exif := none
  thumbnail := none
  pointer := fun entry member isPointer => by
    rw [List.mem_singleton.mp member] at isPointer
    exact absurd isPointer.1 (by decide)
  pointed := fun present => absurd rfl present

/-- Its bytes. All others are zero, and so those at 0x2a49. -/
def alignedMemories (binaryIo : BinaryIo) : Memory := fun address =>
  match binaryIo with
  | .intel =>
      if address < 0x100 then [0x49, 0x49, 0x2a, 0, 0, 1, 0, 0].getD address 0
      else [1, 0, 0x12, 0x01, 3, 0, 1, 0, 0, 0, 1, 0].getD (address - 0x100) 0
  | .motorola =>
      if address < 0x100 then [0x4d, 0x4d, 0, 0x2a, 0, 0, 1, 0].getD address 0
      else [0, 1, 0x01, 0x12, 0, 3, 0, 0, 0, 1, 0, 1].getD (address - 0x100) 0

theorem encoded_orientation (binaryIo : BinaryIo) :
    EntryEncoded binaryIo (alignedMemories binaryIo) 0 0x3000 0x102
      ⟨0x0112, orientationValue, 0⟩ := by
  cases binaryIo with
  | intel => constructor <;> decide
  | motorola => constructor <;> decide

theorem encoded_alignedMemories (binaryIo : BinaryIo) :
    BlockEncoded binaryIo (alignedMemories binaryIo) 0 0x3000 alignedContent where
  small := by decide
  magic := by cases binaryIo <;> decide
  tagMark := by cases binaryIo <;> decide
  mainOffset := by cases binaryIo <;> decide
  main := by
    constructor
    · cases binaryIo
      · constructor <;> decide
      · constructor <;> decide
    · intro index below
      have first : index = 0 := Nat.lt_one_iff.mp below
      subst first
      exact encoded_orientation binaryIo
  exif := nofun
  thumbnail := nofun

theorem not_orderIrrelevant_alignedMemories :
    ¬ ∀ (outside : UInt8) (memories : BinaryIo → Memory) (data : Nat) (size : UInt64)
        (content : LogicalExif),
      (∀ binaryIo, BlockEncoded binaryIo (memories binaryIo) data size.toNat content) →
      OrderIrrelevant outside memories data size := by
  intro always
  have irrelevant := always 0 alignedMemories 0 0x3000 alignedContent encoded_alignedMemories
  have intel : ((analyse 0 0 0x3000).run (alignedMemories .intel)).1 = .ok := by decide +kernel
  have motorola : ((analyse 0 0 0x3000).run (alignedMemories .motorola)).1 = .invalidFormat := by
    decide +kernel
  have status := irrelevant.status
  rw [intel, motorola] at status
  cases status

theorem orderIrrelevant_iff_alignedMemories :
    OrderIrrelevant 0 alignedMemories 0 0x3000 ↔
      alignedContent.exif ≠ none ∨ ¬ StrayHeader alignedMemories 0 0x3000 alignedContent :=
  orderIrrelevant_iff 0 alignedMemories 0 0x3000 alignedContent encoded_alignedMemories

end Capsrv.Image
