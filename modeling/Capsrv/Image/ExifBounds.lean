import Capsrv.Image.Ifd

/-! # Which bytes the Exif reader reads

The exact condition on a block under which its analysis stays inside it. The
checks of the source are made on `u16` and `u32` values, so a directory of more
than 5461 entries, or a block close to 4 GiB, passes them without fitting.
-/

namespace Capsrv.Image

open Capsrv

section

variable {memory : Memory} {exifBinary : ExifBinary} {stop : Nat}

/-- A header size is a multiple of four. -/
theorem toNat_headerSize_or (count : UInt16) :
    (headerSize count ||| 2).toNat = (headerSize count).toNat + 2 := by
  have multiple : (headerSize count).toNat = 2 ^ 2 * ((headerSize count).toNat / 2 ^ 2) := by
    have remainder : (headerSize count).toNat % 4 = 0 := by
      rw [headerSize, UInt16.toNat_ofNat']
      omega
    omega
  rw [UInt16.toNat_or, multiple]
  exact (Nat.two_pow_add_eq_or_of_lt (by decide : 2 < 2 ^ 2) _).symm

/-! ## The readers -/

def TiffHeaderInside (memory : Memory) (ptr stop : Nat) : Prop :=
  ptr + 2 ≤ stop ∧
    ∀ binaryIo, BinaryIo.ofMagic (BinaryIo.intel.halfAt memory ptr) = some binaryIo →
      ptr + 4 ≤ stop ∧ (binaryIo.halfAt memory (ptr + 2) = 0x2a → ptr + 8 ≤ stop)

/-- What the comparisons of `ReadIfdHeader` let through is inside. -/
def IfdHeaderInside (memory : Memory) (exifBinary : ExifBinary) (offset : UInt32)
    (stop : Nat) : Prop :=
  let count := exifBinary.binaryIo.halfAt memory (exifBinary.data + offset.toNat)
  8 ≤ offset → offset ≤ exifBinary.size - 6 →
    exifBinary.data + offset.toNat + 2 ≤ stop ∧
      (offset + (headerSize count).toUInt32 + 6 ≤ exifBinary.size →
        exifBinary.data + offset.toNat + (headerSize count).toNat + 6 ≤ stop)

structure IfdInside (outside : UInt8) (memory : Memory) (exifBinary : ExifBinary)
    (offset : UInt32) (count : Nat) (tags : IfdTags n) (stop : Nat) : Prop where
  headerInside : IfdHeaderInside memory exifBinary offset stop
  entriesInside : ∀ header, IsIfdHeader memory exifBinary offset header →
    EntriesInside outside memory exifBinary header count tags stop

theorem within_readTiffHeader (ptr : Nat) (maxSize : UInt32) :
    (readTiffHeader ptr maxSize).Within memory ptr stop ↔ TiffHeaderInside memory ptr stop := by
  rw [readTiffHeader, ByteReader.within_bind, BinaryIo.within_getU16, BinaryIo.run_getU16,
    TiffHeaderInside]
  cases magic : BinaryIo.ofMagic (BinaryIo.intel.halfAt memory ptr) with
  | none => simp
  | some binaryIo =>
      simp only [ByteReader.within_bind, BinaryIo.within_getU16, BinaryIo.run_getU16,
        ByteReader.within_ite, ByteReader.within_pure, BinaryIo.within_getU32,
        Option.some.injEq, forall_eq', Nat.le_refl, true_and]
      by_cases tagMark : binaryIo.halfAt memory (ptr + 2) = 0x2a <;> simp [tagMark]

theorem within_readIfdHeader (offset : UInt32) :
    (readIfdHeader offset exifBinary).Within memory exifBinary.data stop ↔
      IfdHeaderInside memory exifBinary offset stop := by
  simp only [readIfdHeader, ByteReader.within_ite, ByteReader.within_pure,
    ByteReader.within_bind, BinaryIo.within_getU16, BinaryIo.run_getU16, BinaryIo.within_getU32,
    toNat_headerSize_or, IfdHeaderInside, not_or, UInt32.not_lt, gt_iff_lt, and_imp,
    implies_true, true_and, and_true]
  constructor
  · intro inside first last
    rcases inside first last with ⟨countInside, sizeInside⟩
    exact ⟨countInside.2, fun fits => by have := (sizeInside fits).2; omega⟩
  · intro inside first last
    rcases inside first last with ⟨countInside, sizeInside⟩
    exact ⟨⟨by omega, countInside⟩, fun fits => ⟨by omega, by have := sizeInside fits; omega⟩⟩

theorem within_readIfd (outside : UInt8) (offset : UInt32) (tags : IfdTags n) {count : Nat}
    (slots : count ≠ 0) :
    (readIfd outside offset tags count exifBinary).Within memory exifBinary.data stop ↔
      IfdInside outside memory exifBinary offset count tags stop := by
  rw [readIfd, ByteReader.within_bind, within_readIfdHeader]
  cases found : (readIfdHeader offset exifBinary).run memory with
  | none =>
      simp only [ByteReader.within_pure, and_true]
      refine ⟨fun headerInside => ⟨headerInside, fun header isHeader => ?_⟩,
        fun inside => inside.headerInside⟩
      cases found.symm.trans (run_readIfdHeader_iff.mpr isHeader)
  | some header =>
      simp only [ByteReader.within_bind, ByteReader.within_pure, and_true,
        within_searchIfdTags outside tags slots]
      constructor
      · rintro ⟨headerInside, entriesInside⟩
        refine ⟨headerInside, fun other isHeader => ?_⟩
        cases found.symm.trans (run_readIfdHeader_iff.mpr isHeader)
        exact entriesInside
      · intro inside
        exact ⟨inside.headerInside, inside.entriesInside header (run_readIfdHeader_iff.mp found)⟩

/-! ## The analysis -/

structure MainInside (outside : UInt8) (memory : Memory) (exifBinary : ExifBinary)
    (stop : Nat) : Prop where
  tiffHeader : TiffHeaderInside memory exifBinary.data stop
  directory : ∀ binaryIo offset,
    IsTiffHeader memory exifBinary.data exifBinary.size binaryIo offset →
    IfdInside outside memory { exifBinary with binaryIo } offset 7 exifBinary.mainTags stop

structure ExifInside (outside : UInt8) (memory : Memory) (exifBinary : ExifBinary)
    (stop : Nat) : Prop where
  pointer : exifBinary.data + exifBinary.exifTag.offset.toNat + 4 ≤ stop
  directory : exifBinary.exifOffset memory < exifBinary.size →
    IfdInside outside memory exifBinary (exifBinary.exifOffset memory) 4 exifBinary.exifTags stop

def ThumbnailInside (outside : UInt8) (memory : Memory) (exifBinary : ExifBinary)
    (stop : Nat) : Prop :=
  IfdInside outside memory exifBinary exifBinary.mainHeader.size.toUInt32 3
    exifBinary.thumbnailTags stop

/-- Everything the analysis gets to is inside. -/
structure AnalysisInside (outside : UInt8) (memory : Memory) (data : Nat) (size : UInt64)
    (stop : Nat) : Prop where
  main : MainInside outside memory (.init data size.toUInt32) stop
  exif : ∀ first, IsMain outside memory (.init data size.toUInt32) first →
    first.exifTag.offset ≠ 0 → ExifInside outside memory first stop
  thumbnail : ∀ first second, IsMain outside memory (.init data size.toUInt32) first →
    IsExif outside memory first second →
    second.mainHeader.size ≠ 0 → ThumbnailInside outside memory second stop

theorem within_analyseMain (outside : UInt8) :
    (analyseMain outside exifBinary).Within memory exifBinary.data stop ↔
      MainInside outside memory exifBinary stop := by
  rw [analyseMain, ByteReader.within_bind, within_readTiffHeader]
  cases tiff : (readTiffHeader exifBinary.data exifBinary.size).run memory with
  | none =>
      simp only [ByteReader.within_pure, and_true]
      refine ⟨fun tiffHeader => ⟨tiffHeader, fun binaryIo offset isHeader => ?_⟩,
        fun inside => inside.tiffHeader⟩
      cases tiff.symm.trans (run_readTiffHeader_iff.mpr isHeader)
  | some start =>
      rcases start with ⟨binaryIo, offset⟩
      have directory : (readIfd outside offset exifBinary.mainTags 7
            { exifBinary with binaryIo }).Within memory exifBinary.data stop ↔
          IfdInside outside memory { exifBinary with binaryIo } offset 7 exifBinary.mainTags
            stop := within_readIfd outside offset exifBinary.mainTags (by decide)
      simp only [ByteReader.within_bind, ByteReader.within_pure, directory, and_true]
      constructor
      · rintro ⟨tiffHeader, directory⟩
        refine ⟨tiffHeader, fun otherIo otherOffset isHeader => ?_⟩
        cases tiff.symm.trans (run_readTiffHeader_iff.mpr isHeader)
        exact directory
      · intro inside
        exact ⟨inside.tiffHeader, inside.directory _ _ (run_readTiffHeader_iff.mp tiff)⟩

theorem within_analyseExif (outside : UInt8) :
    (analyseExif outside exifBinary).Within memory exifBinary.data stop ↔
      (exifBinary.exifTag.offset ≠ 0 → ExifInside outside memory exifBinary stop) := by
  have directory : ∀ offset, (readIfd outside offset exifBinary.exifTags 4 exifBinary).Within
        memory exifBinary.data stop ↔
      IfdInside outside memory exifBinary offset 4 exifBinary.exifTags stop :=
    fun offset => within_readIfd outside offset exifBinary.exifTags (by decide)
  simp only [analyseExif, ByteReader.within_ite, ByteReader.within_pure, ByteReader.within_bind,
    BinaryIo.within_getU32, BinaryIo.run_getU32, ← ExifBinary.exifOffset_eq, directory,
    implies_true, true_and, and_true, UInt32.not_le]
  refine imp_congr_right fun nonzero => ?_
  constructor
  · rintro ⟨⟨-, pointer⟩, directory⟩
    exact ⟨pointer, directory⟩
  · rintro ⟨pointer, directory⟩
    exact ⟨⟨Nat.le_add_right _ _, pointer⟩, directory⟩

theorem within_analyseThumbnail (outside : UInt8) :
    (analyseThumbnail outside exifBinary).Within memory exifBinary.data stop ↔
      (exifBinary.mainHeader.size ≠ 0 → ThumbnailInside outside memory exifBinary stop) := by
  have directory : ∀ offset, (readIfd outside offset exifBinary.thumbnailTags 3
        exifBinary).Within memory exifBinary.data stop ↔
      IfdInside outside memory exifBinary offset 3 exifBinary.thumbnailTags stop :=
    fun offset => within_readIfd outside offset exifBinary.thumbnailTags (by decide)
  simp only [analyseThumbnail, ByteReader.within_ite, ByteReader.within_pure,
    ByteReader.within_bind, directory, implies_true, true_and, and_true]
  rfl

end

/-- The analysis reads inside its block exactly if everything it gets to is
inside. -/
theorem analyse_within_iff (outside : UInt8) (memory : Memory) (data : Nat) (size : UInt64) :
    (analyse outside data size).Within memory data (data + size.toNat) ↔
      AnalysisInside outside memory data size (data + size.toNat) := by
  have mainInside : (analyseMain outside (.init data size.toUInt32)).Within memory data
        (data + size.toNat) ↔
      MainInside outside memory (.init data size.toUInt32) (data + size.toNat) :=
    within_analyseMain outside
  rw [analyse, ByteReader.within_bind, mainInside]
  cases main : (analyseMain outside (.init data size.toUInt32)).run memory with
  | none =>
      have noMain : ∀ first, ¬ IsMain outside memory (.init data size.toUInt32) first :=
        fun first isMain => by cases main.symm.trans (run_analyseMain_iff.mpr isMain)
      simp only [ByteReader.within_pure, and_true]
      exact ⟨fun inside => ⟨inside, fun first isMain => absurd isMain (noMain first),
        fun first second isMain => absurd isMain (noMain first)⟩, fun inside => inside.main⟩
  | some first =>
      have isMain := run_analyseMain_iff.mp main
      have sameData : first.data = data := isMain.same.1
      have exifInside : (analyseExif outside first).Within memory first.data
            (data + size.toNat) ↔ _ := within_analyseExif outside
      rw [sameData] at exifInside
      simp only [ByteReader.within_bind, exifInside]
      cases exif : (analyseExif outside first).run memory with
      | none =>
          simp only [ByteReader.within_pure, and_true]
          constructor
          · rintro ⟨mainInside, exifInside⟩
            refine ⟨mainInside, fun other isOther => ?_, fun other second isOther isExif => ?_⟩
            · rw [isOther.unique isMain]
              exact exifInside
            · rw [isOther.unique isMain] at isExif
              cases exif.symm.trans (run_analyseExif_iff.mpr isExif)
          · intro inside
            exact ⟨inside.main, inside.exif first isMain⟩
      | some second =>
          have isExif := run_analyseExif_iff.mp exif
          have sameData : second.data = data := isExif.same.1.trans sameData
          have thumbnailInside : (analyseThumbnail outside second).Within memory second.data
                (data + size.toNat) ↔ _ := within_analyseThumbnail outside
          rw [sameData] at thumbnailInside
          simp only [ByteReader.within_bind, thumbnailInside]
          constructor
          · rintro ⟨mainInside, exifInside, thumbnailInside, -⟩
            refine ⟨mainInside, fun other isOther => ?_, fun other third isOther isOtherExif => ?_⟩
            · rw [isOther.unique isMain]
              exact exifInside
            · rw [isOther.unique isMain] at isOtherExif
              rw [isOtherExif.unique isExif]
              exact thumbnailInside
          · intro inside
            refine ⟨inside.main, inside.exif first isMain,
              inside.thumbnail first second isMain isExif, ?_⟩
            cases (analyseThumbnail outside second).run memory with
            | none => exact ByteReader.within_pure _
            | some third => exact ByteReader.within_pure _

/-- A block of 22 bytes whose main directory counts 0x1556 entries. Their size
wraps around to eight bytes. -/
def largeDirectory : Memory := fun address =>
  [0x49, 0x49, 0x2a, 0, 8, 0, 0, 0, 0x56, 0x15].getD address 0

/-- The marker of its second entry is looked for behind its end. -/
theorem analyse_not_within_largeDirectory :
    ¬ (analyse 0 0 22).Within largeDirectory 0 22 := by
  intro inside
  have mainInside : MainInside 0 largeDirectory (.init 0 22) 22 :=
    (within_analyseMain 0).mp ((ByteReader.within_bind _ _).mp inside).1
  have directory := mainInside.directory .intel 8
    ⟨by decide, by decide, by decide, by decide, by decide⟩
  have second := directory.entriesInside ⟨8, 0x1556, 0⟩
    ⟨by decide, by decide, by decide, by decide, by decide, by decide, by decide⟩ 1 (by decide)
  exact absurd second (by decide)

/-! ## Blocks without large directories -/

section

variable {outside : UInt8} {memory : Memory} {exifBinary : ExifBinary} {header : IfdHeader}
  {offset : UInt32} {count : Nat}

theorem reach_le (outside : UInt8) (count : Nat) (tags : IfdTags n) (entry : IfdEntry) :
    IfdTags.reach outside tags count entry ≤ 12 := by
  unfold IfdTags.reach
  split
  · omega
  · split
    · omega
    · split <;> omega

/-- Up to 5461 entries, the size of a directory does not wrap around. -/
theorem toNat_headerSize {entries : UInt16} (few : entries.toNat ≤ 5461) :
    (headerSize entries).toNat = entries.toNat * 12 := by
  rw [headerSize, UInt16.toNat_ofNat']
  omega

theorem le_sub_six_iff {size value : UInt32} (least : 6 ≤ size.toNat) :
    value ≤ size - 6 ↔ value.toNat + 6 ≤ size.toNat := by
  have subtraction : (size - 6).toNat = size.toNat - 6 :=
    UInt32.toNat_sub_of_le _ _ (UInt32.le_iff_toNat_le.mpr least)
  rw [UInt32.le_iff_toNat_le, subtraction]
  omega

/-- In a block of reasonable size the comparisons are exact. -/
theorem toNat_ifdEnd {size : UInt32} (small : size.toNat ≤ 2 ^ 32 - 2 ^ 16) (last : offset ≤ size - 6)
    (positive : 8 ≤ size.toNat) (entries : UInt16) :
    offset.toNat + 6 ≤ size.toNat ∧
      (offset + (headerSize entries).toUInt32 + 6).toNat =
        offset.toNat + (headerSize entries).toNat + 6 := by
  have below := (le_sub_six_iff (Nat.le_trans (by decide) positive)).mp last
  have bound := (headerSize entries).toNat_lt
  have six : (6 : UInt32).toNat = 6 := rfl
  rw [UInt32.toNat_add, UInt32.toNat_add, UInt16.toNat_toUInt32, six]
  omega

theorem ifdHeaderInside_of_small (small : exifBinary.size.toNat ≤ 2 ^ 32 - 2 ^ 16)
    (positive : 8 ≤ exifBinary.size.toNat) :
    IfdHeaderInside memory exifBinary offset (exifBinary.data + exifBinary.size.toNat) := by
  intro first last
  rcases toNat_ifdEnd small last positive
      (exifBinary.binaryIo.halfAt memory (exifBinary.data + offset.toNat)) with ⟨below, exact⟩
  refine ⟨by omega, fun fits => ?_⟩
  have fits := UInt32.le_iff_toNat_le.mp fits
  omega

/-- All entries of a directory that fits are inside, although their positions
are cut to sixteen bits. -/
theorem entry_le_of_few (small : exifBinary.size.toNat ≤ 2 ^ 32 - 2 ^ 16)
    (positive : 8 ≤ exifBinary.size.toNat) (isHeader : IsIfdHeader memory exifBinary offset header)
    (few : header.count.toNat ≤ 5461) {index : Nat} (below : index < header.count.toNat) :
    (header.entryOffset index).toNat + 16 ≤ exifBinary.size.toNat := by
  rcases toNat_ifdEnd small isHeader.last positive header.count with ⟨_, exact⟩
  have fits := UInt32.le_iff_toNat_le.mp isHeader.fits
  rw [exact, toNat_headerSize few] at fits
  have position : (header.entryOffset index).toNat ≤ index * 0xc + 2 + header.offset.toNat := by
    rw [IfdHeader.entryOffset, UInt16.toNat_ofNat']
    exact Nat.mod_le _ _
  have start : header.offset.toNat ≤ offset.toNat := by
    rw [isHeader.offset_eq, UInt32.toNat_toUInt16]
    exact Nat.mod_le _ _
  omega

theorem ifdInside_of_few (small : exifBinary.size.toNat ≤ 2 ^ 32 - 2 ^ 16)
    (positive : 8 ≤ exifBinary.size.toNat)
    (few : ∀ header, IsIfdHeader memory exifBinary offset header → header.count.toNat ≤ 5461)
    (tags : IfdTags n) :
    IfdInside outside memory exifBinary offset count tags
      (exifBinary.data + exifBinary.size.toNat) := by
  refine ⟨ifdHeaderInside_of_small small positive, fun header isHeader index below => ?_⟩
  have inside := entry_le_of_few small positive isHeader (few header isHeader) below
  have reach := reach_le outside count
    (IfdTags.after outside memory exifBinary header count tags index)
    (header.entry exifBinary memory index)
  rw [IfdHeader.entryAddress]
  omega

/-- A slot for one component that fits into four bytes is as declared, or it
holds the position behind the eighth byte of an entry. -/
structure InlineSlot (declared tag : IfdTag) (header : IfdHeader) (entries : Nat) : Prop where
  format : tag.format = declared.format
  value : tag = declared ∨ tag.size ≠ 0 ∧ ∃ index < entries,
    tag.offset = (header.entryOffset index).toUInt32 + 8

theorem InlineSlot.mono {declared tag : IfdTag} {entries : Nat}
    (slot : InlineSlot declared tag header entries) :
    InlineSlot declared tag header (entries + 1) := by
  refine ⟨slot.format, slot.value.imp_right fun ⟨filled, index, below, position⟩ => ?_⟩
  exact ⟨filled, index, by omega, position⟩

/-- A filled slot takes no further entry: what is expected of it has become a
number above any count of components. -/
theorem not_counts_of_filled {tag : IfdTag} (filled : tag.size ≠ 0) (componentNumber : UInt32) :
    ¬ tag.Counts componentNumber := by
  rintro ⟨below, expected⟩
  have positive : tag.size.toNat ≠ 0 := fun zero => filled (UInt32.toNat_inj.mp zero)
  have bound := componentNumber.toNat_lt
  rw [IfdTag.count] at expected
  omega

theorem inlineSlot_record {declared : IfdTag} {tags : IfdTags n} {index : Fin n} {entries : Nat}
    (single : declared.count = 1)
    (fits : 0 < (dataFormatSize outside declared.format) ∧
      dataFormatSize outside declared.format ≤ 4)
    (slot : InlineSlot declared (tags index) header entries) (entry : IfdEntry) :
    InlineSlot declared
      (IfdTags.record outside tags count (header.entryOffset entries) entry index) header
      (entries + 1) := by
  rcases IfdTags.record_cases outside tags count (header.entryOffset entries) entry with
      same | ⟨filled, _, sameFormat, counts, record⟩
  · rw [same]
    exact slot.mono
  rw [record]
  by_cases other : index ≠ filled
  · rw [Function.update_of_ne other]
    exact slot.mono
  rcases not_not.mp other with rfl
  rw [Function.update_self]
  rcases slot.value with asDeclared | ⟨nonempty, _⟩
  · have one : entry.componentNumber = 1 := by
      rcases counts with ⟨_, expected⟩
      rw [asDeclared, single] at expected
      exact UInt32.toNat_inj.mp (expected.resolve_left Nat.one_ne_zero).symm
    have size : entry.size outside = (dataFormatSize outside declared.format).toUInt32 := by
      rw [IfdEntry.size, one, sameFormat, slot.format, UInt32.mul_one]
    have inline : entry.size outside ≤ 4 := by
      rw [size, UInt32.le_iff_toNat_le, UInt8.toNat_toUInt32]
      exact UInt8.le_iff_toNat_le.mp fits.2
    refine ⟨slot.format, .inr ⟨?_, entries, by omega, if_pos inline⟩⟩
    intro zero
    have none := congrArg UInt32.toNat (size.symm.trans zero)
    rw [UInt8.toNat_toUInt32] at none
    exact absurd (UInt8.lt_iff_toNat_lt.mp fits.1) (by rw [none]; decide)
  · exact absurd counts (not_counts_of_filled nonempty _)

theorem inlineSlot_after {tags : IfdTags n} {index : Fin n} (single : (tags index).count = 1)
    (fits : 0 < (dataFormatSize outside (tags index).format) ∧
      dataFormatSize outside (tags index).format ≤ 4) (entries : Nat) :
    InlineSlot (tags index)
      (IfdTags.after outside memory exifBinary header count tags entries index) header entries := by
  induction entries with
  | zero => exact ⟨rfl, .inl rfl⟩
  | succ entries induction => exact inlineSlot_record single fits induction _

/-- No directory the analysis gets to has more than 5461 entries. -/
structure FewEntries (outside : UInt8) (memory : Memory) (data : Nat) (size : UInt32) : Prop where
  main : ∀ binaryIo offset header, IsTiffHeader memory data size binaryIo offset →
    IsIfdHeader memory { ExifBinary.init data size with binaryIo } offset header →
    header.count.toNat ≤ 5461
  exif : ∀ first header, IsMain outside memory (.init data size) first →
    IsIfdHeader memory first (first.exifOffset memory) header → header.count.toNat ≤ 5461
  thumbnail : ∀ first second header, IsMain outside memory (.init data size) first →
    IsExif outside memory first second →
    IsIfdHeader memory second second.mainHeader.size.toUInt32 header → header.count.toNat ≤ 5461

/-- The pointer to the Exif directory is inside, also when its tag is absent. -/
theorem exifPointer_le {data : Nat} {size : UInt32} {first : ExifBinary}
    (positive : 8 ≤ size.toNat) (small : size.toNat ≤ 2 ^ 32 - 2 ^ 16)
    (few : FewEntries outside memory data size)
    (isMain : IsMain outside memory (.init data size) first) :
    first.exifTag.offset.toNat + 4 ≤ size.toNat := by
  cases isMain with
  | found tiffHeader directory =>
      rename_i binaryIo offset mainHeader mainTags
      rcases directory with ⟨isHeader, filled⟩
      change (mainTags 5).offset.toNat + 4 ≤ size.toNat
      have slot : InlineSlot ((ExifBinary.init data size).mainTags 5) (mainTags 5) mainHeader
          mainHeader.count.toNat := by
        rw [filled]
        exact inlineSlot_after (by
          rw [ExifBinary.mainTags_init_exif]
          decide) (by
          rw [ExifBinary.mainTags_init_exif, IfdTag.declare, dataFormatSize_unsignedLong]
          decide) _
      rcases slot.value with asDeclared | ⟨_, index, below, position⟩
      · simp only [asDeclared, ExifBinary.mainTags_init_exif]
        exact Nat.le_trans (by decide) positive
      · have inside : (mainHeader.entryOffset index).toNat + 16 ≤ size.toNat :=
          entry_le_of_few small positive isHeader (few.main _ _ _ tiffHeader isHeader) below
        have eight : (8 : UInt32).toNat = 8 := rfl
        have bound := (mainHeader.entryOffset index).toNat_lt
        simp only [position]
        rw [UInt32.toNat_add, UInt16.toNat_toUInt32, eight]
        omega

/-- A block of eight bytes or more, not close to 4 GiB, whose directories have
at most 5461 entries each, is analysed without leaving it. -/
theorem analyse_within_of_few {data : Nat} {size : UInt64} (positive : 8 ≤ size.toNat)
    (small : size.toNat ≤ 2 ^ 32 - 2 ^ 16) (few : FewEntries outside memory data size.toUInt32) :
    (analyse outside data size).Within memory data (data + size.toNat) := by
  have same : size.toUInt32.toNat = size.toNat := by
    rw [UInt64.toNat_toUInt32]
    omega
  rw [← same] at positive small
  rw [analyse_within_iff, ← same]
  constructor
  · constructor
    · rw [ExifBinary.data_init]
      exact ⟨by omega, fun _ _ => ⟨by omega, fun _ => by omega⟩⟩
    · intro binaryIo offset tiffHeader
      have directory := fun header => few.main binaryIo offset header tiffHeader
      exact ifdInside_of_few small positive directory _
  · intro first isMain _
    have pointer := exifPointer_le positive small few isMain
    have directory := few.exif first
    rcases isMain.same with ⟨sameData, sameSize⟩
    rw [ExifBinary.data_init] at sameData
    rw [ExifBinary.size_init] at sameSize
    rw [← sameSize] at positive small pointer ⊢
    rw [← sameData]
    exact ⟨by omega, fun _ => ifdInside_of_few small positive
      (fun header => directory header isMain) _⟩
  · intro first second isMain isExif _
    have directory := few.thumbnail first second
    rcases isMain.same with ⟨firstData, firstSize⟩
    rcases isExif.same with ⟨secondData, secondSize⟩
    rw [ExifBinary.data_init] at firstData
    rw [ExifBinary.size_init] at firstSize
    rw [← firstSize, ← secondSize] at positive small ⊢
    rw [← firstData, ← secondData]
    exact ifdInside_of_few small positive (fun header => directory header isMain isExif) _

end

end Capsrv.Image
