import Capsrv.Image.ExifAccepted

/-! # Blocks without an Exif directory

The slot of the absent pointer still holds its expected count, one, which the
analysis takes for an offset: it follows the four bytes behind the first of the
header. They name an offset inside the block only if the byte order is that of
Intel and the lowest byte of the main offset is zero.
-/

namespace Capsrv.Image

open Capsrv

/-! ## Words as numbers -/

namespace BinaryIo

variable (memory : Memory) (src : Nat)

theorem toNat_halfAt_intel :
    (intel.halfAt memory src).toNat =
      (memory src).toNat + (memory (src + 1)).toNat * 0x100 := by
  have first := (memory src).toNat_lt
  have second := (memory (src + 1)).toNat_lt
  rw [halfAt, u16, UInt16.toNat_ofNat']
  omega

theorem toNat_wordAt_intel :
    (intel.wordAt memory src).toNat =
      (memory src).toNat + (memory (src + 1)).toNat * 0x100 +
        (memory (src + 2)).toNat * 0x10000 + (memory (src + 3)).toNat * 0x1000000 := by
  have first := (memory src).toNat_lt
  have second := (memory (src + 1)).toNat_lt
  have third := (memory (src + 2)).toNat_lt
  have fourth := (memory (src + 3)).toNat_lt
  rw [wordAt, u32, UInt32.toNat_ofNat']
  omega

theorem toNat_wordAt_motorola :
    (motorola.wordAt memory src).toNat =
      (memory src).toNat * 0x1000000 + (memory (src + 1)).toNat * 0x10000 +
        (memory (src + 2)).toNat * 0x100 + (memory (src + 3)).toNat := by
  have first := (memory src).toNat_lt
  have second := (memory (src + 1)).toNat_lt
  have third := (memory (src + 2)).toNat_lt
  have fourth := (memory (src + 3)).toNat_lt
  rw [wordAt, u32, UInt32.toNat_ofNat']
  omega

variable {memory src}

/-- Both bytes of a magic. -/
theorem bytes_of_magic {binaryIo : BinaryIo}
    (magic : ofMagic (intel.halfAt memory src) = some binaryIo) :
    (memory (src + 1)).toNat = if binaryIo = motorola then 0x4d else 0x49 := by
  have value := toNat_halfAt_intel memory src
  have first := (memory src).toNat_lt
  rw [ofMagic] at magic
  split at magic
  · rename_i order
    cases magic
    rw [order] at value
    have known : (0x4d4d : UInt16).toNat = 0x4d4d := rfl
    rw [if_pos rfl]
    omega
  · split at magic
    · rename_i order
      cases magic
      rw [order] at value
      have known : (0x4949 : UInt16).toNat = 0x4949 := rfl
      rw [if_neg (by decide)]
      omega
    · cases magic

end BinaryIo

namespace IsTiffHeader

variable {memory : Memory} {ptr : Nat} {size : UInt32} {binaryIo : BinaryIo} {offset : UInt32}

/-- What the header holds in the place of the absent pointer, for Intel. -/
theorem strayOffset_intel (tiffHeader : IsTiffHeader memory ptr size .intel offset) :
    (BinaryIo.intel.wordAt memory (ptr + 1)).toNat =
      0x2a49 + offset.toNat % 0x100 * 0x1000000 := by
  have magic := BinaryIo.bytes_of_magic tiffHeader.magic
  have tagMark := congrArg UInt16.toNat tiffHeader.tagMark
  have offset_eq := congrArg UInt32.toNat tiffHeader.offset_eq
  rw [if_neg (by decide)] at magic
  rw [BinaryIo.toNat_halfAt_intel] at tagMark
  rw [BinaryIo.toNat_wordAt_intel] at offset_eq
  have mark : (0x2a : UInt16).toNat = 0x2a := rfl
  have first := (memory (ptr + 2)).toNat_lt
  have lowest := (memory (ptr + 4)).toNat_lt
  rw [BinaryIo.toNat_wordAt_intel]
  have second : ptr + 1 + 1 = ptr + 2 := by omega
  have third : ptr + 1 + 2 = ptr + 2 + 1 := by omega
  have fourth : ptr + 1 + 3 = ptr + 4 := by omega
  rw [second, third, fourth]
  omega

theorem strayOffset_aligned (tiffHeader : IsTiffHeader memory ptr size .intel offset)
    (aligned : offset.toNat % 0x100 = 0) :
    BinaryIo.intel.wordAt memory (ptr + 1) = 0x2a49 := by
  apply UInt32.toNat_inj.mp
  rw [tiffHeader.strayOffset_intel, aligned]
  rfl

/-- For Motorola it is behind every block. -/
theorem strayOffset_motorola (tiffHeader : IsTiffHeader memory ptr size .motorola offset)
    (small : size.toNat < 0x10000) :
    size.toNat < (BinaryIo.motorola.wordAt memory (ptr + 1)).toNat := by
  have magic := BinaryIo.bytes_of_magic tiffHeader.magic
  rw [if_pos rfl] at magic
  rw [BinaryIo.toNat_wordAt_motorola]
  omega

theorem strayOffset_lt_iff (tiffHeader : IsTiffHeader memory ptr size binaryIo offset)
    (small : size.toNat < 0x10000) :
    binaryIo.wordAt memory (ptr + 1) < size ↔
      binaryIo = .intel ∧ offset.toNat % 0x100 = 0 ∧ 0x2a49 < size.toNat := by
  rw [UInt32.lt_iff_toNat_lt]
  cases binaryIo with
  | motorola =>
      have behind := tiffHeader.strayOffset_motorola small
      apply iff_of_false (by omega)
      rintro ⟨intel, -⟩
      cases intel
  | intel =>
      rw [tiffHeader.strayOffset_intel]
      constructor
      · intro below
        exact ⟨rfl, by omega, by omega⟩
      · rintro ⟨-, aligned, below⟩
        omega

end IsTiffHeader

/-! ## The stray directory -/

/-- The header, read as a pointer, leads to a directory without a maker note and
without a unique id. -/
structure StrayDirectory (outside : UInt8) (memory : Memory) (data : Nat) (size : UInt32)
    (layout : ExifLayout) : Prop where
  order : layout.binaryIo = .intel
  aligned : layout.mainOffset.toNat % 0x100 = 0
  directory : ∃ exifHeader exifTags,
    IsIfd outside memory { ExifBinary.init data size with binaryIo := .intel } 0x2a49 4
      (ExifBinary.init data size).exifTags exifHeader exifTags ∧
    (exifTags 0).size = 0 ∧
    ¬ ((exifTags 3).size = 0x21 ∧
      (scanText (data + (exifTags 3).offset.toNat) 0x20).run memory = true)

section

variable {outside : UInt8} {memory : Memory} {first second exifBinary : ExifBinary}

/-- A directory depends on the data, its size and the byte order. -/
theorem IsIfd.congr {n : Nat} {offset : UInt32} {count : Nat} {tags filled : IfdTags n}
    {header : IfdHeader} (isIfd : IsIfd outside memory first offset count tags header filled)
    (data : first.data = second.data) (size : first.size = second.size)
    (binaryIo : first.binaryIo = second.binaryIo) :
    IsIfd outside memory second offset count tags header filled := by
  have isHeader := isIfd.isHeader
  have filled_eq := isIfd.filled_eq
  rw [IfdTags.after_congr data binaryIo] at filled_eq
  refine ⟨⟨isHeader.first, ?_, isHeader.offset_eq, ?_, ?_, ?_, ?_⟩, filled_eq⟩
  · rw [← size]
    exact isHeader.last
  · rw [← data, ← binaryIo]
    exact isHeader.count_eq
  · rw [← size]
    exact isHeader.fits
  · rw [← data, ← binaryIo]
    exact isHeader.size_eq
  · rw [← size]
    exact isHeader.next

/-- Behind a header whose slot still holds the count there is a stray directory
or none. -/
theorem IsTiffHeader.isExif_iff {offset : UInt32} {binaryIo : BinaryIo}
    (tiffHeader : IsTiffHeader memory first.data first.size binaryIo offset)
    (order : first.binaryIo = binaryIo) (least : 6 ≤ first.size.toNat)
    (small : first.size.toNat < 0x10000) (one : first.exifTag.offset = 1) :
    IsExif outside memory first second ↔
      binaryIo = .intel ∧ offset.toNat % 0x100 = 0 ∧
      ∃ exifHeader exifTags,
        IsIfd outside memory first 0x2a49 4 first.exifTags exifHeader exifTags ∧
        second = { first with exifHeader, exifTags } := by
  have word : first.exifOffset memory = binaryIo.wordAt memory (first.data + 1) := by
    rw [ExifBinary.exifOffset, one, order]
    rfl
  constructor
  · rintro (zero | ⟨nonzero, below, directory⟩)
    · rw [one] at zero
      cases zero
    · rw [word] at below directory
      rcases (tiffHeader.strayOffset_lt_iff small).mp below with ⟨intel, aligned, -⟩
      subst intel
      rw [tiffHeader.strayOffset_aligned aligned] at directory
      exact ⟨rfl, aligned, _, _, directory, rfl⟩
  · rintro ⟨intel, aligned, exifHeader, exifTags, directory, rfl⟩
    subst intel
    have inside : (0x2a49 : UInt32).toNat + 6 ≤ first.size.toNat :=
      (le_sub_six_iff least).mp directory.isHeader.last
    have below : (0x2a49 : UInt32) < first.size := by
      rw [UInt32.lt_iff_toNat_lt]
      exact Nat.lt_of_lt_of_le (Nat.lt_add_of_pos_right (by decide)) inside
    apply IsExif.found
    · rw [one]
      decide
    · rw [word, tiffHeader.strayOffset_aligned aligned]
      exact below
    · rw [word, tiffHeader.strayOffset_aligned aligned]
      exact directory

theorem returned_extractMakerNote_none_iff :
    returned exifBinary.extractMakerNote memory = none ↔ (exifBinary.exifTags 0).size = 0 := by
  rw [returned, Option.map_eq_none_iff, ExifBinary.extractMakerNote, ByteReader.run_pure,
    ExifBinary.makerNoteTag]
  by_cases empty : (exifBinary.exifTags 0).size = 0
  · rw [if_pos empty]
    exact iff_of_true rfl empty
  · rw [if_neg empty]
    exact iff_of_false (Option.some_ne_none _) empty

theorem returned_extractUniqueId_none_iff :
    returned exifBinary.extractUniqueId memory = none ↔
      ¬ ((exifBinary.exifTags 3).size = 0x21 ∧
        (scanText (exifBinary.data + (exifBinary.exifTags 3).offset.toNat) 0x20).run memory =
          true) := by
  rw [returned, Option.map_eq_none_iff, ExifBinary.extractUniqueId, extractFixedString,
    ExifBinary.uniqueIdTag]
  by_cases length : (exifBinary.exifTags 3).size = 0x21
  · rw [if_neg (not_not.mpr length), ByteReader.run_bind, ByteReader.run_pure]
    by_cases text : (scanText (exifBinary.data + (exifBinary.exifTags 3).offset.toNat)
        ((0x21 : UInt32).toNat - 1)).run memory = true
    · exact iff_of_false (by rw [if_pos text]; exact Option.some_ne_none _)
        (not_not.mpr ⟨length, text⟩)
    · exact iff_of_true (if_neg text) fun both => text both.2
  · rw [if_pos length]
    exact iff_of_true rfl fun both => length both.1

variable {data : Nat} {size : UInt32} {layout : ExifLayout} {content : ExifContent}
variable {mainHeader : IfdHeader} {mainTags : IfdTags 7}

/-- Without a pointer its slot is as declared, with one for its offset. -/
theorem MainFound.noPointer
    (found : MainFound outside memory data size layout content mainHeader mainTags)
    (block : WellFormedBlock memory data size.toNat layout content)
    (absent : content.exif = none) : (mainTags 5).offset = 1 := by
  have accepted : ((ExifBinary.init data size).mainTags 5).accepted content.main = none := by
    have noValue : findValue content.main ((ExifBinary.init data size).mainTags 5).marker = none :=
      block.noPointer absent
    rw [IfdTag.accepted, noValue]
    rfl
  have holds := found.slots 5
  rw [accepted] at holds
  exact congrArg IfdTag.offset holds

/-- The stage that looks for the Exif directory finds a stray one or none. -/
theorem MainFound.isExif_iff
    (found : MainFound outside memory data size layout content mainHeader mainTags)
    (block : WellFormedBlock memory data size.toNat layout content)
    (absent : content.exif = none) :
    IsExif outside memory (mainBinary data size layout.binaryIo mainHeader mainTags) second ↔
      layout.binaryIo = .intel ∧ layout.mainOffset.toNat % 0x100 = 0 ∧
      ∃ exifHeader exifTags,
        IsIfd outside memory { ExifBinary.init data size with binaryIo := .intel } 0x2a49 4
          (ExifBinary.init data size).exifTags exifHeader exifTags ∧
        second = { mainBinary data size layout.binaryIo mainHeader mainTags with
          exifHeader, exifTags } := by
  have one : (mainBinary data size layout.binaryIo mainHeader mainTags).exifTag.offset = 1 :=
    found.noPointer block absent
  have tiffHeader : IsTiffHeader memory
      (mainBinary data size layout.binaryIo mainHeader mainTags).data
      (mainBinary data size layout.binaryIo mainHeader mainTags).size layout.binaryIo
      layout.mainOffset := block.tiffHeader
  have fits := block.main.fits
  have least : 6 ≤ size.toNat := by omega
  rw [tiffHeader.isExif_iff rfl least block.small one]
  constructor
  · intro stray
    rcases stray with ⟨order, aligned, exifHeader, exifTags, directory, rfl⟩
    exact ⟨order, aligned, exifHeader, exifTags, directory.congr rfl rfl order, rfl⟩
  · intro stray
    rcases stray with ⟨order, aligned, exifHeader, exifTags, directory, rfl⟩
    exact ⟨order, aligned, exifHeader, exifTags, directory.congr rfl rfl order.symm, rfl⟩

end

/-! ## All blocks -/

section

variable {outside : UInt8} {memory : Memory} {data : Nat} {size : UInt64} {layout : ExifLayout}
variable {content : ExifContent}

/-- Without an Exif directory there are none of its values. -/
theorem ExifContent.values_of_absent (absent : content.exif = none) :
    content.makerNote = none ∧ content.uniqueId = none ∧ content.effectiveDimension = none := by
  have noValue : ∀ marker, content.exifValue marker = none := by
    intro marker
    rw [ExifContent.exifValue, absent]
    rfl
  rw [ExifContent.makerNote, ExifContent.uniqueId, ExifContent.effectiveDimension]
  simp only [noValue]
  exact ⟨rfl, rfl, rfl⟩

theorem WellFormedBlock.recovered_iff_of_absent
    (block : WellFormedBlock memory data size.toNat layout content)
    (absent : content.exif = none) :
    BlockRecovered outside memory data size content ↔
      StrayDirectory outside memory data size.toUInt32 layout := by
  have block := block.toUInt32
  rcases block.mainFound outside with ⟨mainHeader, mainTags, found⟩
  rcases content.values_of_absent absent with ⟨noNote, noUniqueId, noDimension⟩
  constructor
  · rintro ⟨exifBinary, analysed, recovers⟩
    rcases run_analyse_ok analysed with ⟨first, second, isMain, isExif, isThumbnail⟩
    cases isMain.unique found.isMain
    rcases (found.isExif_iff block absent).mp isExif with
      ⟨order, aligned, exifHeader, exifTags, directory, rfl⟩
    have sameData := isThumbnail.same.1
    have sameTags : exifBinary.exifTags = exifTags := by
      cases isThumbnail <;> rfl
    have makerNote := returned_extractMakerNote_none_iff.mp (recovers.makerNote.trans noNote)
    have uniqueId := returned_extractUniqueId_none_iff.mp (recovers.uniqueId.trans noUniqueId)
    rw [sameTags] at makerNote uniqueId
    rw [sameData] at uniqueId
    exact ⟨order, aligned, exifHeader, exifTags, directory, makerNote, uniqueId⟩
  · rintro ⟨order, aligned, exifHeader, exifTags, directory, makerNote, uniqueId⟩
    have isExif := (found.isExif_iff block absent).mpr
      ⟨order, aligned, exifHeader, exifTags, directory, rfl⟩
    rcases found.thumbnailFound block rfl with
      ⟨thumbnailHeader, thumbnailTags, isThumbnail, thumbnailSlots⟩
    have declared := declaredTags_main data size.toUInt32
    refine ⟨_, run_analyse_iff.mpr (.ok found.isMain isExif isThumbnail), {
      toRecoversMain := ?_, makerNote := ?_, effectiveDimension := ?_, uniqueId := ?_,
      thumbnail := ?_ }⟩
    · apply recoversMain_of_slots
      intro slot
      exact (found.slots slot).describes (declared.empty slot slot.isLt)
    · exact (returned_extractMakerNote_none_iff.mpr makerNote).trans noNote.symm
    · exact noDimension.symm
    · exact (returned_extractUniqueId_none_iff.mpr uniqueId).trans noUniqueId.symm
    · exact recoversThumbnail_of_slots block.small thumbnailSlots

/-- A well-formed block is accepted and its values are recovered exactly if it
has an Exif directory, or bytes that stand in for an empty one, and neither a
unique id nor a dimension. -/
theorem blockRecovered_iff (outside : UInt8) (memory : Memory) (data : Nat) (size : UInt64)
    (layout : ExifLayout) (content : ExifContent)
    (block : WellFormedBlock memory data size.toNat layout content) :
    BlockRecovered outside memory data size content ↔
      (content.exif ≠ none ∨ StrayDirectory outside memory data size.toUInt32 layout) ∧
        content.uniqueId = none ∧ content.effectiveDimension = none := by
  cases present : content.exif with
  | none =>
      rcases content.values_of_absent present with ⟨-, noUniqueId, noDimension⟩
      rw [block.recovered_iff_of_absent present]
      exact ⟨fun stray => ⟨.inr stray, noUniqueId, noDimension⟩,
        fun condition => condition.1.resolve_left fun other => other rfl⟩
  | some entries =>
      rw [block.recovered_iff_of_exif present]
      exact ⟨fun both => ⟨.inl (Option.some_ne_none entries), both⟩, fun condition => condition.2⟩

end

/-! ## A block with a main directory only -/

/-- The orientation and nothing else, in 26 bytes. -/
def orientedBlock : Memory := fun address =>
  [0x49, 0x49, 0x2a, 0, 8, 0, 0, 0,
    1, 0, 0x12, 0x01, 3, 0, 1, 0, 0, 0, 1, 0, 0, 0, 0, 0, 0, 0].getD address 0

def orientedContent : ExifContent :=
  ⟨[⟨0x0112, .shorts [1]⟩], none, none⟩

def orientedLayout : ExifLayout :=
  ⟨.intel, 8, 0, 0⟩

theorem wellFormed_orientedBlock :
    WellFormedBlock orientedBlock 0 26 orientedLayout orientedContent where
  small := by decide
  magic := by decide
  tagMark := by decide
  mainOffset := by decide
  main := by decide
  noPointer := by decide
  pointer := by decide
  exif := nofun
  thumbnail := nofun

theorem not_blockRecovered_orientedBlock :
    ¬ (∀ (outside : UInt8) (memory : Memory) (data : Nat) (size : UInt64) (layout : ExifLayout)
        (content : ExifContent), WellFormedBlock memory data size.toNat layout content →
      BlockRecovered outside memory data size content) := by
  intro always
  rcases always 0 orientedBlock 0 26 orientedLayout orientedContent wellFormed_orientedBlock with
    ⟨exifBinary, analysed, -⟩
  have refused : ((analyse 0 0 26).run orientedBlock).1 = .invalidFormat := by decide
  rw [analysed] at refused
  cases refused

/-- The orientation again, and a maker note of four bytes behind it. -/
def notedBlock : Memory := fun address =>
  [0x49, 0x49, 0x2a, 0, 8, 0, 0, 0,
    2, 0, 0x12, 0x01, 3, 0, 1, 0, 0, 0, 1, 0, 0, 0,
    0x69, 0x87, 4, 0, 1, 0, 0, 0, 0x26, 0, 0, 0, 0, 0, 0, 0,
    1, 0, 0x7c, 0x92, 7, 0, 4, 0, 0, 0, 1, 2, 3, 4, 0, 0, 0, 0].getD address 0

def notedContent : ExifContent :=
  ⟨[⟨0x0112, .shorts [1]⟩, ⟨0x8769, .longs [0x26]⟩], some [⟨0x927c, .undefined [1, 2, 3, 4]⟩],
    none⟩

theorem blockRecovered_notedBlock : BlockRecovered 0 notedBlock 0 56 notedContent := by
  have block : WellFormedBlock notedBlock 0 56 ⟨.intel, 8, 0x26, 0⟩ notedContent := {
    small := by decide
    magic := by decide
    tagMark := by decide
    mainOffset := by decide
    main := by decide
    noPointer := by decide
    pointer := by decide
    exif := by decide
    thumbnail := nofun }
  have condition := blockRecovered_iff 0 notedBlock 0 56 ⟨.intel, 8, 0x26, 0⟩ notedContent block
  exact condition.mpr ⟨.inl (by decide), by decide, by decide⟩

end Capsrv.Image
