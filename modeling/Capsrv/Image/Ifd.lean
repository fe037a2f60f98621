import Mathlib.Tactic.Common
import Capsrv.Image.ExifExtractor

/-! # The layout of an Exif block

What the readers of `exif_detail.cpp` find in memory, stated about the bytes:
a TIFF header, directories and their entries, and the tag slots that the entries
of a directory fill. Each reader is shown to find exactly that.
-/

namespace Capsrv.Image

open Capsrv

/-! ## Headers -/

structure IsTiffHeader (memory : Memory) (ptr : Nat) (maxSize : UInt32) (binaryIo : BinaryIo)
    (offset : UInt32) : Prop where
  magic : BinaryIo.ofMagic (BinaryIo.intel.halfAt memory ptr) = some binaryIo
  tagMark : binaryIo.halfAt memory (ptr + 2) = 0x2a
  offset_eq : offset = binaryIo.wordAt memory (ptr + 4)
  first : 8 ≤ offset
  last : offset ≤ maxSize - 6

structure IsIfdHeader (memory : Memory) (exifBinary : ExifBinary) (offset : UInt32)
    (header : IfdHeader) : Prop where
  first : 8 ≤ offset
  last : offset ≤ exifBinary.size - 6
  offset_eq : header.offset = offset.toUInt16
  count_eq : header.count = exifBinary.binaryIo.halfAt memory (exifBinary.data + offset.toNat)
  fits : offset + (headerSize header.count).toUInt32 + 6 ≤ exifBinary.size
  size_eq : header.size = (exifBinary.binaryIo.wordAt memory
    (exifBinary.data + (headerSize header.count ||| 2).toNat + offset.toNat)).toUInt16
  next : header.size = 0 ∨ 8 ≤ header.size ∧ header.size.toUInt32 ≤ exifBinary.size - 6

theorem run_readTiffHeader_iff {memory : Memory} {ptr : Nat} {maxSize : UInt32}
    {binaryIo : BinaryIo} {offset : UInt32} :
    (readTiffHeader ptr maxSize).run memory = some (binaryIo, offset) ↔
      IsTiffHeader memory ptr maxSize binaryIo offset := by
  rw [readTiffHeader, ByteReader.run_bind, BinaryIo.run_getU16]
  cases magic : BinaryIo.ofMagic (BinaryIo.intel.halfAt memory ptr) with
  | none =>
      constructor
      · intro found
        cases found
      · intro holds
        cases magic.symm.trans holds.magic
  | some order =>
      simp only [ByteReader.run_bind, BinaryIo.run_getU16, ByteReader.run_ite,
        BinaryIo.run_getU32, ByteReader.run_pure]
      constructor
      · intro found
        split at found
        · cases found
        · rename_i tagMark
          split at found
          · cases found
          · rename_i inRange
            cases found
            rw [not_or, UInt32.not_lt, gt_iff_lt, UInt32.not_lt] at inRange
            exact ⟨magic, not_not.mp tagMark, rfl, inRange.1, inRange.2⟩
      · rintro ⟨known, tagMark, rfl, first, last⟩
        cases magic.symm.trans known
        have inRange := not_or.mpr ⟨UInt32.not_lt.mpr first, UInt32.not_lt.mpr last⟩
        rw [if_neg (not_not.mpr tagMark), if_neg inRange]

theorem run_readIfdHeader_iff {memory : Memory} {exifBinary : ExifBinary} {offset : UInt32}
    {header : IfdHeader} :
    (readIfdHeader offset exifBinary).run memory = some header ↔
      IsIfdHeader memory exifBinary offset header := by
  simp only [readIfdHeader, ByteReader.run_bind, BinaryIo.run_getU16, ByteReader.run_ite,
    BinaryIo.run_getU32, ByteReader.run_pure]
  constructor
  · intro found
    split at found
    · cases found
    · rename_i inRange
      rw [not_or, UInt32.not_lt, gt_iff_lt, UInt32.not_lt] at inRange
      split at found
      · cases found
      · rename_i fits
        split at found
        · cases found
        · rename_i next
          cases found
          refine ⟨inRange.1, inRange.2, rfl, rfl, UInt32.not_lt.mp fits, rfl, ?_⟩
          by_cases zero : (exifBinary.binaryIo.wordAt memory (exifBinary.data +
              (headerSize (exifBinary.binaryIo.halfAt memory (exifBinary.data + offset.toNat)) |||
                2).toNat + offset.toNat)).toUInt16 = 0
          · exact .inl zero
          · have bounds := not_or.mp (not_and.mp next zero)
            exact .inr ⟨UInt16.not_lt.mp bounds.1, UInt32.not_lt.mp bounds.2⟩
  · intro holds
    have inRange := not_or.mpr
      ⟨UInt32.not_lt.mpr holds.first, UInt32.not_lt.mpr holds.last⟩
    have nextValid : ¬ (header.size ≠ 0 ∧
        (header.size < 8 ∨ header.size.toUInt32 > exifBinary.size - 6)) := by
      rintro ⟨nonzero, outside⟩
      rcases holds.next with zero | ⟨first, last⟩
      · exact nonzero zero
      · exact outside.elim (UInt16.not_lt.mpr first) (UInt32.not_lt.mpr last)
    rw [if_neg inRange, ← holds.count_eq, if_neg (UInt32.not_lt.mpr holds.fits),
      ← holds.size_eq, if_neg nextValid, ← holds.offset_eq]

/-! ## Entries -/

/-- The fields of a directory entry. -/
structure IfdEntry where
  marker : UInt16
  format : DataFormat
  componentNumber : UInt32
  value : UInt32
deriving DecidableEq, Repr

/-- The length of the value an entry describes. -/
def IfdEntry.size (outside : UInt8) (entry : IfdEntry) : UInt32 :=
  (dataFormatSize outside entry.format).toUInt32 * entry.componentNumber

/-- The entry at an address. -/
def BinaryIo.entryAt (binaryIo : BinaryIo) (memory : Memory) (address : Nat) : IfdEntry where
  marker := binaryIo.halfAt memory address
  format := binaryIo.halfAt memory (address + 2)
  componentNumber := binaryIo.wordAt memory (address + 4)
  value := binaryIo.wordAt memory (address + 8)

namespace IfdTag

/-- A slot takes an entry with this many components. -/
def Counts (tag : IfdTag) (componentNumber : UInt32) : Prop :=
  componentNumber < 0xffff ∧ (tag.count = 0 ∨ tag.count = componentNumber.toNat)

instance (tag : IfdTag) (componentNumber : UInt32) : Decidable (tag.Counts componentNumber) :=
  inferInstanceAs (Decidable (_ ∧ _))

/-- The slot after an entry at `position` has filled it. -/
def fill (outside : UInt8) (tag : IfdTag) (position : UInt16) (entry : IfdEntry) : IfdTag :=
  { tag with
    offset := if entry.size outside ≤ 4 then position.toUInt32 + 8 else entry.value
    size := entry.size outside }

/-- A value of at most four bytes is in its entry. -/
theorem offset_fill_of_inline {outside : UInt8} {tag : IfdTag} {position : UInt16}
    {entry : IfdEntry} (inline : (entry.size outside).toNat ≤ 4) :
    (tag.fill outside position entry).offset.toNat = position.toNat + 8 := by
  have bound := position.toNat_lt
  have eight : (8 : UInt32).toNat = 8 := rfl
  rw [fill, if_pos (UInt32.le_iff_toNat_le.mpr inline), UInt32.toNat_add, UInt16.toNat_toUInt32,
    eight]
  omega

theorem offset_fill_ne_zero {outside : UInt8} {tag : IfdTag} {position : UInt16}
    {entry : IfdEntry} (inline : (entry.size outside).toNat ≤ 4) :
    (tag.fill outside position entry).offset ≠ 0 := by
  intro zero
  have inEntry : (tag.fill outside position entry).offset.toNat = position.toNat + 8 :=
    offset_fill_of_inline inline
  rw [zero, UInt32.toNat_zero] at inEntry
  omega

/-- A longer one is at the offset that the entry has. -/
theorem offset_fill_of_long {outside : UInt8} {tag : IfdTag} {position : UInt16}
    {entry : IfdEntry} (long : 4 < (entry.size outside).toNat) :
    (tag.fill outside position entry).offset = entry.value := by
  rw [fill, if_neg fun inline => Nat.not_le_of_gt long (UInt32.le_iff_toNat_le.mp inline)]

end IfdTag

namespace IfdTags

/-- The slots after the entry at `position`. -/
def record (outside : UInt8) (tags : IfdTags n) (count : Nat) (position : UInt16)
    (entry : IfdEntry) : IfdTags n :=
  match findTag tags count entry.marker with
  | none => tags
  | some index =>
      if entry.format = (tags index).format ∧ (tags index).Counts entry.componentNumber then
        Function.update tags index ((tags index).fill outside position entry)
      else tags

/-- An entry leaves the slots alone, or it fills the one it is accepted by. -/
theorem record_cases (outside : UInt8) (tags : IfdTags n) (count : Nat) (position : UInt16)
    (entry : IfdEntry) :
    record outside tags count position entry = tags ∨
      ∃ slot, findTag tags count entry.marker = some slot ∧
        entry.format = (tags slot).format ∧ (tags slot).Counts entry.componentNumber ∧
        record outside tags count position entry =
          Function.update tags slot ((tags slot).fill outside position entry) := by
  unfold record
  cases found : findTag tags count entry.marker with
  | none => exact .inl rfl
  | some slot =>
      by_cases accepted :
          entry.format = (tags slot).format ∧ (tags slot).Counts entry.componentNumber
      · exact .inr ⟨slot, rfl, accepted.1, accepted.2, if_pos accepted⟩
      · exact .inl (if_neg accepted)

/-- How many bytes of an entry matter: a field is looked at only after the ones
in front of it fit, and the value only if it is an offset. -/
def reach (outside : UInt8) (tags : IfdTags n) (count : Nat) (entry : IfdEntry) : Nat :=
  match findTag tags count entry.marker with
  | none => 2
  | some index =>
      if entry.format ≠ (tags index).format then 4
      else if (tags index).Counts entry.componentNumber ∧ ¬ entry.size outside ≤ 4 then 12
      else 8

end IfdTags

section

variable {memory : Memory} {exifBinary : ExifBinary} {header : IfdHeader}

/-- The address of an entry. -/
def IfdHeader.entryAddress (header : IfdHeader) (exifBinary : ExifBinary) (index : Nat) : Nat :=
  exifBinary.data + (header.entryOffset index).toNat

/-- The entry at an index. -/
def IfdHeader.entry (header : IfdHeader) (exifBinary : ExifBinary) (memory : Memory)
    (index : Nat) : IfdEntry :=
  exifBinary.binaryIo.entryAt memory (header.entryAddress exifBinary index)

theorem not_refused_iff (tag : IfdTag) (componentNumber : UInt32) :
    ¬ (componentNumber ≥ 0xffff ∨ (tag.count ≠ 0 ∧ tag.count ≠ componentNumber.toNat)) ↔
      tag.Counts componentNumber := by
  rw [not_or, not_and_or, not_not, not_not, ge_iff_le, UInt32.not_le]
  rfl

/-- The fields of an entry, as the search reads them. -/
theorem IfdHeader.entry_fields (header : IfdHeader) (exifBinary : ExifBinary) (memory : Memory)
    (index : Nat) :
    ∃ entry, header.entry exifBinary memory index = entry ∧
      exifBinary.binaryIo.halfAt memory
        (exifBinary.data + (header.entryOffset index).toNat) = entry.marker ∧
      exifBinary.binaryIo.halfAt memory
        (exifBinary.data + (header.entryOffset index).toNat + 2) = entry.format ∧
      exifBinary.binaryIo.wordAt memory
        (exifBinary.data + (header.entryOffset index).toNat + 4) = entry.componentNumber ∧
      exifBinary.binaryIo.wordAt memory
        (exifBinary.data + (header.entryOffset index).toNat + 8) = entry.value :=
  ⟨_, rfl, rfl, rfl, rfl, rfl⟩

theorem run_searchIfdEntry (outside : UInt8) (count : Nat) (tags : IfdTags n) (index : Nat) :
    (searchIfdEntry outside count header exifBinary tags index).run memory =
      IfdTags.record outside tags count (header.entryOffset index)
        (header.entry exifBinary memory index) := by
  rcases header.entry_fields exifBinary memory index with
      ⟨entry, equal, marker, format, componentNumber, value⟩
  simp only [searchIfdEntry, ByteReader.run_bind, BinaryIo.run_getU16, IfdTags.record, equal,
    marker]
  cases findTag tags count entry.marker with
  | none => rfl
  | some slot =>
      simp only [ByteReader.run_bind, BinaryIo.run_getU16, ByteReader.run_ite,
        BinaryIo.run_getU32, ByteReader.run_pure, format, componentNumber, value]
      by_cases same : entry.format = (tags slot).format
      · rw [if_neg (not_not.mpr same)]
        by_cases counts : (tags slot).Counts entry.componentNumber
        · rw [if_neg ((not_refused_iff _ _).mpr counts), if_pos (And.intro same counts)]
          unfold IfdTag.fill IfdEntry.size
          split <;> rfl
        · rw [if_pos (not_not.mp (mt (not_refused_iff _ _).mp counts)),
            if_neg fun both => counts both.2]
      · rw [if_pos same, if_neg fun both => same both.1]

/-- A turn of the search reads what the entry makes it look at. -/
theorem within_searchIfdEntry (outside : UInt8) (count : Nat) (tags : IfdTags n) (index : Nat)
    (stop : Nat) :
    (searchIfdEntry outside count header exifBinary tags index).Within memory exifBinary.data
        stop ↔
      header.entryAddress exifBinary index +
        IfdTags.reach outside tags count (header.entry exifBinary memory index) ≤ stop := by
  rcases header.entry_fields exifBinary memory index with
      ⟨entry, equal, marker, format, componentNumber, value⟩
  simp only [searchIfdEntry, ByteReader.within_bind, BinaryIo.within_getU16, BinaryIo.run_getU16,
    IfdTags.reach, IfdHeader.entryAddress, equal, marker]
  cases findTag tags count entry.marker with
  | none => simp
  | some slot =>
      simp only [ByteReader.within_bind, BinaryIo.within_getU16, BinaryIo.run_getU16,
        ByteReader.within_ite, ByteReader.within_pure, BinaryIo.within_getU32,
        BinaryIo.run_getU32, format, componentNumber, not_refused_iff, not_not]
      rw [show (dataFormatSize outside entry.format).toUInt32 * entry.componentNumber =
        entry.size outside from rfl]
      by_cases same : entry.format = (tags slot).format
      · by_cases counts : (tags slot).Counts entry.componentNumber
        · by_cases inline : entry.size outside ≤ 4
          · simp [same, counts, inline]
            omega
          · simp [same, counts, inline]
            omega
        · simp [same, counts]
          omega
      · simp [same]
        omega

/-! ## Directories -/

/-- The slots after the first entries of a directory. -/
def IfdTags.after (outside : UInt8) (memory : Memory) (exifBinary : ExifBinary)
    (header : IfdHeader) (count : Nat) (tags : IfdTags n) : (entries : Nat) → IfdTags n
  | 0 => tags
  | entries + 1 =>
      IfdTags.record outside (IfdTags.after outside memory exifBinary header count tags entries)
        count (header.entryOffset entries) (header.entry exifBinary memory entries)

/-- The entries of a directory depend on where the data is and on its byte order. -/
theorem IfdTags.after_congr {first second : ExifBinary} (data : first.data = second.data)
    (binaryIo : first.binaryIo = second.binaryIo) (count : Nat) (tags : IfdTags n)
    (entries : Nat) :
    IfdTags.after outside memory first header count tags entries =
      IfdTags.after outside memory second header count tags entries := by
  induction entries with
  | zero => rfl
  | succ entries induction =>
      rw [IfdTags.after, IfdTags.after, induction, IfdHeader.entry, IfdHeader.entry,
        IfdHeader.entryAddress, IfdHeader.entryAddress, data, binaryIo]

theorem run_foldlM_searchIfdEntry (outside : UInt8) (count : Nat) (tags : IfdTags n)
    (entries : Nat) :
    ((List.range entries).foldlM (searchIfdEntry outside count header exifBinary) tags).run
        memory =
      IfdTags.after outside memory exifBinary header count tags entries := by
  induction entries with
  | zero => rfl
  | succ entries induction =>
      rw [ByteReader.run_foldlM_range_succ, induction, run_searchIfdEntry]
      rfl

theorem run_searchIfdTags (outside : UInt8) (tags : IfdTags n) {count : Nat}
    (slots : count ≠ 0) :
    (searchIfdTags outside tags count header exifBinary).run memory =
      IfdTags.after outside memory exifBinary header count tags header.count.toNat := by
  rw [searchIfdTags, if_neg slots, run_foldlM_searchIfdEntry]

/-- Every entry of a directory has the bytes it makes the search look at. -/
def EntriesInside (outside : UInt8) (memory : Memory) (exifBinary : ExifBinary)
    (header : IfdHeader) (count : Nat) (tags : IfdTags n) (stop : Nat) : Prop :=
  ∀ index < header.count.toNat,
    header.entryAddress exifBinary index +
      IfdTags.reach outside (IfdTags.after outside memory exifBinary header count tags index)
        count (header.entry exifBinary memory index) ≤ stop

theorem within_searchIfdTags (outside : UInt8) (tags : IfdTags n) {count : Nat}
    (slots : count ≠ 0) (stop : Nat) :
    (searchIfdTags outside tags count header exifBinary).Within memory exifBinary.data stop ↔
      EntriesInside outside memory exifBinary header count tags stop := by
  rw [searchIfdTags, if_neg slots, ByteReader.within_foldlM_range]
  simp only [run_foldlM_searchIfdEntry, within_searchIfdEntry]
  rfl

/-- A directory at `offset`: its header, and the slots its entries fill. -/
structure IsIfd (outside : UInt8) (memory : Memory) (exifBinary : ExifBinary) (offset : UInt32)
    (count : Nat) (tags : IfdTags n) (header : IfdHeader) (filled : IfdTags n) : Prop where
  isHeader : IsIfdHeader memory exifBinary offset header
  filled_eq : filled = IfdTags.after outside memory exifBinary header count tags header.count.toNat

theorem run_readIfd_iff {outside : UInt8} {offset : UInt32} {tags : IfdTags n} {count : Nat}
    {filled : IfdTags n} (slots : count ≠ 0) :
    (readIfd outside offset tags count exifBinary).run memory = some (header, filled) ↔
      IsIfd outside memory exifBinary offset count tags header filled := by
  rw [readIfd, ByteReader.run_bind]
  cases found : (readIfdHeader offset exifBinary).run memory with
  | none =>
      constructor
      · intro result
        cases result
      · intro holds
        cases found.symm.trans (run_readIfdHeader_iff.mpr holds.isHeader)
  | some read =>
      have searched : (do return some (read, ← searchIfdTags outside tags count read exifBinary) :
          ByteReader (Option (IfdHeader × IfdTags n))).run memory =
            some (read, IfdTags.after outside memory exifBinary read count tags
              read.count.toNat) := by
        rw [ByteReader.run_bind, run_searchIfdTags outside tags slots, ByteReader.run_pure]
      rw [searched]
      constructor
      · intro result
        cases result
        exact ⟨run_readIfdHeader_iff.mp found, rfl⟩
      · rintro ⟨isHeader, rfl⟩
        cases found.symm.trans (run_readIfdHeader_iff.mpr isHeader)
        rfl

/-! ## The stages of the analysis -/

/-- The block has a main directory, whose slots are then filled. -/
inductive IsMain (outside : UInt8) (memory : Memory) (exifBinary : ExifBinary) :
    ExifBinary → Prop where
  | found {binaryIo : BinaryIo} {offset : UInt32} {mainHeader : IfdHeader} {mainTags : IfdTags 7}
      (tiffHeader : IsTiffHeader memory exifBinary.data exifBinary.size binaryIo offset)
      (directory : IsIfd outside memory { exifBinary with binaryIo } offset 7 exifBinary.mainTags
        mainHeader mainTags) :
      IsMain outside memory exifBinary { exifBinary with binaryIo, mainHeader, mainTags }

/-- Where the tag of the Exif directory says it is. -/
def ExifBinary.exifOffset (exifBinary : ExifBinary) (memory : Memory) : UInt32 :=
  exifBinary.binaryIo.wordAt memory (exifBinary.data + exifBinary.exifTag.offset.toNat)

theorem ExifBinary.exifOffset_eq (exifBinary : ExifBinary) (memory : Memory) :
    exifBinary.exifOffset memory = exifBinary.binaryIo.wordAt memory
      (exifBinary.data + exifBinary.exifTag.offset.toNat) := rfl

/-- The block has no Exif directory, or one whose slots are then filled. -/
inductive IsExif (outside : UInt8) (memory : Memory) (exifBinary : ExifBinary) :
    ExifBinary → Prop where
  | absent (zero : exifBinary.exifTag.offset = 0) :
      IsExif outside memory exifBinary
        { exifBinary with exifTags := fun index => (exifBinary.exifTags index).clear }
  | found {exifHeader : IfdHeader} {exifTags : IfdTags 4}
      (nonzero : exifBinary.exifTag.offset ≠ 0)
      (below : exifBinary.exifOffset memory < exifBinary.size)
      (directory : IsIfd outside memory exifBinary (exifBinary.exifOffset memory) 4
        exifBinary.exifTags exifHeader exifTags) :
      IsExif outside memory exifBinary { exifBinary with exifHeader, exifTags }

/-- The block has no thumbnail directory, or one whose slots are then filled. -/
inductive IsThumbnail (outside : UInt8) (memory : Memory) (exifBinary : ExifBinary) :
    ExifBinary → Prop where
  | absent (zero : exifBinary.mainHeader.size = 0) :
      IsThumbnail outside memory exifBinary { exifBinary with
        thumbnailTags := fun index =>
          if index.val < 3 then (exifBinary.thumbnailTags index).clear
          else exifBinary.thumbnailTags index }
  | found {thumbnailHeader : IfdHeader} {thumbnailTags : IfdTags 4}
      (nonzero : exifBinary.mainHeader.size ≠ 0)
      (directory : IsIfd outside memory exifBinary exifBinary.mainHeader.size.toUInt32 3
        exifBinary.thumbnailTags thumbnailHeader thumbnailTags) :
      IsThumbnail outside memory exifBinary { exifBinary with thumbnailHeader, thumbnailTags }

theorem IsMain.same {outside : UInt8} {first : ExifBinary}
    (isMain : IsMain outside memory exifBinary first) :
    first.data = exifBinary.data ∧ first.size = exifBinary.size := by
  cases isMain
  exact ⟨rfl, rfl⟩

theorem IsExif.same {outside : UInt8} {second : ExifBinary}
    (isExif : IsExif outside memory exifBinary second) :
    second.data = exifBinary.data ∧ second.size = exifBinary.size := by
  cases isExif <;> exact ⟨rfl, rfl⟩

theorem IsThumbnail.same {outside : UInt8} {third : ExifBinary}
    (isThumbnail : IsThumbnail outside memory exifBinary third) :
    third.data = exifBinary.data ∧ third.size = exifBinary.size := by
  cases isThumbnail <;> exact ⟨rfl, rfl⟩

theorem run_analyseMain_iff {outside : UInt8} {analysed : ExifBinary} :
    (analyseMain outside exifBinary).run memory = some analysed ↔
      IsMain outside memory exifBinary analysed := by
  rw [analyseMain, ByteReader.run_bind]
  cases tiff : (readTiffHeader exifBinary.data exifBinary.size).run memory with
  | none =>
      constructor
      · intro result
        cases result
      · rintro ⟨tiffHeader, -⟩
        cases tiff.symm.trans (run_readTiffHeader_iff.mpr tiffHeader)
  | some start =>
      rcases start with ⟨binaryIo, offset⟩
      simp only [ByteReader.run_bind]
      cases read : (readIfd outside offset exifBinary.mainTags 7
          { exifBinary with binaryIo }).run memory with
      | none =>
          constructor
          · intro result
            cases result
          · rintro ⟨tiffHeader, directory⟩
            cases tiff.symm.trans (run_readTiffHeader_iff.mpr tiffHeader)
            cases read.symm.trans ((run_readIfd_iff (by decide)).mpr directory)
      | some directory =>
          constructor
          · intro result
            cases result
            exact .found (run_readTiffHeader_iff.mp tiff) ((run_readIfd_iff (by decide)).mp read)
          · rintro ⟨tiffHeader, directory⟩
            cases tiff.symm.trans (run_readTiffHeader_iff.mpr tiffHeader)
            cases read.symm.trans ((run_readIfd_iff (by decide)).mpr directory)
            rfl

theorem run_analyseExif_iff {outside : UInt8} {analysed : ExifBinary} :
    (analyseExif outside exifBinary).run memory = some analysed ↔
      IsExif outside memory exifBinary analysed := by
  simp only [analyseExif, ByteReader.run_ite, ByteReader.run_bind, BinaryIo.run_getU32,
    ByteReader.run_pure, ← ExifBinary.exifOffset_eq]
  by_cases zero : exifBinary.exifTag.offset = 0
  · rw [if_pos zero]
    constructor
    · intro result
      cases result
      exact .absent zero
    · rintro (_ | ⟨nonzero, _, _⟩)
      · rfl
      · exact absurd zero nonzero
  · rw [if_neg zero]
    by_cases below : exifBinary.exifOffset memory < exifBinary.size
    · rw [if_neg (UInt32.not_le.mpr below)]
      cases read : (readIfd outside (exifBinary.exifOffset memory) exifBinary.exifTags 4
          exifBinary).run memory with
      | none =>
          constructor
          · intro result
            cases result
          · rintro (absent | ⟨_, _, directory⟩)
            · exact absurd absent zero
            · cases read.symm.trans ((run_readIfd_iff (by decide)).mpr directory)
      | some directory =>
          constructor
          · intro result
            cases result
            exact .found zero below ((run_readIfd_iff (by decide)).mp read)
          · rintro (absent | ⟨_, _, directory⟩)
            · exact absurd absent zero
            · cases read.symm.trans ((run_readIfd_iff (by decide)).mpr directory)
              rfl
    · rw [if_pos (UInt32.not_lt.mp below)]
      constructor
      · intro result
        cases result
      · rintro (absent | ⟨_, inside, _⟩)
        · exact absurd absent zero
        · exact absurd inside below

theorem run_analyseThumbnail_iff {outside : UInt8} {analysed : ExifBinary} :
    (analyseThumbnail outside exifBinary).run memory = some analysed ↔
      IsThumbnail outside memory exifBinary analysed := by
  simp only [analyseThumbnail, ByteReader.run_ite, ByteReader.run_bind, ByteReader.run_pure]
  by_cases zero : exifBinary.mainHeader.size = 0
  · rw [if_pos zero]
    constructor
    · intro result
      cases result
      exact .absent zero
    · rintro (_ | ⟨nonzero, _⟩)
      · rfl
      · exact absurd zero nonzero
  · rw [if_neg zero]
    cases read : (readIfd outside exifBinary.mainHeader.size.toUInt32 exifBinary.thumbnailTags 3
        exifBinary).run memory with
    | none =>
        constructor
        · intro result
          cases result
        · rintro (absent | ⟨_, directory⟩)
          · exact absurd absent zero
          · cases read.symm.trans ((run_readIfd_iff (by decide)).mpr directory)
    | some directory =>
        constructor
        · intro result
          cases result
          exact .found zero ((run_readIfd_iff (by decide)).mp read)
        · rintro (absent | ⟨_, directory⟩)
          · exact absurd absent zero
          · cases read.symm.trans ((run_readIfd_iff (by decide)).mpr directory)
            rfl

/-- How an analysis ends: at the first stage that fails, or behind the last. -/
inductive AnalyseEnds (outside : UInt8) (memory : Memory) (data : Nat) (size : UInt64) :
    JpegStatus × ExifBinary → Prop where
  | noMain (failed : ∀ first, ¬ IsMain outside memory (.init data size.toUInt32) first) :
      AnalyseEnds outside memory data size (.invalidFormat, .init data size.toUInt32)
  | noExif {first : ExifBinary} (isMain : IsMain outside memory (.init data size.toUInt32) first)
      (failed : ∀ second, ¬ IsExif outside memory first second) :
      AnalyseEnds outside memory data size (.invalidFormat, first)
  | noThumbnail {first second : ExifBinary}
      (isMain : IsMain outside memory (.init data size.toUInt32) first)
      (isExif : IsExif outside memory first second)
      (failed : ∀ third, ¬ IsThumbnail outside memory second third) :
      AnalyseEnds outside memory data size (.invalidFormat, second)
  | ok {first second third : ExifBinary}
      (isMain : IsMain outside memory (.init data size.toUInt32) first)
      (isExif : IsExif outside memory first second)
      (isThumbnail : IsThumbnail outside memory second third) :
      AnalyseEnds outside memory data size (.ok, third)

theorem analyseEnds_run (outside : UInt8) (memory : Memory) (data : Nat) (size : UInt64) :
    AnalyseEnds outside memory data size ((analyse outside data size).run memory) := by
  rw [analyse, ByteReader.run_bind]
  cases main : (analyseMain outside (.init data size.toUInt32)).run memory with
  | none =>
      apply AnalyseEnds.noMain
      intro first isMain
      cases main.symm.trans (run_analyseMain_iff.mpr isMain)
  | some first =>
      have isMain := run_analyseMain_iff.mp main
      simp only [ByteReader.run_bind]
      cases exif : (analyseExif outside first).run memory with
      | none =>
          apply AnalyseEnds.noExif isMain
          intro second isExif
          cases exif.symm.trans (run_analyseExif_iff.mpr isExif)
      | some second =>
          have isExif := run_analyseExif_iff.mp exif
          simp only [ByteReader.run_bind]
          cases thumbnail : (analyseThumbnail outside second).run memory with
          | none =>
              apply AnalyseEnds.noThumbnail isMain isExif
              intro third isThumbnail
              cases thumbnail.symm.trans (run_analyseThumbnail_iff.mpr isThumbnail)
          | some third =>
              exact .ok isMain isExif (run_analyseThumbnail_iff.mp thumbnail)

theorem IsMain.unique {outside : UInt8} {first other : ExifBinary}
    (isMain : IsMain outside memory exifBinary first)
    (isOther : IsMain outside memory exifBinary other) : first = other :=
  Option.some.inj ((run_analyseMain_iff.mpr isMain).symm.trans (run_analyseMain_iff.mpr isOther))

theorem IsExif.unique {outside : UInt8} {second other : ExifBinary}
    (isExif : IsExif outside memory exifBinary second)
    (isOther : IsExif outside memory exifBinary other) : second = other :=
  Option.some.inj ((run_analyseExif_iff.mpr isExif).symm.trans (run_analyseExif_iff.mpr isOther))

theorem IsThumbnail.unique {outside : UInt8} {third other : ExifBinary}
    (isThumbnail : IsThumbnail outside memory exifBinary third)
    (isOther : IsThumbnail outside memory exifBinary other) : third = other :=
  Option.some.inj
    ((run_analyseThumbnail_iff.mpr isThumbnail).symm.trans (run_analyseThumbnail_iff.mpr isOther))

/-- There is only one way to end. -/
theorem AnalyseEnds.unique {outside : UInt8} {data : Nat} {size : UInt64}
    {ended other : JpegStatus × ExifBinary} (ends : AnalyseEnds outside memory data size ended)
    (otherEnds : AnalyseEnds outside memory data size other) : ended = other := by
  cases ends with
  | noMain failed =>
      cases otherEnds with
      | noMain _ => rfl
      | noExif isMain _ => exact absurd isMain (failed _)
      | noThumbnail isMain _ _ => exact absurd isMain (failed _)
      | ok isMain _ _ => exact absurd isMain (failed _)
  | noExif isMain failed =>
      cases otherEnds with
      | noMain otherFailed => exact absurd isMain (otherFailed _)
      | noExif isOther _ => rw [isMain.unique isOther]
      | noThumbnail isOther isExif _ => exact absurd (isOther.unique isMain ▸ isExif) (failed _)
      | ok isOther isExif _ => exact absurd (isOther.unique isMain ▸ isExif) (failed _)
  | noThumbnail isMain isExif failed =>
      cases otherEnds with
      | noMain otherFailed => exact absurd isMain (otherFailed _)
      | noExif isOther otherFailed =>
          exact absurd (isMain.unique isOther ▸ isExif) (otherFailed _)
      | noThumbnail isOther isOtherExif _ =>
          cases isMain.unique isOther
          rw [isExif.unique isOtherExif]
      | ok isOther isOtherExif isThumbnail =>
          cases isMain.unique isOther
          exact absurd (isOtherExif.unique isExif ▸ isThumbnail) (failed _)
  | ok isMain isExif isThumbnail =>
      cases otherEnds with
      | noMain otherFailed => exact absurd isMain (otherFailed _)
      | noExif isOther otherFailed =>
          exact absurd (isMain.unique isOther ▸ isExif) (otherFailed _)
      | noThumbnail isOther isOtherExif otherFailed =>
          cases isMain.unique isOther
          exact absurd (isExif.unique isOtherExif ▸ isThumbnail) (otherFailed _)
      | ok isOther isOtherExif isOtherThumbnail =>
          cases isMain.unique isOther
          cases isExif.unique isOtherExif
          rw [isThumbnail.unique isOtherThumbnail]

theorem run_analyse_iff {outside : UInt8} {data : Nat} {size : UInt64}
    {ended : JpegStatus × ExifBinary} :
    (analyse outside data size).run memory = ended ↔
      AnalyseEnds outside memory data size ended := by
  have ends := analyseEnds_run outside memory data size
  constructor
  · rintro rfl
    exact ends
  · exact ends.unique

/-- A successful analysis has found all three directories or their absence. -/
theorem run_analyse_ok {outside : UInt8} {data : Nat} {size : UInt64}
    (analysed : (analyse outside data size).run memory = (.ok, exifBinary)) :
    ∃ first second, IsMain outside memory (.init data size.toUInt32) first ∧
      IsExif outside memory first second ∧ IsThumbnail outside memory second exifBinary := by
  cases run_analyse_iff.mp analysed with
  | ok isMain isExif isThumbnail => exact ⟨_, _, isMain, isExif, isThumbnail⟩

theorem analyse_ok_same {outside : UInt8} {data : Nat} {size : UInt64}
    (analysed : (analyse outside data size).run memory = (.ok, exifBinary)) :
    exifBinary.data = data ∧ exifBinary.size = size.toUInt32 := by
  rcases run_analyse_ok analysed with ⟨first, second, isMain, isExif, isThumbnail⟩
  rcases isThumbnail.same with ⟨thirdData, thirdSize⟩
  rcases isExif.same with ⟨secondData, secondSize⟩
  rcases isMain.same with ⟨firstData, firstSize⟩
  exact ⟨thirdData.trans (secondData.trans firstData), thirdSize.trans (secondSize.trans firstSize)⟩

end

end Capsrv.Image
