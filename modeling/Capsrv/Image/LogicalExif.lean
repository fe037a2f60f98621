import Mathlib.Data.List.Induction
import Capsrv.Image.StrayDirectory
import Capsrv.Image.TagLookup

/-! # Exif contents in either byte order

What an Exif block says apart from its byte order: the values as numbers, and
where everything is. Encoding it arranges the bytes of each number one way or
the other. The search finds slots that are a function of the content alone.
-/

namespace Capsrv.Image

open Capsrv

/-! ## Values -/

/-- The bytes of the numbers that the values of a format consist of. -/
def unitWidth (format : DataFormat) : Nat :=
  [0, 1, 1, 2, 4, 4, 1, 1, 2, 4, 4, 4, 8].getD format.toNat 0

/-- A rational has two numbers in each component. -/
def unitsPerComponent (format : DataFormat) : Nat :=
  if format = 5 ∨ format = 10 then 2 else 1

/-- A value of any format. The most significant byte of each number is first. -/
structure LogicalValue where
  format : DataFormat
  count : UInt32
  units : List (List UInt8)
  known : IsDataFormat format
  length : units.length = unitsPerComponent format * count.toNat
  width : ∀ unit ∈ units, unit.length = unitWidth format

/-- The bytes of a number in memory. -/
def BinaryIo.arrange (binaryIo : BinaryIo) (unit : List UInt8) : List UInt8 :=
  match binaryIo with
  | motorola => unit
  | intel => unit.reverse

def HoldsBytes (memory : Memory) (address : Nat) (bytes : List UInt8) : Prop :=
  (List.range' address bytes.length).map memory = bytes

instance (memory : Memory) (address : Nat) (bytes : List UInt8) :
    Decidable (HoldsBytes memory address bytes) :=
  inferInstanceAs (Decidable (_ = bytes))

namespace LogicalValue

def bytes (binaryIo : BinaryIo) (value : LogicalValue) : List UInt8 :=
  value.units.flatMap binaryIo.arrange

def size (value : LogicalValue) : Nat :=
  (dataFormatSize 0 value.format).toNat * value.count.toNat

/-- The value is one number of two bytes. -/
def short (value : LogicalValue) : Option UInt16 :=
  match value.units with
  | [[first, second]] => some (BinaryIo.motorola.u16 first second)
  | _ => none

/-- The value is one number of four bytes. -/
def long (value : LogicalValue) : Option UInt32 :=
  match value.units with
  | [[first, second, third, fourth]] =>
      some (BinaryIo.motorola.u32 first second third fourth)
  | _ => none

end LogicalValue

/-! ## Directories -/

/-- An entry, and where its value is if it does not fit into it. -/
structure LogicalEntry where
  marker : UInt16
  value : LogicalValue
  offset : UInt32

namespace LogicalEntry

/-- The entry has the offset of the Exif directory. -/
def IsPointer (entry : LogicalEntry) : Prop :=
  entry.marker = 0x8769 ∧ entry.value.format = .unsignedLong ∧ entry.value.count = 1

/-- The fields of the entry as they are read. A value that fits into it is not. -/
def ifdEntry (entry : LogicalEntry) : IfdEntry :=
  ⟨entry.marker, entry.value.format, entry.value.count, entry.offset⟩

end LogicalEntry

structure LogicalDirectory where
  offset : UInt32
  entries : List LogicalEntry

namespace LogicalDirectory

variable (directory : LogicalDirectory)

/-- Where the entries are. -/
def placed : List PlacedEntry :=
  (List.finRange directory.entries.length).map fun index =>
    ⟨UInt16.ofNat (directory.offset.toNat + 2 + 12 * index.val),
      directory.entries[index].ifdEntry⟩

/-- The slots with what the entries say. -/
def fill (outside : UInt8) (tags : IfdTags n) : IfdTags n :=
  fun slot => (tags slot).takeAll outside directory.placed

def header (next : UInt32) : IfdHeader :=
  .ofFrame directory.offset directory.entries.length next

end LogicalDirectory

/-- A main directory, and what it leads to: the Exif directory that an entry
points to, and the thumbnail directory behind it. -/
structure LogicalExif where
  main : LogicalDirectory
  exif : Option LogicalDirectory
  thumbnail : Option LogicalDirectory
  pointer : ∀ entry ∈ main.entries, entry.IsPointer →
    ∃ directory ∈ exif, entry.value.long = some directory.offset
  pointed : exif ≠ none → ∃ entry ∈ main.entries, entry.IsPointer

/-- What the main directory links to. -/
def LogicalExif.next (content : LogicalExif) : UInt32 :=
  (content.thumbnail.map LogicalDirectory.offset).getD 0

/-! ## Encodings -/

/-- An entry at a position of the block at `data`, its value in it or behind its
offset. -/
structure EntryEncoded (binaryIo : BinaryIo) (memory : Memory) (data size position : Nat)
    (entry : LogicalEntry) : Prop where
  marker : binaryIo.halfAt memory (data + position) = entry.marker
  format : binaryIo.halfAt memory (data + position + 2) = entry.value.format
  count : binaryIo.wordAt memory (data + position + 4) = entry.value.count
  inline : entry.value.size ≤ 4 →
    HoldsBytes memory (data + position + 8) (entry.value.bytes binaryIo)
  offset : 4 < entry.value.size →
    binaryIo.wordAt memory (data + position + 8) = entry.offset ∧
    HoldsBytes memory (data + entry.offset.toNat) (entry.value.bytes binaryIo) ∧
    entry.offset.toNat + entry.value.size ≤ size

structure DirectoryEncoded (binaryIo : BinaryIo) (memory : Memory) (data size : Nat)
    (directory : LogicalDirectory) (next : UInt32) : Prop where
  frame : DirectoryFrame binaryIo memory data size directory.offset directory.entries.length next
  entry : ∀ index (below : index < directory.entries.length),
    EntryEncoded binaryIo memory data size (directory.offset.toNat + 2 + 12 * index)
      directory.entries[index]

/-- A block of less than 64 KiB with a content in one of the byte orders. -/
structure BlockEncoded (binaryIo : BinaryIo) (memory : Memory) (data size : Nat)
    (content : LogicalExif) : Prop where
  small : size < 0x10000
  magic : BinaryIo.ofMagic (BinaryIo.intel.halfAt memory data) = some binaryIo
  tagMark : binaryIo.halfAt memory (data + 2) = 0x2a
  mainOffset : binaryIo.wordAt memory (data + 4) = content.main.offset
  main : DirectoryEncoded binaryIo memory data size content.main content.next
  exif : ∀ directory ∈ content.exif, DirectoryEncoded binaryIo memory data size directory 0
  thumbnail : ∀ directory ∈ content.thumbnail,
    DirectoryEncoded binaryIo memory data size directory 0

/-! ## Numbers -/

theorem width_mul_units (outside : UInt8) {format : DataFormat} (known : IsDataFormat format) :
    unitWidth format * unitsPerComponent format = (dataFormatSize outside format).toNat := by
  rcases known with ⟨first, last⟩
  have every : ∀ index < 12, ∀ outside : UInt8,
      [0, 1, 1, 2, 4, 4, 1, 1, 2, 4, 4, 4, 8].getD (index + 1) 0 *
        (if UInt16.ofNat (index + 1) = 5 ∨ UInt16.ofNat (index + 1) = 10 then 2 else 1) =
      ((outside :: [1, 1, 2, 4, 8, 1, 1, 2, 4, 8, 4, 8]).getD (index + 1) 0).toNat := by
    intro index below outside
    simp only [List.getD_cons_succ]
    clear outside
    revert index
    decide
  rcases Nat.exists_eq_add_of_le' first with ⟨index, equal⟩
  have holds := every index (by omega) outside
  rw [← equal, UInt16.ofNat_toNat] at holds
  exact holds

theorem DeclaredFormat.isDataFormat {format : DataFormat} (declared : DeclaredFormat format) :
    IsDataFormat format := by
  rcases declared with same | same | same | same
  all_goals
    rw [same]
    decide

namespace HoldsBytes

variable {memory : Memory} {address : Nat} {bytes : List UInt8}

theorem getElem (holds : HoldsBytes memory address bytes) {index : Nat}
    (below : index < bytes.length) : memory (address + index) = bytes[index] := by
  have inside : index < ((List.range' address bytes.length).map memory).length := by
    rw [List.length_map, List.length_range']
    exact below
  have read : ((List.range' address bytes.length).map memory)[index] =
      memory (address + index) := by
    rw [List.getElem_map, List.getElem_range', Nat.one_mul]
  rw [← read]
  exact List.getElem_of_eq holds inside

end HoldsBytes

namespace LogicalValue

variable (value : LogicalValue) {memory : Memory} {address : Nat}

theorem length_bytes (binaryIo : BinaryIo) : (value.bytes binaryIo).length = value.size := by
  have arranged : ∀ unit ∈ value.units,
      (binaryIo.arrange unit).length = unitWidth value.format := by
    intro unit member
    rw [← value.width unit member]
    cases binaryIo with
    | motorola => rfl
    | intel => exact List.length_reverse
  rw [bytes, List.length_flatMap, List.map_congr_left arranged, List.map_const',
    List.sum_replicate_nat, value.length, size, ← width_mul_units 0 value.known, Nat.mul_assoc,
    Nat.mul_comm value.count.toNat, ← Nat.mul_assoc, Nat.mul_comm (unitsPerComponent value.format)]

theorem size_eq (outside : UInt8) :
    value.size = (dataFormatSize outside value.format).toNat * value.count.toNat := by
  rw [size, ← width_mul_units outside value.known, ← width_mul_units 0 value.known]

/-- The numbers of one byte are the same in either order. -/
theorem bytes_of_narrow (narrow : unitWidth value.format = 1) (binaryIo : BinaryIo) :
    value.bytes binaryIo = value.bytes .motorola := by
  have arranged : ∀ unit ∈ value.units, binaryIo.arrange unit = BinaryIo.motorola.arrange unit := by
    intro unit member
    have single := value.width unit member
    rw [narrow] at single
    rcases List.length_eq_one_iff.mp single with ⟨byte, rfl⟩
    cases binaryIo with
    | motorola => rfl
    | intel => rfl
  rw [bytes, bytes, List.flatMap_congr arranged]

variable {value} {binaryIo : BinaryIo}

theorem halfAt_of_short {number : UInt16} (short : value.short = some number)
    (holds : HoldsBytes memory address (value.bytes binaryIo)) :
    binaryIo.halfAt memory address = number := by
  rw [LogicalValue.short] at short
  split at short
  · rename_i first second units
    cases short
    rw [bytes, units] at holds
    cases binaryIo with
    | motorola =>
        have read : [memory address, memory (address + 1)] = [first, second] := holds
        simp only [List.cons.injEq, and_true] at read
        rw [BinaryIo.halfAt, read.1, read.2]
    | intel =>
        have read : [memory address, memory (address + 1)] = [second, first] := holds
        simp only [List.cons.injEq, and_true] at read
        rw [BinaryIo.halfAt, read.1, read.2]
        rfl
  · cases short

theorem wordAt_of_long {number : UInt32} (long : value.long = some number)
    (holds : HoldsBytes memory address (value.bytes binaryIo)) :
    binaryIo.wordAt memory address = number := by
  rw [LogicalValue.long] at long
  split at long
  · rename_i first second third fourth units
    cases long
    rw [bytes, units] at holds
    cases binaryIo with
    | motorola =>
        have read : [memory address, memory (address + 1), memory (address + 2),
            memory (address + 3)] = [first, second, third, fourth] := holds
        simp only [List.cons.injEq, and_true] at read
        rw [BinaryIo.wordAt, read.1, read.2.1, read.2.2.1, read.2.2.2]
    | intel =>
        have read : [memory address, memory (address + 1), memory (address + 2),
            memory (address + 3)] = [fourth, third, second, first] := holds
        simp only [List.cons.injEq, and_true] at read
        rw [BinaryIo.wordAt, read.1, read.2.1, read.2.2.1, read.2.2.2]
        rfl
  · cases long

/-- As many bytes as one short takes are one. -/
theorem exists_short (format : value.format = .unsignedShort) (size : value.size = 2) :
    ∃ number, value.short = some number := by
  have length := value.length
  have width := value.width
  rw [LogicalValue.size, format] at size
  rw [format] at length width
  have one : value.count.toNat = 1 := by
    change 2 * value.count.toNat = 2 at size
    omega
  rw [one] at length
  rcases List.length_eq_one_iff.mp length with ⟨unit, units⟩
  have two : unit.length = 2 := width unit (by rw [units]; exact List.mem_singleton_self unit)
  rcases List.length_eq_two.mp two with ⟨first, second, rfl⟩
  exact ⟨_, by rw [LogicalValue.short, units]⟩

theorem exists_long (format : value.format = .unsignedLong) (size : value.size = 4) :
    ∃ number, value.long = some number := by
  have length := value.length
  have width := value.width
  rw [LogicalValue.size, format] at size
  rw [format] at length width
  have one : value.count.toNat = 1 := by
    change 4 * value.count.toNat = 4 at size
    omega
  rw [one] at length
  rcases List.length_eq_one_iff.mp length with ⟨unit, units⟩
  have four : unit.length = 4 := width unit (by rw [units]; exact List.mem_singleton_self unit)
  rcases List.length_eq_four.mp four with ⟨first, second, third, fourth, rfl⟩
  exact ⟨_, by rw [LogicalValue.long, units]⟩

end LogicalValue

/-! ## Entries alike -/

/-- The search makes the same of two entries: their values only matter where
they are offsets. -/
structure IfdEntry.Alike (outside : UInt8) (first second : IfdEntry) : Prop where
  marker : first.marker = second.marker
  format : first.format = second.format
  componentNumber : first.componentNumber = second.componentNumber
  value : ¬ first.size outside ≤ 4 → first.value = second.value

section

variable {outside : UInt8} {tag : IfdTag}

theorem IfdEntry.Alike.take {offset : UInt16} {first second : IfdEntry}
    (alike : first.Alike outside second) :
    tag.take outside ⟨offset, first⟩ = tag.take outside ⟨offset, second⟩ := by
  rcases alike with ⟨marker, format, componentNumber, value⟩
  have sameSize : first.size outside = second.size outside := by
    rw [IfdEntry.size, IfdEntry.size, format, componentNumber]
  have sameFill : tag.fill outside offset first = tag.fill outside offset second := by
    rw [IfdTag.fill, IfdTag.fill, ← sameSize]
    split
    · rfl
    · rename_i long
      rw [value long]
  have sameTakes : tag.Takes first ↔ tag.Takes second := by
    constructor
    · intro takes
      exact ⟨marker ▸ takes.marker, format ▸ takes.format, componentNumber ▸ takes.counts⟩
    · intro takes
      exact ⟨marker ▸ takes.marker, format ▸ takes.format, componentNumber ▸ takes.counts⟩
  rw [IfdTag.take, IfdTag.take]
  dsimp only
  rw [sameFill]
  exact if_congr sameTakes rfl rfl

theorem takeAll_congr {first second : List PlacedEntry}
    (alike : List.Forall₂ (fun one other => one.offset = other.offset ∧
      one.entry.Alike outside other.entry) first second) :
    tag.takeAll outside first = tag.takeAll outside second := by
  induction alike generalizing tag with
  | nil => rfl
  | @cons one other rest others same _ induction =>
      rcases one with ⟨offset, entry⟩
      rcases other with ⟨otherOffset, otherEntry⟩
      rcases same with ⟨rfl, alike⟩
      rw [IfdTag.takeAll, IfdTag.takeAll, List.foldl_cons, List.foldl_cons, alike.take]
      exact induction

/-- A slot is as declared, or one of the entries that it takes has filled it. -/
theorem takeAll_cases (outside : UInt8) (known : IsDataFormat tag.format)
    (entries : List PlacedEntry) :
    (tag.takeAll outside entries = tag ∧ ∀ placed ∈ entries, ¬ tag.Takes placed.entry) ∨
      ∃ placed ∈ entries, tag.Takes placed.entry ∧
        tag.takeAll outside entries = tag.fill outside placed.offset placed.entry := by
  induction entries using List.reverseRecOn with
  | nil => exact .inl ⟨rfl, fun placed member => by cases member⟩
  | append_singleton entries last induction =>
      have step : tag.takeAll outside (entries ++ [last]) =
          (tag.takeAll outside entries).take outside last := by
        rw [IfdTag.takeAll, List.foldl_append]
        rfl
      rcases induction with ⟨same, refused⟩ | ⟨placed, member, takes, filled⟩
      · rw [step, same, IfdTag.take]
        by_cases takes : tag.Takes last.entry
        · rw [if_pos takes]
          exact .inr ⟨last, List.mem_append_right _ (List.mem_singleton_self last), takes, rfl⟩
        · rw [if_neg takes]
          refine .inl ⟨rfl, fun placed member => ?_⟩
          rcases List.mem_append.mp member with earlier | isLast
          · exact refused placed earlier
          · rw [List.mem_singleton.mp isLast]
            exact takes
      · refine .inr ?_
        rw [step, filled, IfdTag.take]
        by_cases again : (tag.fill outside placed.offset placed.entry).Takes last.entry
        · -- Only a value without components leaves the slot open.
          have empty : placed.entry.componentNumber = 0 := by
            by_contra nonempty
            exact IfdTag.not_takes_of_filled
              (IfdTag.size_fill_ne_zero outside placed.offset known takes nonempty) _ again
          rw [if_pos again]
          refine ⟨last, List.mem_append_right _ (List.mem_singleton_self last), ?_, rfl⟩
          exact ((IfdTag.takes_fill_of_empty takes empty).mp again).1
        · rw [if_neg again]
          exact ⟨placed, List.mem_append_left _ member, takes, rfl⟩

end

/-! ## Encoded directories -/

namespace LogicalDirectory

variable {directory : LogicalDirectory}

theorem mem_placed_iff {placed : PlacedEntry} :
    placed ∈ directory.placed ↔ ∃ (index : Nat) (below : index < directory.entries.length),
      placed = ⟨UInt16.ofNat (directory.offset.toNat + 2 + 12 * index),
        directory.entries[index].ifdEntry⟩ := by
  rw [LogicalDirectory.placed, List.mem_map]
  constructor
  · intro member
    rcases member with ⟨index, -, rfl⟩
    exact ⟨index.val, index.isLt, rfl⟩
  · intro member
    rcases member with ⟨index, below, rfl⟩
    exact ⟨⟨index, below⟩, List.mem_finRange _, rfl⟩

end LogicalDirectory

section

variable {outside : UInt8} {binaryIo : BinaryIo} {memory : Memory} {data size position : Nat}
variable {entry : LogicalEntry} {tag : IfdTag}

theorem LogicalEntry.toNat_size_le (outside : UInt8) (entry : LogicalEntry) :
    (entry.ifdEntry.size outside).toNat ≤ entry.value.size := by
  rw [IfdEntry.size, UInt32.toNat_mul, UInt8.toNat_toUInt32, entry.value.size_eq outside]
  exact Nat.mod_le _ _

theorem EntryEncoded.alike (outside : UInt8)
    (encoded : EntryEncoded binaryIo memory data size position entry) :
    (binaryIo.entryAt memory (data + position)).Alike outside entry.ifdEntry := by
  have marker : (binaryIo.entryAt memory (data + position)).marker = entry.marker := encoded.marker
  have format : (binaryIo.entryAt memory (data + position)).format = entry.value.format :=
    encoded.format
  have count : (binaryIo.entryAt memory (data + position)).componentNumber = entry.value.count :=
    encoded.count
  refine ⟨marker, format, count, fun long => ?_⟩
  have sameSize : (binaryIo.entryAt memory (data + position)).size outside =
      entry.ifdEntry.size outside := by
    rw [IfdEntry.size, IfdEntry.size, format, count]
    rfl
  rw [sameSize, UInt32.le_iff_toNat_le] at long
  have bound := entry.toNat_size_le outside
  have four : (4 : UInt32).toNat = 4 := rfl
  exact (encoded.offset (by omega)).1

/-- An entry that a slot takes makes it lead to the bytes of the value. -/
theorem EntryEncoded.holds_fill (outside : UInt8)
    (encoded : EntryEncoded binaryIo memory data size position entry)
    (known : IsDataFormat tag.format) (takes : tag.Takes entry.ifdEntry) {offset : UInt16}
    (atPosition : offset.toNat = position) :
    (tag.fill outside offset entry.ifdEntry).size.toNat = entry.value.size ∧
      HoldsBytes memory (data + (tag.fill outside offset entry.ifdEntry).offset.toNat)
        (entry.value.bytes binaryIo) := by
  have format : entry.value.format = tag.format := takes.format
  have exact : (entry.ifdEntry.size outside).toNat = entry.value.size := by
    rw [IfdTag.toNat_size_of_takes outside known takes, entry.value.size_eq outside, ← format]
    rfl
  refine ⟨exact, ?_⟩
  by_cases inline : entry.value.size ≤ 4
  · rw [IfdTag.offset_fill_of_inline (exact.trans_le inline), atPosition, ← Nat.add_assoc]
    exact encoded.inline inline
  · rw [IfdTag.offset_fill_of_long (by omega)]
    exact (encoded.offset (by omega)).2.1

end

theorem DirectoryEncoded.toNat_position {binaryIo : BinaryIo} {memory : Memory}
    {data size : Nat} {directory : LogicalDirectory} {next : UInt32}
    (encoded : DirectoryEncoded binaryIo memory data size directory next)
    (small : size < 0x10000) {index : Nat} (below : index < directory.entries.length) :
    (UInt16.ofNat (directory.offset.toNat + 2 + 12 * index)).toNat =
      directory.offset.toNat + 2 + 12 * index := by
  have fits := encoded.frame.fits
  rw [UInt16.toNat_ofNat', Nat.mod_eq_of_lt (by omega)]

section

variable {memory : Memory} {exifBinary : ExifBinary} {directory : LogicalDirectory}
variable {next : UInt32} {n count : Nat} {tags : IfdTags n}

/-- What is found at each index is alike. -/
theorem DirectoryEncoded.forall₂_alike (outside : UInt8)
    (encoded : DirectoryEncoded exifBinary.binaryIo memory exifBinary.data exifBinary.size.toNat
      directory next) (small : exifBinary.size.toNat < 0x10000) :
    List.Forall₂ (fun one other => one.offset = other.offset ∧ one.entry.Alike outside other.entry)
      ((List.range directory.entries.length).map
        ((directory.header next).placed exifBinary memory)) directory.placed := by
  rw [← List.map_coe_finRange_eq_range, List.map_map, LogicalDirectory.placed,
    List.forall₂_map_left_iff, List.forall₂_map_right_iff, List.forall₂_same]
  intro index _
  have position := encoded.frame.toNat_entryOffset small index.isLt
  constructor
  · apply UInt16.toNat_inj.mp
    exact position.trans (encoded.toNat_position small index.isLt).symm
  · have alike := (encoded.entry index.val index.isLt).alike outside
    rw [← encoded.frame.entryRead small index.isLt] at alike
    exact alike

/-- The directory is read, and its slots are those of the content. -/
theorem DirectoryEncoded.isIfd (outside : UInt8)
    (encoded : DirectoryEncoded exifBinary.binaryIo memory exifBinary.data exifBinary.size.toNat
      directory next) (small : exifBinary.size.toNat < 0x10000)
    (valid : NextInside exifBinary.size next) (slots : n ≤ count + 1)
    (distinct : ∀ first second, (tags first).marker = (tags second).marker → first = second) :
    IsIfd outside memory exifBinary directory.offset count tags (directory.header next)
      (directory.fill outside tags) := by
  have length : (directory.header next).count.toNat = directory.entries.length :=
    (encoded.frame.few small).1
  refine ⟨encoded.frame.isIfdHeader small valid, funext fun slot => ?_⟩
  have bound := slot.isLt
  have first : ∀ earlier < slot, (tags earlier).marker ≠ (tags slot).marker :=
    fun earlier smaller same => absurd (distinct earlier slot same) (ne_of_lt smaller)
  rw [length, after_of_first (by omega) first, LogicalDirectory.fill]
  exact (takeAll_congr (encoded.forall₂_alike outside small)).symm

end

end Capsrv.Image
