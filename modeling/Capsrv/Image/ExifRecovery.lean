import Capsrv.Image.ExifSlots
import Capsrv.Image.ExifValues

/-! # What is recovered from an Exif block

The extractors against the content of a well-formed block. The analysis succeeds
and the values come back where the block has an Exif directory, up to the unique
id, whose size is not the one reported, and the dimension, which is never
reported.
-/

namespace Capsrv.Image

open Capsrv

/-! ## Values in memory -/

/-- The bytes an extractor points to. -/
def returned (reader : ByteReader (Option (Nat × UInt32))) (memory : Memory) :
    Option (List UInt8) :=
  (reader.run memory).map fun found => (List.range' found.1 found.2.toNat).map memory

/-- The slot says where a value is, or it says that there is none. -/
def IfdTag.Describes (binaryIo : BinaryIo) (memory : Memory) (data : Nat) (slot : IfdTag) :
    Option ExifValue → Prop
  | none => slot.size = 0
  | some value =>
      slot.size.toNat = value.size ∧ value.At binaryIo memory (data + slot.offset.toNat)

theorem IfdTag.Holds.describes {binaryIo : BinaryIo} {memory : Memory} {data : Nat}
    {declared slot : IfdTag} {value : Option ExifValue}
    (holds : declared.Holds binaryIo memory data slot value) (empty : declared.size = 0) :
    slot.Describes binaryIo memory data value := by
  cases value with
  | none => exact (congrArg IfdTag.size holds).trans empty
  | some value => exact ⟨holds.2.1, holds.2.2⟩

section

variable {memory : Memory} {exifBinary : ExifBinary} {tag declared : IfdTag}
variable {entries : List ExifEntry}

/-! ### Texts -/

theorem isText_range' {src length : Nat} :
    IsText ((List.range' src (length + 1)).map memory) ↔
      (scanText src length).run memory = true := by
  rw [run_scanText_iff, IsText, List.range'_concat, List.map_append, List.map_singleton,
    List.getLast?_concat, List.dropLast_concat, Nat.one_mul, Option.some_inj, and_comm]
  apply and_congr_left
  intro _
  constructor
  · intro absent index below zero
    apply absent
    rw [← zero]
    exact List.mem_map_of_mem (List.mem_range'_1.mpr ⟨Nat.le_add_right _ _, by omega⟩)
  · intro notEnded member
    rcases List.mem_map.mp member with ⟨address, position, zero⟩
    rcases List.mem_range'_1.mp position with ⟨first, last⟩
    have inside := notEnded (address - src) (by omega)
    rw [Nat.add_sub_cancel' first] at inside
    exact inside zero

theorem not_isText_nil : ¬ IsText [] := by
  decide

/-- A string of one length, with what is reported of it. -/
theorem returned_extractFixedString {characters : List UInt8} {length reported : UInt32}
    (positive : length ≠ 0) (fits : reported.toNat ≤ length.toNat)
    (size : tag.size.toNat = characters.length)
    (stored : (List.range' (exifBinary.data + tag.offset.toNat) characters.length).map memory =
      characters) :
    returned (extractFixedString exifBinary tag length reported) memory =
      if characters.length = length.toNat ∧ IsText characters then
        some (characters.take reported.toNat)
      else none := by
  by_cases same : tag.size = length
  · have lengthEq : characters.length = length.toNat := by rw [← size, same]
    have positive : length.toNat ≠ 0 := fun zero => positive (UInt32.toNat_inj.mp zero)
    have text : IsText characters ↔
        (scanText (exifBinary.data + tag.offset.toNat) (length.toNat - 1)).run memory = true := by
      rw [← isText_range', Nat.sub_add_cancel (by omega), ← lengthEq, stored]
    have taken : (List.range' (exifBinary.data + tag.offset.toNat) reported.toNat).map memory =
        characters.take reported.toNat := by
      rw [← stored, List.map_take.symm, List.take_range'_of_length_ge (by omega)]
    rw [returned, extractFixedString, if_neg (not_not.mpr same), ByteReader.run_bind,
      ByteReader.run_pure]
    by_cases isText : IsText characters
    · rw [if_pos (text.mp isText), if_pos ⟨lengthEq, isText⟩, Option.map_some, taken]
    · rw [if_neg (mt text.mpr isText), if_neg fun both => isText both.2]
      rfl
  · have different : characters.length ≠ length.toNat := by
      rw [← size]
      exact fun equal => same (UInt32.toNat_inj.mp equal)
    rw [returned, extractFixedString, if_pos same, if_neg fun both => different both.1]
    rfl

/-! ### Accepted values -/

theorem accepts_of_accepted {value : ExifValue} (accepted : declared.accepted entries = some value) :
    declared.Accepts value := by
  rw [IfdTag.accepted, Option.filter_eq_some_iff] at accepted
  exact of_decide_eq_true accepted.2

/-- A reading that asks for what the slot asks for does not miss a value. -/
theorem accepted_bind {β : Type} (read : ExifValue → Option β)
    (asks : ∀ value result, read value = some result → declared.Accepts value) :
    (declared.accepted entries).bind read = (findValue entries declared.marker).bind read := by
  cases found : findValue entries declared.marker with
  | none =>
      rw [IfdTag.accepted, found]
      rfl
  | some value =>
      by_cases accepts : declared.Accepts value
      · rw [IfdTag.accepted_of_accepts found accepts]
      · rw [IfdTag.accepted_of_not_accepts found accepts, Option.bind_none, Option.bind_some]
        cases result : read value with
        | none => rfl
        | some result => exact absurd (asks value _ ‹_›) accepts

theorem ExifValue.ascii_of_format {value : ExifValue} (format : value.format = .asciiStrings) :
    ∃ characters, value = .ascii characters := by
  cases value with
  | ascii characters => exact ⟨characters, rfl⟩
  | other other count bytes => exact absurd format other.property.1
  | _ => exact absurd format (by simp only [ExifValue.format]; decide)

theorem ExifValue.undefined_of_format {value : ExifValue} (format : value.format = .undefined) :
    ∃ bytes, value = .undefined bytes := by
  cases value with
  | undefined bytes => exact ⟨bytes, rfl⟩
  | other other count bytes => exact absurd format other.property.2.2.2
  | _ => exact absurd format (by simp only [ExifValue.format]; decide)

theorem ExifValue.short_of_format {value : ExifValue} (format : value.format = .unsignedShort)
    (count : value.count = 1) : ∃ number, value = .shorts [number] := by
  cases value with
  | shorts values =>
      rcases List.length_eq_one_iff.mp count with ⟨number, rfl⟩
      exact ⟨number, rfl⟩
  | other other count bytes => exact absurd format other.property.2.1
  | _ => exact absurd format (by simp only [ExifValue.format]; decide)

theorem ExifValue.long_of_format {value : ExifValue} (format : value.format = .unsignedLong)
    (count : value.count = 1) : ∃ number, value = .longs [number] := by
  cases value with
  | longs values =>
      rcases List.length_eq_one_iff.mp count with ⟨number, rfl⟩
      exact ⟨number, rfl⟩
  | other other count bytes => exact absurd format other.property.2.2.1
  | _ => exact absurd format (by simp only [ExifValue.format]; decide)

theorem ExifValue.short_eq_some {value : ExifValue} {number : UInt16}
    (short : value.short = some number) : value = .shorts [number] := by
  cases value with
  | shorts values =>
      cases values with
      | nil => cases short
      | cons first rest =>
          cases rest with
          | nil =>
              cases short
              rfl
          | cons second rest => cases short
  | _ => cases short

theorem ExifValue.long_eq_some {value : ExifValue} {number : UInt32}
    (long : value.long = some number) : value = .longs [number] := by
  cases value with
  | longs values =>
      cases values with
      | nil => cases long
      | cons first rest =>
          cases rest with
          | nil =>
              cases long
              rfl
          | cons second rest => cases long
  | _ => cases long

theorem ExifValue.format_of_bytes {value : ExifValue} {bytes : List UInt8}
    (found : value.bytes = some bytes) : value.format = .undefined := by
  cases value with
  | undefined other => rfl
  | _ => cases found

theorem ExifValue.text_eq_some {value : ExifValue} {characters : List UInt8}
    (text : value.text = some characters) : value = .ascii characters ∧ IsText characters := by
  cases value with
  | ascii other =>
      rw [ExifValue.text] at text
      split at text
      · rename_i isText
        cases text
        exact ⟨rfl, isText⟩
      · cases text
  | _ => cases text

/-! ### The extractors -/

theorem returned_extractFixedString_accepted {length reported : UInt32}
    (describes : tag.Describes exifBinary.binaryIo memory exifBinary.data
      (declared.accepted entries))
    (format : declared.format = .asciiStrings) (count : declared.count = length.toNat)
    (positive : length ≠ 0) (fits : reported.toNat ≤ length.toNat) :
    returned (extractFixedString exifBinary tag length reported) memory =
      (((findValue entries declared.marker).bind ExifValue.text).filter
        (·.length = length.toNat)).map (·.take reported.toNat) := by
  have asks : ∀ value result,
      (value.text.filter (·.length = length.toNat)) = some result → declared.Accepts value := by
    intro value result found
    rw [Option.filter_eq_some_iff] at found
    rcases ExifValue.text_eq_some found.1 with ⟨rfl, -⟩
    exact ⟨format.symm, .inr (count.trans (of_decide_eq_true found.2).symm)⟩
  have accepted_eq : ((findValue entries declared.marker).bind ExifValue.text).filter
        (·.length = length.toNat) =
      (declared.accepted entries).bind fun value =>
        value.text.filter (·.length = length.toNat) := by
    rw [accepted_bind _ asks]
    cases findValue entries declared.marker <;> rfl
  rw [accepted_eq]
  cases accepted : declared.accepted entries with
  | none =>
      rw [accepted] at describes
      have different : tag.size ≠ length := by
        rw [show tag.size = 0 from describes]
        exact positive.symm
      rw [returned, extractFixedString, if_pos different]
      rfl
  | some value =>
      rw [accepted] at describes
      rcases ExifValue.ascii_of_format ((accepts_of_accepted accepted).1.trans format) with
        ⟨characters, rfl⟩
      rw [returned_extractFixedString positive fits describes.1 describes.2, Option.bind_some,
        ExifValue.text]
      by_cases isText : IsText characters
      · by_cases same : characters.length = length.toNat <;> simp [isText, same]
      · simp [isText]

/-- A string of any length. -/
theorem returned_extractString_accepted
    (describes : tag.Describes exifBinary.binaryIo memory exifBinary.data
      (declared.accepted entries))
    (format : declared.format = .asciiStrings) (count : declared.count = 0) :
    returned (extractString exifBinary tag) memory =
      (findValue entries declared.marker).bind ExifValue.text := by
  rw [← accepted_bind ExifValue.text]
  · cases accepted : declared.accepted entries with
    | none =>
        rw [accepted] at describes
        have empty : tag.size = 0 := describes
        rw [returned, extractString, if_pos empty]
        rfl
    | some value =>
        rw [accepted] at describes
        rcases ExifValue.ascii_of_format ((accepts_of_accepted accepted).1.trans format) with
          ⟨characters, rfl⟩
        rw [Option.bind_some, ExifValue.text]
        by_cases empty : tag.size = 0
        · have none : characters = [] := by
            apply List.length_eq_zero_iff.mp
            rw [← show tag.size.toNat = characters.length from describes.1, empty]
            rfl
          rw [returned, extractString, if_pos empty, none, if_neg not_isText_nil]
          rfl
        · rw [extractString_eq empty,
            returned_extractFixedString empty (Nat.le_refl _) describes.1 describes.2, describes.1]
          simp [ExifValue.size]
  · intro value result found
    rcases ExifValue.text_eq_some found with ⟨rfl, -⟩
    exact ⟨format.symm, .inl count⟩

/-- A slot for one number of one format, filled or not. -/
theorem describes_single {β : Type} (read : ExifValue → Option β) (load : Nat → β) (size : UInt32)
    (describes : tag.Describes exifBinary.binaryIo memory exifBinary.data
      (declared.accepted entries))
    (count : declared.count = 1)
    (asks : ∀ value result, read value = some result → declared.Accepts value)
    (single : ∀ value, value.format = declared.format → value.count = 1 →
      value.size = size.toNat ∧
        ∀ address, value.At exifBinary.binaryIo memory address → read value = some (load address)) :
    ((findValue entries declared.marker).bind read = none ∧ tag.size = 0) ∨
      ((findValue entries declared.marker).bind read =
          some (load (exifBinary.data + tag.offset.toNat)) ∧ tag.size = size) := by
  rw [← accepted_bind read asks]
  cases accepted : declared.accepted entries with
  | none =>
      rw [accepted] at describes
      exact .inl ⟨rfl, describes⟩
  | some value =>
      rw [accepted] at describes
      rcases describes with ⟨sameSize, stored⟩
      rcases accepts_of_accepted accepted with ⟨format, expected⟩
      have one : value.count = 1 := by omega
      rcases single value format one with ⟨sizeEq, reads⟩
      exact .inr ⟨reads _ stored, UInt32.toNat_inj.mp (sameSize.trans sizeEq)⟩

theorem describes_short
    (describes : tag.Describes exifBinary.binaryIo memory exifBinary.data
      (declared.accepted entries))
    (format : declared.format = .unsignedShort) (count : declared.count = 1) :
    ((findValue entries declared.marker).bind ExifValue.short = none ∧ tag.size = 0) ∨
      ((findValue entries declared.marker).bind ExifValue.short =
          some (exifBinary.binaryIo.halfAt memory (exifBinary.data + tag.offset.toNat)) ∧
        tag.size = 2) := by
  apply describes_single ExifValue.short (exifBinary.binaryIo.halfAt memory) 2 describes count
  · intro value result found
    rw [ExifValue.short_eq_some found]
    exact ⟨format.symm, .inr count⟩
  · intro value same one
    rcases ExifValue.short_of_format (same.trans format) one with ⟨number, rfl⟩
    exact ⟨rfl, fun address stored => congrArg some (List.head_eq_of_cons_eq stored).symm⟩

theorem describes_long
    (describes : tag.Describes exifBinary.binaryIo memory exifBinary.data
      (declared.accepted entries))
    (format : declared.format = .unsignedLong) (count : declared.count = 1) :
    ((findValue entries declared.marker).bind ExifValue.long = none ∧ tag.size = 0) ∨
      ((findValue entries declared.marker).bind ExifValue.long =
          some (exifBinary.binaryIo.wordAt memory (exifBinary.data + tag.offset.toNat)) ∧
        tag.size = 4) := by
  apply describes_single ExifValue.long (exifBinary.binaryIo.wordAt memory) 4 describes count
  · intro value result found
    rw [ExifValue.long_eq_some found]
    exact ⟨format.symm, .inr count⟩
  · intro value same one
    rcases ExifValue.long_of_format (same.trans format) one with ⟨number, rfl⟩
    exact ⟨rfl, fun address stored => congrArg some (List.head_eq_of_cons_eq stored).symm⟩

theorem run_extractOrientation_accepted
    (describes : exifBinary.orientationTag.Describes exifBinary.binaryIo memory exifBinary.data
      (declared.accepted entries))
    (format : declared.format = .unsignedShort) (count : declared.count = 1) :
    exifBinary.extractOrientation.run memory =
      ((findValue entries declared.marker).bind ExifValue.short).filter (· < 9) := by
  rw [ExifBinary.extractOrientation]
  rcases describes_short describes format count with ⟨absent, size⟩ | ⟨present, size⟩
  · rw [absent, size, if_pos (by decide)]
    rfl
  · rw [present, size, if_neg (by decide), ByteReader.run_bind, BinaryIo.run_getU16,
      ByteReader.run_pure, Option.filter_some]
    by_cases below : exifBinary.binaryIo.halfAt memory
        (exifBinary.data + exifBinary.orientationTag.offset.toNat) < 9
    · rw [if_neg (UInt16.not_le.mpr below), if_pos (decide_eq_true below)]
    · rw [if_pos (UInt16.not_lt.mp below), if_neg fun true => below (of_decide_eq_true true)]

theorem returned_extractMakerNote_accepted
    (describes : exifBinary.makerNoteTag.Describes exifBinary.binaryIo memory exifBinary.data
      (declared.accepted entries))
    (format : declared.format = .undefined) (count : declared.count = 0) :
    returned exifBinary.extractMakerNote memory =
      (findValue entries declared.marker).bind ExifValue.bytes := by
  rw [← accepted_bind ExifValue.bytes]
  · rw [returned, ExifBinary.extractMakerNote, ByteReader.run_pure]
    cases accepted : declared.accepted entries with
    | none =>
        rw [accepted] at describes
        have empty : exifBinary.makerNoteTag.size = 0 := describes
        rw [if_pos empty]
        rfl
    | some value =>
        rw [accepted] at describes
        rcases ExifValue.undefined_of_format ((accepts_of_accepted accepted).1.trans format) with
          ⟨bytes, rfl⟩
        rcases describes with ⟨size, stored⟩
        change exifBinary.makerNoteTag.size.toNat = bytes.length at size
        rw [Option.bind_some, ExifValue.bytes]
        by_cases empty : bytes = []
        · have none : exifBinary.makerNoteTag.size = 0 := by
            apply UInt32.toNat_inj.mp
            rw [size, empty]
            rfl
          rw [if_pos none, if_pos empty]
          rfl
        · have nonempty : exifBinary.makerNoteTag.size ≠ 0 := by
            intro zero
            rw [zero] at size
            exact empty (List.length_eq_zero_iff.mp size.symm)
          rw [if_neg nonempty, if_neg empty, Option.map_some, size]
          exact congrArg some stored
  · intro value result found
    exact ⟨(ExifValue.format_of_bytes found).trans format.symm, .inl count⟩

/-- The bounds of a thumbnail are exact in a small block. -/
theorem thumbnailRefused_iff {jpegOffset jpegSize max : UInt32} (small : max.toNat < 0x10000) :
    (jpegOffset + jpegSize > max ∨ jpegOffset > max ∨ jpegSize > max) ↔
      ¬ jpegOffset.toNat + jpegSize.toNat ≤ max.toNat := by
  simp only [gt_iff_lt, UInt32.lt_iff_toNat_lt, UInt32.toNat_add]
  omega

/-- A thumbnail with one of its slots empty. -/
theorem returned_extractThumbnail_none
    (unfilled : exifBinary.compressionTag.size ≠ 2 ∨ exifBinary.jpegOffsetTag.size ≠ 4 ∨
      exifBinary.jpegSizeTag.size ≠ 4) :
    returned exifBinary.extractThumbnail memory = none := by
  rw [returned, ExifBinary.extractThumbnail, if_pos unfilled]
  rfl

/-- A thumbnail with all slots filled. -/
theorem returned_extractThumbnail_filled (small : exifBinary.size.toNat < 0x10000)
    (compressionSize : exifBinary.compressionTag.size = 2)
    (offsetSize : exifBinary.jpegOffsetTag.size = 4) (lengthSize : exifBinary.jpegSizeTag.size = 4)
    {compression : UInt16} {jpegOffset jpegSize : UInt32}
    (compressionAt : exifBinary.binaryIo.halfAt memory
      (exifBinary.data + exifBinary.compressionTag.offset.toNat) = compression)
    (offsetAt : exifBinary.binaryIo.wordAt memory
      (exifBinary.data + exifBinary.jpegOffsetTag.offset.toNat) = jpegOffset)
    (lengthAt : exifBinary.binaryIo.wordAt memory
      (exifBinary.data + exifBinary.jpegSizeTag.offset.toNat) = jpegSize) :
    returned exifBinary.extractThumbnail memory =
      if compression = 6 ∧ jpegOffset.toNat + jpegSize.toNat ≤ exifBinary.size.toNat then
        some ((List.range' (exifBinary.data + jpegOffset.toNat) jpegSize.toNat).map memory)
      else none := by
  rw [returned, ExifBinary.extractThumbnail, compressionSize, offsetSize, lengthSize,
    if_neg (by decide)]
  simp only [ByteReader.run_bind, BinaryIo.run_getU16, BinaryIo.run_getU32, ByteReader.run_ite,
    ByteReader.run_pure, compressionAt, offsetAt, lengthAt]
  by_cases jpeg : compression = 6
  · rw [if_neg (not_not.mpr jpeg)]
    by_cases inside : jpegOffset.toNat + jpegSize.toNat ≤ exifBinary.size.toNat
    · rw [if_neg fun refused => (thumbnailRefused_iff small).mp refused inside,
        if_pos ⟨jpeg, inside⟩]
      rfl
    · rw [if_pos ((thumbnailRefused_iff small).mpr inside), if_neg fun both => inside both.2]
      rfl
  · rw [if_pos jpeg, if_neg fun both => jpeg both.1]
    rfl

/-- The three slots of a thumbnail, and the range they lead to. -/
theorem returned_extractThumbnail_accepted (small : exifBinary.size.toNat < 0x10000)
    (compressionTag : exifBinary.compressionTag.Describes exifBinary.binaryIo memory
      exifBinary.data ((IfdTag.declare 0x0103 .unsignedShort 1).accepted entries))
    (jpegOffsetTag : exifBinary.jpegOffsetTag.Describes exifBinary.binaryIo memory
      exifBinary.data ((IfdTag.declare 0x0201 .unsignedLong 1).accepted entries))
    (jpegSizeTag : exifBinary.jpegSizeTag.Describes exifBinary.binaryIo memory exifBinary.data
      ((IfdTag.declare 0x0202 .unsignedLong 1).accepted entries))
    (content : ExifContent) (thumbnail : content.thumbnail.getD [] = entries) :
    returned exifBinary.extractThumbnail memory =
      (content.thumbnailRange exifBinary.size.toNat).map fun range =>
        (List.range' (exifBinary.data + range.1) range.2).map memory := by
  have value : ∀ marker, content.thumbnailValue marker = findValue entries marker := by
    intro marker
    rw [ExifContent.thumbnailValue, ← thumbnail]
    cases content.thumbnail <;> rfl
  simp only [ExifContent.thumbnailRange, value]
  rcases describes_short compressionTag rfl rfl with ⟨absent, size⟩ | ⟨compression, shortSize⟩
  · change (findValue entries 0x0103).bind ExifValue.short = none at absent
    rw [returned_extractThumbnail_none (.inl (by rw [size]; decide)), absent]
    rfl
  change (findValue entries 0x0103).bind ExifValue.short = _ at compression
  rcases describes_long jpegOffsetTag rfl rfl with ⟨absent, size⟩ | ⟨offset, offsetSize⟩
  · change (findValue entries 0x0201).bind ExifValue.long = none at absent
    rw [returned_extractThumbnail_none (.inr (.inl (by rw [size]; decide))), compression, absent]
    rfl
  change (findValue entries 0x0201).bind ExifValue.long = _ at offset
  rcases describes_long jpegSizeTag rfl rfl with ⟨absent, size⟩ | ⟨length, lengthSize⟩
  · change (findValue entries 0x0202).bind ExifValue.long = none at absent
    rw [returned_extractThumbnail_none (.inr (.inr (by rw [size]; decide))), compression, offset,
      absent]
    rfl
  change (findValue entries 0x0202).bind ExifValue.long = _ at length
  rw [returned_extractThumbnail_filled small shortSize offsetSize lengthSize rfl rfl rfl,
    compression, offset, length]
  dsimp only
  split
  · rfl
  · rfl

end

end Capsrv.Image
