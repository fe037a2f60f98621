import Capsrv.Image.Ifd

/-! # What the extractors read

After an analysis the extractors trust the offset and size of each tag slot.
They stay inside the block exactly if the values they use lie inside.
-/

namespace Capsrv.Image

open Capsrv

/-! ## Strings -/

/-- A string of `length` bytes, or its start up to a NUL, ends before `stop`. -/
def TextInside (memory : Memory) (src length stop : Nat) : Prop :=
  src + length ≤ stop ∨
    ∃ index, index + 1 < length ∧ src + index < stop ∧ memory (src + index) = 0

theorem within_scanText {memory : Memory} {start stop : Nat} (src length : Nat)
    (behind : start ≤ src) :
    (scanText src length).Within memory start stop ↔ TextInside memory src (length + 1) stop := by
  unfold TextInside
  induction length generalizing src with
  | zero =>
      rw [scanText, ByteReader.within_bind, ByteReader.within_byte]
      simp only [ByteReader.within_pure, and_true]
      constructor
      · rintro ⟨-, inside⟩
        exact .inl inside
      · rintro (inside | ⟨index, below, _⟩)
        · exact ⟨behind, inside⟩
        · omega
  | succ length induction =>
      rw [scanText, ByteReader.within_bind, ByteReader.within_byte, ByteReader.within_ite,
        ByteReader.run_byte, induction (src + 1) (by omega)]
      constructor
      · rintro ⟨⟨-, first⟩, -, rest⟩
        by_cases ended : memory src = 0
        · exact .inr ⟨0, by omega, first, ended⟩
        · rcases rest ended with inside | ⟨index, below, inside, found⟩
          · exact .inl (by omega)
          · refine .inr ⟨index + 1, by omega, by omega, ?_⟩
            rw [← found]
            congr 1
            omega
      · rintro (inside | ⟨index, below, inside, found⟩)
        · exact ⟨⟨behind, by omega⟩, fun _ => ByteReader.within_pure _, fun _ => .inl (by omega)⟩
        · refine ⟨⟨behind, by omega⟩, fun _ => ByteReader.within_pure _, fun notEnded => ?_⟩
          have positive : index ≠ 0 := by
            rintro rfl
            exact notEnded found
          refine .inr ⟨index - 1, by omega, by omega, ?_⟩
          rw [← found]
          congr 1
          omega

/-- A terminated string has its only NUL at its end. -/
theorem run_scanText_iff {memory : Memory} {src length : Nat} :
    (scanText src length).run memory = true ↔
      (∀ index < length, memory (src + index) ≠ 0) ∧ memory (src + length) = 0 := by
  induction length generalizing src with
  | zero =>
      rw [scanText, ByteReader.run_bind, ByteReader.run_byte, ByteReader.run_pure,
        decide_eq_true_iff]
      exact ⟨fun last => ⟨fun index below => by omega, last⟩, fun both => both.2⟩
  | succ length induction =>
      rw [scanText, ByteReader.run_bind, ByteReader.run_byte, ByteReader.run_ite]
      by_cases ended : memory src = 0
      · simp only [ended, if_true, ByteReader.run_pure, Bool.false_eq_true, false_iff]
        rintro ⟨notEnded, -⟩
        exact notEnded 0 (by omega) ended
      · rw [if_neg ended, induction, show src + 1 + length = src + (length + 1) by omega]
        refine and_congr_left fun _ => ⟨fun rest index below => ?_, fun rest index below => ?_⟩
        · cases index with
          | zero => exact ended
          | succ index =>
              rw [show src + (index + 1) = src + 1 + index by omega]
              exact rest index (by omega)
        · rw [show src + 1 + index = src + (index + 1) by omega]
          exact rest (index + 1) (by omega)

/-! ## Ranges -/

/-- A reader stays inside, and so does the range it returns. -/
structure RangeInside (reader : ByteReader (Option (Nat × UInt32))) (memory : Memory)
    (start stop : Nat) : Prop where
  reads : reader.Within memory start stop
  range : ∀ pointer size, reader.run memory = some (pointer, size) →
    start ≤ pointer ∧ pointer + size.toNat ≤ stop

section

variable {memory : Memory} {exifBinary : ExifBinary} {stop : Nat}

theorem rangeInside_extractFixedString (tag : IfdTag) {length reported : UInt32}
    (positive : length ≠ 0) (fits : reported ≤ length) :
    RangeInside (extractFixedString exifBinary tag length reported) memory exifBinary.data stop ↔
      (tag.size = length →
        TextInside memory (exifBinary.data + tag.offset.toNat) length.toNat stop) := by
  by_cases same : tag.size = length
  · have positive : length.toNat ≠ 0 := fun zero => positive (UInt32.toNat_inj.mp zero)
    have scanned : (scanText (exifBinary.data + tag.offset.toNat) (length.toNat - 1)).Within
          memory exifBinary.data stop ↔
        TextInside memory (exifBinary.data + tag.offset.toNat) length.toNat stop := by
      rw [within_scanText _ _ (Nat.le_add_right _ _), Nat.sub_add_cancel (by omega)]
    rw [extractFixedString, if_neg (not_not.mpr same)]
    constructor
    · intro inside _
      exact scanned.mp ((ByteReader.within_bind _ _).mp inside.reads).1
    · intro text
      have inside := text same
      refine ⟨(ByteReader.within_bind _ _).mpr ⟨scanned.mpr inside, ByteReader.within_pure _⟩, ?_⟩
      intro pointer size found
      rw [ByteReader.run_bind, ByteReader.run_pure] at found
      split at found
      · rename_i terminated
        cases found
        have shorter := UInt32.le_iff_toNat_le.mp fits
        rcases inside with inside | ⟨index, below, _, zero⟩
        · exact ⟨Nat.le_add_right _ _, by omega⟩
        · exact absurd zero ((run_scanText_iff.mp terminated).1 index (by omega))
      · cases found
  · simp only [extractFixedString, same, ne_eq, not_false_eq_true, if_true, false_imp_iff,
      iff_true]
    exact ⟨ByteReader.within_pure _, fun _ _ found => by cases found⟩

theorem extractString_eq {tag : IfdTag} (nonempty : tag.size ≠ 0) :
    extractString exifBinary tag = extractFixedString exifBinary tag tag.size tag.size := by
  rw [extractString, extractFixedString, if_neg nonempty, if_neg (not_not.mpr rfl)]

theorem rangeInside_extractString (tag : IfdTag) :
    RangeInside (extractString exifBinary tag) memory exifBinary.data stop ↔
      (tag.size ≠ 0 →
        TextInside memory (exifBinary.data + tag.offset.toNat) tag.size.toNat stop) := by
  by_cases empty : tag.size = 0
  · rw [extractString, if_pos empty]
    exact ⟨fun _ nonempty => absurd empty nonempty,
      fun _ => ⟨ByteReader.within_pure _, fun _ _ found => by cases found⟩⟩
  · rw [extractString_eq empty, rangeInside_extractFixedString tag empty (UInt32.le_refl _)]
    exact ⟨fun inside _ => inside rfl, fun inside _ => inside empty⟩

theorem rangeInside_extractMakerNote :
    RangeInside exifBinary.extractMakerNote memory exifBinary.data stop ↔
      (exifBinary.makerNoteTag.size ≠ 0 →
        exifBinary.data + exifBinary.makerNoteTag.offset.toNat +
          exifBinary.makerNoteTag.size.toNat ≤ stop) := by
  constructor
  · intro inside nonempty
    exact (inside.range _ _ (if_neg nonempty)).2
  · intro inside
    refine ⟨ByteReader.within_pure _, fun pointer size found => ?_⟩
    rw [ExifBinary.extractMakerNote, ByteReader.run_pure] at found
    split at found
    · cases found
    · rename_i nonempty
      cases found
      exact ⟨Nat.le_add_right _ _, inside nonempty⟩

theorem within_extractOrientation :
    exifBinary.extractOrientation.Within memory exifBinary.data stop ↔
      (exifBinary.orientationTag.size = 2 →
        exifBinary.data + exifBinary.orientationTag.offset.toNat + 2 ≤ stop) := by
  simp [ExifBinary.extractOrientation]

/-- The slots of the thumbnail hold what `ExtractThumbnail` asks for. -/
def ExifBinary.HasThumbnail (exifBinary : ExifBinary) : Prop :=
  exifBinary.compressionTag.size = 2 ∧ exifBinary.jpegOffsetTag.size = 4 ∧
    exifBinary.jpegSizeTag.size = 4

def ThumbnailSlotsInside (memory : Memory) (exifBinary : ExifBinary) (stop : Nat) : Prop :=
  exifBinary.data + exifBinary.compressionTag.offset.toNat + 2 ≤ stop ∧
    (exifBinary.binaryIo.halfAt memory
        (exifBinary.data + exifBinary.compressionTag.offset.toNat) = 6 →
      exifBinary.data + exifBinary.jpegOffsetTag.offset.toNat + 4 ≤ stop ∧
        exifBinary.data + exifBinary.jpegSizeTag.offset.toNat + 4 ≤ stop)

/-- The thumbnail itself is checked against the size, and the check does not
wrap around below 2 GiB. -/
theorem rangeInside_extractThumbnail (small : exifBinary.size.toNat < 2 ^ 31)
    (stop_eq : stop = exifBinary.data + exifBinary.size.toNat) :
    RangeInside exifBinary.extractThumbnail memory exifBinary.data stop ↔
      (exifBinary.HasThumbnail → ThumbnailSlotsInside memory exifBinary stop) := by
  have reads : exifBinary.extractThumbnail.Within memory exifBinary.data stop ↔
      (exifBinary.HasThumbnail → ThumbnailSlotsInside memory exifBinary stop) := by
    simp only [ExifBinary.extractThumbnail, ExifBinary.HasThumbnail, ThumbnailSlotsInside,
      ByteReader.within_ite, ByteReader.within_pure, ByteReader.within_bind,
      BinaryIo.within_getU16, BinaryIo.within_getU32, BinaryIo.run_getU16, not_or, not_not,
      Nat.le_add_right, implies_true, true_and, and_true, ne_eq]
  refine ⟨fun inside => reads.mp inside.reads, fun inside => ⟨reads.mpr inside, ?_⟩⟩
  intro pointer size found
  simp only [ExifBinary.extractThumbnail, ByteReader.run_ite, ByteReader.run_pure,
    ByteReader.run_bind, BinaryIo.run_getU16, BinaryIo.run_getU32] at found
  split at found
  · cases found
  · split at found
    · cases found
    · split at found
      · cases found
      · rename_i _ _ bounds
        cases found
        simp only [not_or, gt_iff_lt, UInt32.not_lt, UInt32.le_iff_toNat_le,
          UInt32.toNat_add] at bounds
        rcases bounds with ⟨sum, first, second⟩
        rw [Nat.mod_eq_of_lt (by omega)] at sum
        omega

/-! ## All extractors -/

/-- The text of a tag, if it has one, is inside. -/
def TagTextInside (memory : Memory) (exifBinary : ExifBinary) (tag : IfdTag) (stop : Nat) : Prop :=
  TextInside memory (exifBinary.data + tag.offset.toNat) tag.size.toNat stop

/-- The values of the tags that an extractor uses lie inside. -/
structure TagValuesInside (memory : Memory) (exifBinary : ExifBinary) (stop : Nat) : Prop where
  maker : exifBinary.makerTag.size ≠ 0 →
    TagTextInside memory exifBinary exifBinary.makerTag stop
  model : exifBinary.modelTag.size ≠ 0 →
    TagTextInside memory exifBinary exifBinary.modelTag stop
  orientation : exifBinary.orientationTag.size = 2 →
    exifBinary.data + exifBinary.orientationTag.offset.toNat + 2 ≤ stop
  software : exifBinary.softwareTag.size ≠ 0 →
    TagTextInside memory exifBinary exifBinary.softwareTag stop
  dateTime : exifBinary.dateTimeTag.size = 0x14 →
    TagTextInside memory exifBinary exifBinary.dateTimeTag stop
  makerNote : exifBinary.makerNoteTag.size ≠ 0 →
    exifBinary.data + exifBinary.makerNoteTag.offset.toNat +
      exifBinary.makerNoteTag.size.toNat ≤ stop
  uniqueId : exifBinary.uniqueIdTag.size = 0x21 →
    TagTextInside memory exifBinary exifBinary.uniqueIdTag stop
  thumbnail : exifBinary.HasThumbnail → ThumbnailSlotsInside memory exifBinary stop

structure ExtractorsInside (memory : Memory) (exifBinary : ExifBinary) (stop : Nat) : Prop where
  maker : RangeInside exifBinary.extractMaker memory exifBinary.data stop
  model : RangeInside exifBinary.extractModel memory exifBinary.data stop
  orientation : exifBinary.extractOrientation.Within memory exifBinary.data stop
  software : RangeInside exifBinary.extractSoftware memory exifBinary.data stop
  dateTime : RangeInside exifBinary.extractDateTime memory exifBinary.data stop
  makerNote : RangeInside exifBinary.extractMakerNote memory exifBinary.data stop
  uniqueId : RangeInside exifBinary.extractUniqueId memory exifBinary.data stop
  thumbnail : RangeInside exifBinary.extractThumbnail memory exifBinary.data stop

theorem rangeInside_fixed_iff (tag : IfdTag) {length reported : UInt32} (positive : length ≠ 0)
    (fits : reported ≤ length) :
    RangeInside (extractFixedString exifBinary tag length reported) memory exifBinary.data stop ↔
      (tag.size = length → TagTextInside memory exifBinary tag stop) := by
  rw [rangeInside_extractFixedString tag positive fits]
  exact ⟨fun inside same => by rw [TagTextInside, same]; exact inside same,
    fun inside same => by rw [← same]; exact inside same⟩

end

/-- After a successful analysis of less than 2 GiB the extractors stay inside
exactly if the tag values they use do. -/
theorem extractorsInside_iff (outside : UInt8) (memory : Memory) (data : Nat) (size : UInt64)
    (exifBinary : ExifBinary) (small : size.toNat < 2 ^ 31)
    (analysed : (analyse outside data size).run memory = (.ok, exifBinary)) :
    ExtractorsInside memory exifBinary (data + size.toNat) ↔
      TagValuesInside memory exifBinary (data + size.toNat) := by
  rcases analyse_ok_same analysed with ⟨sameData, sameSize⟩
  have exact : exifBinary.size.toNat = size.toNat := by
    rw [sameSize, UInt64.toNat_toUInt32]
    omega
  have stop_eq : data + size.toNat = exifBinary.data + exifBinary.size.toNat := by
    rw [sameData, exact]
  have thumbnail : RangeInside exifBinary.extractThumbnail memory exifBinary.data
        (data + size.toNat) ↔ _ :=
    rangeInside_extractThumbnail (by omega) stop_eq
  constructor
  · intro inside
    exact {
      maker := (rangeInside_extractString _).mp inside.maker
      model := (rangeInside_extractString _).mp inside.model
      orientation := within_extractOrientation.mp inside.orientation
      software := (rangeInside_extractString _).mp inside.software
      dateTime := (rangeInside_fixed_iff _ (by decide) (by decide)).mp inside.dateTime
      makerNote := rangeInside_extractMakerNote.mp inside.makerNote
      uniqueId := (rangeInside_fixed_iff _ (by decide) (by decide)).mp inside.uniqueId
      thumbnail := thumbnail.mp inside.thumbnail }
  · intro inside
    exact {
      maker := (rangeInside_extractString _).mpr inside.maker
      model := (rangeInside_extractString _).mpr inside.model
      orientation := within_extractOrientation.mpr inside.orientation
      software := (rangeInside_extractString _).mpr inside.software
      dateTime := (rangeInside_fixed_iff _ (by decide) (by decide)).mpr inside.dateTime
      makerNote := rangeInside_extractMakerNote.mpr inside.makerNote
      uniqueId := (rangeInside_fixed_iff _ (by decide) (by decide)).mpr inside.uniqueId
      thumbnail := thumbnail.mpr inside.thumbnail }

/-- A block of 44 bytes with a maker note that is said to be 0x1000 bytes long
and to start at 0x100. -/
def distantMakerNote : Memory := fun address =>
  [0x49, 0x49, 0x2a, 0, 8, 0, 0, 0,
    1, 0, 0x69, 0x87, 4, 0, 1, 0, 0, 0, 26, 0, 0, 0, 0, 0, 0, 0,
    1, 0, 0x7c, 0x92, 7, 0, 0, 0x10, 0, 0, 0, 1, 0, 0, 0, 0, 0, 0].getD address 0

theorem extractMakerNote_outside_distantMakerNote :
    ((analyse 0 0 44).run distantMakerNote).1 = .ok ∧
      ((analyse 0 0 44).run distantMakerNote).2.extractMakerNote.run distantMakerNote =
        some (0x100, 0x1000) ∧
      ¬ ExtractorsInside distantMakerNote ((analyse 0 0 44).run distantMakerNote).2 44 := by
  have found : ((analyse 0 0 44).run distantMakerNote).2.extractMakerNote.run distantMakerNote =
      some (0x100, 0x1000) := by decide
  refine ⟨by decide, found, fun inside => ?_⟩
  exact absurd (inside.makerNote.range _ _ found).2 (by decide)

theorem extractorsInside_iff_distantMakerNote :
    ExtractorsInside distantMakerNote ((analyse 0 0 44).run distantMakerNote).2 44 ↔
      TagValuesInside distantMakerNote ((analyse 0 0 44).run distantMakerNote).2 44 := by
  have status : ((analyse 0 0 44).run distantMakerNote).1 = .ok := by decide
  exact extractorsInside_iff 0 distantMakerNote 0 44 _ (by decide)
    (Prod.ext status rfl)

end Capsrv.Image
