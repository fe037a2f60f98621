import Capsrv.Foundation.Text
import Capsrv.Image.ExifRecovery

/-! # Extracted strings

An extractor returns a string together with its size, and it should do so exactly
if the tag holds one NUL-terminated string. The five extractors scan alike. They
differ in the size they report, and that of the unique id is the size of a date.
-/

namespace Capsrv.Image

open Capsrv

/-! ## Exact extractors -/

/-- The first NUL behind a pointer. -/
structure FirstNul (memory : Memory) (pointer index : Nat) : Prop where
  nul : memory (pointer + index) = 0
  before : ∀ earlier < index, memory (pointer + earlier) ≠ 0

/-- The value of a tag is one string that fills it. -/
def ExifBinary.HoldsText (exifBinary : ExifBinary) (memory : Memory) (tag : IfdTag) : Prop :=
  IsText ((List.range' (exifBinary.data + tag.offset.toNat) tag.size.toNat).map memory)

instance (exifBinary : ExifBinary) (memory : Memory) (tag : IfdTag) :
    Decidable (exifBinary.HoldsText memory tag) :=
  inferInstanceAs (Decidable (IsText _))

/-- A string has the length that is reported, which is that of its tag, and a tag
without a string has none. -/
structure ExactText (reader : ByteReader (Option (Nat × UInt32))) (memory : Memory)
    (exifBinary : ExifBinary) (tag : IfdTag) : Prop where
  ends : ∀ pointer size, reader.run memory = some (pointer, size) →
    ∃ index, FirstNul memory pointer index ∧ size.toNat = index + 1
  fills : ∀ pointer size, reader.run memory = some (pointer, size) → size = tag.size
  null : ¬ exifBinary.HoldsText memory tag → reader.run memory = none

section

variable {memory : Memory} {exifBinary : ExifBinary}

/-- A scan succeeds exactly on a string that fills its tag. -/
theorem holdsText_iff {tag : IfdTag} (nonempty : tag.size ≠ 0) :
    exifBinary.HoldsText memory tag ↔
      (scanText (exifBinary.data + tag.offset.toNat) (tag.size.toNat - 1)).run memory = true := by
  have positive : tag.size.toNat ≠ 0 := fun zero => nonempty (UInt32.toNat_inj.mp zero)
  rw [← isText_range', Nat.sub_add_cancel (by omega)]
  rfl

variable (memory exifBinary) in
theorem run_extractFixedString (tag : IfdTag) {length : UInt32} (reported : UInt32)
    (positive : length ≠ 0) :
    (extractFixedString exifBinary tag length reported).run memory =
      if tag.size = length ∧ exifBinary.HoldsText memory tag then
        some (exifBinary.data + tag.offset.toNat, reported)
      else none := by
  by_cases same : tag.size = length
  · subst same
    rw [extractFixedString, if_neg (not_not.mpr rfl), ByteReader.run_bind, ByteReader.run_pure]
    by_cases text : exifBinary.HoldsText memory tag
    · rw [if_pos ((holdsText_iff positive).mp text), if_pos ⟨rfl, text⟩]
    · rw [if_neg (mt (holdsText_iff positive).mpr text), if_neg fun both => text both.2]
  · rw [extractFixedString, if_pos same, if_neg fun both => same both.1]
    rfl

/-- The first NUL of a string that fills its tag. -/
theorem firstNul_of_holdsText {tag : IfdTag} (nonempty : tag.size ≠ 0)
    (text : exifBinary.HoldsText memory tag) :
    FirstNul memory (exifBinary.data + tag.offset.toNat) (tag.size.toNat - 1) := by
  rcases run_scanText_iff.mp ((holdsText_iff nonempty).mp text) with ⟨before, nul⟩
  exact ⟨nul, before⟩

/-- An extractor for one length is exact if it reports this length, or if it has
nothing to report. -/
theorem exactText_extractFixedString (tag : IfdTag) {length reported : UInt32}
    (positive : length ≠ 0) :
    ExactText (extractFixedString exifBinary tag length reported) memory exifBinary tag ↔
      (tag.size = length → exifBinary.HoldsText memory tag → reported = length) := by
  have run := run_extractFixedString memory exifBinary tag reported positive
  constructor
  · intro exact same text
    rw [if_pos ⟨same, text⟩] at run
    exact (exact.fills _ _ run).trans same
  · intro reports
    have found : ∀ pointer size,
        (extractFixedString exifBinary tag length reported).run memory = some (pointer, size) →
        exifBinary.HoldsText memory tag ∧ pointer = exifBinary.data + tag.offset.toNat ∧
          tag.size = length ∧ size = tag.size := by
      intro pointer size found
      rw [run] at found
      split at found
      · rename_i both
        cases found
        exact ⟨both.2, rfl, both.1, (reports both.1 both.2).trans both.1.symm⟩
      · cases found
    constructor
    · intro pointer size returned
      rcases found pointer size returned with ⟨text, rfl, same, rfl⟩
      have nonempty : tag.size ≠ 0 := by
        rw [same]
        exact positive
      have sizePositive : tag.size.toNat ≠ 0 := fun zero => nonempty (UInt32.toNat_inj.mp zero)
      exact ⟨tag.size.toNat - 1, firstNul_of_holdsText nonempty text, by omega⟩
    · intro pointer size returned
      exact (found pointer size returned).2.2.2
    · intro noText
      rw [run, if_neg fun both => noText both.2]

/-- An extractor for any length is always exact. -/
theorem exactText_extractString (tag : IfdTag) :
    ExactText (extractString exifBinary tag) memory exifBinary tag := by
  by_cases empty : tag.size = 0
  · have run : (extractString exifBinary tag).run memory = none := by
      rw [extractString, if_pos empty]
      rfl
    constructor
    · intro pointer size returned
      cases run.symm.trans returned
    · intro pointer size returned
      cases run.symm.trans returned
    · intro _
      exact run
  · rw [extractString_eq empty]
    exact (exactText_extractFixedString tag empty).mpr fun _ _ => rfl

end

/-! ## All strings -/

/-- All five extractors of strings are exact. -/
structure ExactTexts (memory : Memory) (exifBinary : ExifBinary) : Prop where
  maker : ExactText exifBinary.extractMaker memory exifBinary exifBinary.makerTag
  model : ExactText exifBinary.extractModel memory exifBinary exifBinary.modelTag
  software : ExactText exifBinary.extractSoftware memory exifBinary exifBinary.softwareTag
  dateTime : ExactText exifBinary.extractDateTime memory exifBinary exifBinary.dateTimeTag
  uniqueId : ExactText exifBinary.extractUniqueId memory exifBinary exifBinary.uniqueIdTag

/-- The unique id tag holds a string of the length of a unique id. -/
def ExifBinary.HasUniqueId (exifBinary : ExifBinary) (memory : Memory) : Prop :=
  exifBinary.uniqueIdTag.size = 0x21 ∧ exifBinary.HoldsText memory exifBinary.uniqueIdTag

instance (exifBinary : ExifBinary) (memory : Memory) : Decidable (exifBinary.HasUniqueId memory) :=
  inferInstanceAs (Decidable (_ ∧ _))

/-- The strings are exact as long as there is no unique id among them. -/
theorem exactTexts_iff (memory : Memory) (exifBinary : ExifBinary) :
    ExactTexts memory exifBinary ↔ ¬ exifBinary.HasUniqueId memory := by
  have uniqueId : ExactText exifBinary.extractUniqueId memory exifBinary exifBinary.uniqueIdTag ↔
      (exifBinary.uniqueIdTag.size = 0x21 →
        exifBinary.HoldsText memory exifBinary.uniqueIdTag → (0x14 : UInt32) = 0x21) :=
    exactText_extractFixedString exifBinary.uniqueIdTag (by decide)
  constructor
  · intro exact present
    exact absurd (uniqueId.mp exact.uniqueId present.1 present.2) (by decide)
  · intro absent
    exact {
      maker := exactText_extractString _
      model := exactText_extractString _
      software := exactText_extractString _
      dateTime := (exactText_extractFixedString _ (by decide)).mpr fun _ _ => rfl
      uniqueId := uniqueId.mpr fun size text => absurd ⟨size, text⟩ absent }

/-- A block of 77 bytes with a unique id of 32 zeros. -/
def zeroUniqueId : Memory := fun address =>
  ([0x49, 0x49, 0x2a, 0, 8, 0, 0, 0,
    1, 0, 0x69, 0x87, 4, 0, 1, 0, 0, 0, 26, 0, 0, 0, 0, 0, 0, 0,
    1, 0, 0x20, 0xa4, 2, 0, 0x21, 0, 0, 0, 44, 0, 0, 0, 0, 0, 0, 0] ++
    ascii "00000000000000000000000000000000").getD address 0

/-- All values of the block lie inside. -/
theorem tagValuesInside_zeroUniqueId :
    TagValuesInside zeroUniqueId ((analyse 0 0 77).run zeroUniqueId).2 77 where
  maker nonempty := absurd (by decide) nonempty
  model nonempty := absurd (by decide) nonempty
  orientation filled := absurd filled (by decide)
  software nonempty := absurd (by decide) nonempty
  dateTime filled := absurd filled (by decide)
  makerNote nonempty := absurd (by decide) nonempty
  uniqueId _ := .inl (by decide)
  thumbnail filled := absurd filled.1 (by decide)

/-- Not every analysed block with its values inside has exact strings. -/
theorem not_exactTexts_zeroUniqueId :
    ¬ (∀ outside memory data size exifBinary,
      (analyse outside data size).run memory = (.ok, exifBinary) →
      TagValuesInside memory exifBinary (data + size.toNat) → ExactTexts memory exifBinary) := by
  intro always
  have analysed : (analyse 0 0 77).run zeroUniqueId =
      (.ok, ((analyse 0 0 77).run zeroUniqueId).2) := Prod.ext (by decide) rfl
  have exact := always 0 zeroUniqueId 0 77 _ analysed tagValuesInside_zeroUniqueId
  have found : ((analyse 0 0 77).run zeroUniqueId).2.extractUniqueId.run zeroUniqueId =
      some (44, 0x14) := by decide
  exact absurd (exact.uniqueId.fills _ _ found) (by decide)

end Capsrv.Image
