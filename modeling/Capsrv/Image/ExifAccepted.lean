import Capsrv.Image.ExifRecovery

/-! # Well-formed blocks are analysed

The analysis finds the directories of a well-formed block that has an Exif
directory. Without one it takes the expected count of the pointer for an offset,
and reads on in the header.
-/

namespace Capsrv.Image

open Capsrv

/-! ## Declared slots -/

/-- Slots as they are declared for a search. -/
structure DeclaredTags {n : Nat} (tags : IfdTags n) (slots : Nat) : Prop where
  distinct : ∀ first second, (tags first).marker = (tags second).marker → first = second
  formats : ∀ slot, slot.val < slots → DeclaredFormat (tags slot).format
  empty : ∀ slot, slot.val < slots → (tags slot).size = 0

theorem declaredTags_main (data : Nat) (size : UInt32) :
    DeclaredTags (ExifBinary.init data size).mainTags 7 := by
  have declared : DeclaredTags (ExifBinary.init 0 0).mainTags 7 :=
    ⟨by decide, by decide, by decide⟩
  exact declared

theorem declaredTags_exif (data : Nat) (size : UInt32) :
    DeclaredTags (ExifBinary.init data size).exifTags 4 := by
  have declared : DeclaredTags (ExifBinary.init 0 0).exifTags 4 :=
    ⟨by decide, by decide, by decide⟩
  exact declared

theorem declaredTags_thumbnail (data : Nat) (size : UInt32) :
    DeclaredTags (ExifBinary.init data size).thumbnailTags 3 := by
  have declared : DeclaredTags (ExifBinary.init 0 0).thumbnailTags 3 :=
    ⟨by decide, by decide, by decide⟩
  exact declared

/-! ## Stages -/

section

variable {outside : UInt8} {memory : Memory} {exifBinary : ExifBinary}

/-- A directory of a block is read, and its slots hold its values. -/
theorem DirectoryAt.isIfd (outside : UInt8) {offset next : UInt32} {entries : List ExifEntry}
    {n count : Nat} {tags : IfdTags n}
    (directory : DirectoryAt exifBinary.binaryIo memory exifBinary.data exifBinary.size.toNat
      offset entries next)
    (small : exifBinary.size.toNat < 0x10000) (valid : NextInside exifBinary.size next)
    (declared : DeclaredTags tags count) :
    ∃ filled, IsIfd outside memory exifBinary offset count tags (.ofDirectory offset entries next)
        filled ∧
      ∀ slot, slot.val < count → (tags slot).Holds exifBinary.binaryIo memory exifBinary.data
        (filled slot) ((tags slot).accepted entries) := by
  have length : (IfdHeader.ofDirectory offset entries next).count.toNat = entries.length :=
    (directory.frame.few small).1
  refine ⟨_, ⟨directory.frame.isIfdHeader small valid, rfl⟩, fun slot bound => ?_⟩
  rw [length]
  exact directory.slotHolds small declared.distinct (Nat.le_of_lt bound)
    (declared.formats slot bound)

end

section

variable {outside : UInt8} {memory : Memory} {data : Nat} {size : UInt32} {layout : ExifLayout}
variable {content : ExifContent} {mainHeader : IfdHeader} {mainTags : IfdTags 7}

/-- What the main directory of a block links to. -/
def ExifLayout.next (layout : ExifLayout) (content : ExifContent) : UInt32 :=
  if content.thumbnail.isSome then layout.thumbnailOffset else 0

/-- A new binary behind the main directory. -/
def mainBinary (data : Nat) (size : UInt32) (binaryIo : BinaryIo) (mainHeader : IfdHeader)
    (mainTags : IfdTags 7) : ExifBinary :=
  { ExifBinary.init data size with binaryIo, mainHeader, mainTags }

/-- The main directory is found, with its values. -/
structure MainFound (outside : UInt8) (memory : Memory) (data : Nat) (size : UInt32)
    (layout : ExifLayout) (content : ExifContent) (mainHeader : IfdHeader)
    (mainTags : IfdTags 7) : Prop where
  isMain : IsMain outside memory (.init data size)
    (mainBinary data size layout.binaryIo mainHeader mainTags)
  next : mainHeader.size = (layout.next content).toUInt16
  slots : ∀ slot, ((ExifBinary.init data size).mainTags slot).Holds layout.binaryIo memory data
    (mainTags slot) (((ExifBinary.init data size).mainTags slot).accepted content.main)

theorem WellFormedBlock.nextInside (block : WellFormedBlock memory data size.toNat layout content) :
    NextInside size (layout.next content) := by
  unfold ExifLayout.next
  cases thumbnail : content.thumbnail with
  | none => exact .inl rfl
  | some entries => exact (block.thumbnail entries thumbnail).frame.nextInside

theorem WellFormedBlock.tiffHeader (block : WellFormedBlock memory data size.toNat layout content) :
    IsTiffHeader memory data size layout.binaryIo layout.mainOffset := by
  exact ⟨block.magic, block.tagMark, block.mainOffset.symm,
    UInt32.le_iff_toNat_le.mpr block.main.first, block.main.frame.last⟩

theorem WellFormedBlock.mainFound (outside : UInt8)
    (block : WellFormedBlock memory data size.toNat layout content) :
    ∃ mainHeader mainTags,
      MainFound outside memory data size layout content mainHeader mainTags := by
  have directory : DirectoryAt
      ({ ExifBinary.init data size with binaryIo := layout.binaryIo } : ExifBinary).binaryIo memory
      data size.toNat layout.mainOffset content.main (layout.next content) := block.main
  rcases directory.isIfd outside block.small block.nextInside
    (declaredTags_main data size) with ⟨mainTags, isIfd, slots⟩
  exact ⟨_, mainTags, .found block.tiffHeader isIfd, rfl, fun slot => slots slot slot.isLt⟩

/-- The pointer of the main directory leads to the Exif directory. -/
theorem MainFound.pointer
    (found : MainFound outside memory data size layout content mainHeader mainTags)
    (block : WellFormedBlock memory data size.toNat layout content)
    (present : content.exif ≠ none) :
    8 ≤ (mainTags 5).offset.toNat ∧
      layout.binaryIo.wordAt memory (data + (mainTags 5).offset.toNat) = layout.exifOffset := by
  have accepted : ((ExifBinary.init data size).mainTags 5).accepted content.main =
      some (.longs [layout.exifOffset]) := by
    have single : (IfdTag.declare 0x8769 .unsignedLong 1).count = 1 := by decide
    rw [ExifBinary.mainTags_init_exif]
    exact IfdTag.accepted_of_accepts (block.pointer present) ⟨rfl, .inr single⟩
  have holds := found.slots 5
  rw [accepted] at holds
  exact ⟨holds.1, List.head_eq_of_cons_eq holds.2.2⟩

theorem MainFound.exifFound
    (found : MainFound outside memory data size layout content mainHeader mainTags)
    (block : WellFormedBlock memory data size.toNat layout content) {entries : List ExifEntry}
    (present : content.exif = some entries) :
    ∃ exifHeader exifTags,
      IsExif outside memory (mainBinary data size layout.binaryIo mainHeader mainTags)
        { mainBinary data size layout.binaryIo mainHeader mainTags with exifHeader, exifTags } ∧
      ∀ slot, (exifTags slot).Describes layout.binaryIo memory data
        (((ExifBinary.init data size).exifTags slot).accepted entries) := by
  have exif := block.exif entries present
  have directory : DirectoryAt
      (mainBinary data size layout.binaryIo mainHeader mainTags).binaryIo memory data size.toNat
      layout.exifOffset entries 0 := exif
  rcases directory.isIfd outside block.small (.inl rfl) (declaredTags_exif data size) with
    ⟨exifTags, isIfd, slots⟩
  rcases found.pointer block (by rw [present]; exact Option.some_ne_none _) with ⟨behind, word⟩
  have nonzero : (mainBinary data size layout.binaryIo mainHeader mainTags).exifTag.offset ≠ 0 := by
    intro zero
    have none : (mainTags 5).offset.toNat = 0 := congrArg UInt32.toNat zero
    omega
  have fits := exif.fits
  have below : layout.exifOffset < size := UInt32.lt_iff_toNat_lt.mpr (by omega)
  refine ⟨.ofDirectory layout.exifOffset entries 0, exifTags, .found nonzero ?_ ?_, fun slot => ?_⟩
  · rw [ExifBinary.exifOffset]
    exact word.symm ▸ below
  · rw [ExifBinary.exifOffset]
    exact word.symm ▸ isIfd
  · exact (slots slot slot.isLt).describes ((declaredTags_exif data size).empty slot slot.isLt)

/-- The main directory is followed by the thumbnail directory. -/
theorem MainFound.thumbnailOffset
    (found : MainFound outside memory data size layout content mainHeader mainTags)
    (block : WellFormedBlock memory data size.toNat layout content) {entries : List ExifEntry}
    (thumbnail : content.thumbnail = some entries) :
    mainHeader.size ≠ 0 ∧ mainHeader.size.toUInt32 = layout.thumbnailOffset := by
  have next : mainHeader.size = layout.thumbnailOffset.toUInt16 := by
    rw [found.next, ExifLayout.next, thumbnail]
    rfl
  rw [next]
  exact (block.thumbnail entries thumbnail).frame.toUInt16_offset block.small

theorem MainFound.thumbnailFound
    (found : MainFound outside memory data size layout content mainHeader mainTags)
    (block : WellFormedBlock memory data size.toNat layout content) {second : ExifBinary}
    {exifHeader : IfdHeader} {exifTags : IfdTags 4}
    (second_eq : second =
      { mainBinary data size layout.binaryIo mainHeader mainTags with exifHeader, exifTags }) :
    ∃ thumbnailHeader thumbnailTags,
      IsThumbnail outside memory second { second with thumbnailHeader, thumbnailTags } ∧
      ∀ slot, slot.val < 3 → (thumbnailTags slot).Describes layout.binaryIo memory data
        (((ExifBinary.init data size).thumbnailTags slot).accepted
          (content.thumbnail.getD [])) := by
  subst second_eq
  cases thumbnail : content.thumbnail with
  | none =>
      have absent : mainHeader.size = 0 := by
        rw [found.next, ExifLayout.next, thumbnail]
        rfl
      refine ⟨_, _, .absent absent, fun slot bound => ?_⟩
      rw [if_pos bound]
      rfl
  | some entries =>
      rcases found.thumbnailOffset block thumbnail with ⟨nonzero, wide⟩
      have directory : DirectoryAt (ExifBinary.binaryIo
          { mainBinary data size layout.binaryIo mainHeader mainTags with exifHeader, exifTags })
          memory data size.toNat layout.thumbnailOffset entries 0 :=
        block.thumbnail entries thumbnail
      rcases directory.isIfd outside block.small (.inl rfl) (declaredTags_thumbnail data size) with
        ⟨thumbnailTags, isIfd, slots⟩
      refine ⟨.ofDirectory layout.thumbnailOffset entries 0, thumbnailTags,
        .found nonzero (wide.symm ▸ isIfd), fun slot bound => ?_⟩
      exact (slots slot bound).describes ((declaredTags_thumbnail data size).empty slot bound)

end

/-! ## Recovered values -/

/-- The extractors of the main directory return its values. -/
structure RecoversMain (memory : Memory) (exifBinary : ExifBinary) (content : ExifContent) :
    Prop where
  maker : returned exifBinary.extractMaker memory = content.maker
  model : returned exifBinary.extractModel memory = content.model
  orientation : exifBinary.extractOrientation.run memory = content.orientation
  software : returned exifBinary.extractSoftware memory = content.software
  dateTime : returned exifBinary.extractDateTime memory = content.dateTime

/-- Every extractor returns the value of its tag. -/
structure Recovers (memory : Memory) (exifBinary : ExifBinary) (content : ExifContent) : Prop
    extends RecoversMain memory exifBinary content where
  makerNote : returned exifBinary.extractMakerNote memory = content.makerNote
  effectiveDimension :
    exifBinary.extractEffectiveDimension.run memory = content.effectiveDimension
  uniqueId : returned exifBinary.extractUniqueId memory = content.uniqueId
  thumbnail : returned exifBinary.extractThumbnail memory =
    (content.thumbnailRange exifBinary.size.toNat).map fun range =>
      (List.range' (exifBinary.data + range.1) range.2).map memory

/-- The analysis succeeds, and every value is recovered. -/
def BlockRecovered (outside : UInt8) (memory : Memory) (data : Nat) (size : UInt64)
    (content : ExifContent) : Prop :=
  ∃ exifBinary, (analyse outside data size).run memory = (.ok, exifBinary) ∧
    Recovers memory exifBinary content

section

variable {memory : Memory} {exifBinary : ExifBinary} {content : ExifContent} {data : Nat}
variable {size : UInt32}

theorem map_take_filter (value : Option (List UInt8)) (length : Nat) :
    (value.filter (·.length = length)).map (·.take length) = value.filter (·.length = length) := by
  cases value with
  | none => rfl
  | some characters =>
      rw [Option.filter_some]
      by_cases same : characters.length = length
      · rw [if_pos (decide_eq_true same), Option.map_some, ← same, List.take_length]
      · rw [if_neg fun true => same (of_decide_eq_true true)]
        rfl

theorem IfdTag.count_declare (marker : UInt16) (format : DataFormat) (count : UInt32) :
    (IfdTag.declare marker format count).count = count.toNat := by
  rw [IfdTag.count, IfdTag.declare, UInt32.toNat_zero, Nat.zero_mul, Nat.add_zero]

theorem recoversMain_of_slots
    (slots : ∀ slot, (exifBinary.mainTags slot).Describes exifBinary.binaryIo memory
      exifBinary.data (((ExifBinary.init data size).mainTags slot).accepted content.main)) :
    RecoversMain memory exifBinary content where
  maker := returned_extractString_accepted (slots 0) rfl (IfdTag.count_declare _ _ _)
  model := returned_extractString_accepted (slots 1) rfl (IfdTag.count_declare _ _ _)
  orientation := run_extractOrientation_accepted (slots 2) rfl (IfdTag.count_declare _ _ _)
  software := returned_extractString_accepted (slots 3) rfl (IfdTag.count_declare _ _ _)
  dateTime := by
    have found := returned_extractFixedString_accepted (slots 4) rfl (IfdTag.count_declare _ _ _)
      (by decide) (Nat.le_refl _)
    exact found.trans (map_take_filter _ _)

/-- The values of an Exif directory, the unique id with the size of a date. -/
theorem recoversExif_of_slots {entries : List ExifEntry} (present : content.exif = some entries)
    (slots : ∀ slot, (exifBinary.exifTags slot).Describes exifBinary.binaryIo memory
      exifBinary.data (((ExifBinary.init data size).exifTags slot).accepted entries)) :
    returned exifBinary.extractMakerNote memory = content.makerNote ∧
      returned exifBinary.extractUniqueId memory = content.uniqueId.map (·.take 0x14) := by
  have value : ∀ marker, content.exifValue marker = findValue entries marker := by
    intro marker
    rw [ExifContent.exifValue, present, Option.bind_some]
  rw [ExifContent.makerNote, ExifContent.uniqueId, value, value]
  constructor
  · exact returned_extractMakerNote_accepted (slots 0) rfl (IfdTag.count_declare _ _ _)
  · exact returned_extractFixedString_accepted (slots 3) rfl (IfdTag.count_declare _ _ _)
      (by decide) (by decide)

theorem recoversThumbnail_of_slots (small : exifBinary.size.toNat < 0x10000)
    (slots : ∀ slot, slot.val < 3 → (exifBinary.thumbnailTags slot).Describes exifBinary.binaryIo
      memory exifBinary.data
      (((ExifBinary.init data size).thumbnailTags slot).accepted (content.thumbnail.getD []))) :
    returned exifBinary.extractThumbnail memory =
      (content.thumbnailRange exifBinary.size.toNat).map fun range =>
        (List.range' (exifBinary.data + range.1) range.2).map memory :=
  returned_extractThumbnail_accepted small (slots 0 (by decide)) (slots 1 (by decide))
    (slots 2 (by decide)) content rfl

/-- A shortened unique id is not the whole one. -/
theorem take_uniqueId_iff : content.uniqueId.map (·.take 0x14) = content.uniqueId ↔
    content.uniqueId = none := by
  cases found : content.uniqueId with
  | none => exact iff_of_true rfl rfl
  | some characters =>
      rw [ExifContent.uniqueId, Option.filter_eq_some_iff] at found
      have length : characters.length = 0x21 := of_decide_eq_true found.2
      apply iff_of_false
      · intro same
        have shorter := congrArg List.length (Option.some.inj same)
        rw [List.length_take, length] at shorter
        exact absurd shorter (by decide)
      · exact Option.some_ne_none characters

end

section

variable {outside : UInt8} {memory : Memory} {data : Nat} {size : UInt64} {layout : ExifLayout}
variable {content : ExifContent}

theorem WellFormedBlock.toUInt32
    (block : WellFormedBlock memory data size.toNat layout content) :
    WellFormedBlock memory data size.toUInt32.toNat layout content := by
  have small := block.small
  have exact : size.toUInt32.toNat = size.toNat := by
    rw [UInt64.toNat_toUInt32]
    omega
  rw [exact]
  exact block

/-- A block with an Exif directory is analysed, and its values are found. -/
theorem WellFormedBlock.analysed (outside : UInt8)
    (block : WellFormedBlock memory data size.toNat layout content) {entries : List ExifEntry}
    (present : content.exif = some entries) :
    ∃ exifBinary, (analyse outside data size).run memory = (.ok, exifBinary) ∧
      RecoversMain memory exifBinary content ∧
      returned exifBinary.extractMakerNote memory = content.makerNote ∧
      returned exifBinary.extractUniqueId memory = content.uniqueId.map (·.take 0x14) ∧
      returned exifBinary.extractThumbnail memory =
        (content.thumbnailRange exifBinary.size.toNat).map fun range =>
          (List.range' (exifBinary.data + range.1) range.2).map memory := by
  have block := block.toUInt32
  rcases block.mainFound outside with ⟨mainHeader, mainTags, found⟩
  rcases found.exifFound block present with ⟨exifHeader, exifTags, isExif, exifSlots⟩
  rcases found.thumbnailFound block rfl with
    ⟨thumbnailHeader, thumbnailTags, isThumbnail, thumbnailSlots⟩
  have declared := declaredTags_main data size.toUInt32
  refine ⟨_, run_analyse_iff.mpr (.ok found.isMain isExif isThumbnail), ?_, ?_, ?_, ?_⟩
  · apply recoversMain_of_slots
    intro slot
    exact (found.slots slot).describes (declared.empty slot slot.isLt)
  · exact (recoversExif_of_slots present exifSlots).1
  · exact (recoversExif_of_slots present exifSlots).2
  · exact recoversThumbnail_of_slots block.small thumbnailSlots

theorem WellFormedBlock.recovered_iff_of_exif
    (block : WellFormedBlock memory data size.toNat layout content) {entries : List ExifEntry}
    (present : content.exif = some entries) :
    BlockRecovered outside memory data size content ↔
      content.uniqueId = none ∧ content.effectiveDimension = none := by
  rcases block.analysed outside present with
    ⟨exifBinary, analysed, main, makerNote, uniqueId, thumbnail⟩
  constructor
  · rintro ⟨other, isOther, recovers⟩
    cases analysed.symm.trans isOther
    exact ⟨take_uniqueId_iff.mp (uniqueId.symm.trans recovers.uniqueId),
      recovers.effectiveDimension.symm⟩
  · rintro ⟨noUniqueId, noDimension⟩
    exact ⟨exifBinary, analysed, { main with
      makerNote := makerNote
      effectiveDimension := noDimension.symm
      uniqueId := uniqueId.trans (take_uniqueId_iff.mpr noUniqueId)
      thumbnail := thumbnail }⟩

end

end Capsrv.Image
