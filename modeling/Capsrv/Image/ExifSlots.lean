import Capsrv.Image.ExifBounds
import Capsrv.Image.ExifContent

/-! # The slots of a well-formed directory

The readers find a directory of a block with a content, and the search leaves in
each slot the value of its marker, or the slot as it is declared.
-/

namespace Capsrv.Image

open Capsrv

/-! ## One slot -/

section

variable {outside : UInt8} {n : Nat} {count : Nat} {tags : IfdTags n} {slot : Fin n}
variable {position : UInt16} {entry : IfdEntry}

theorem findTag_some {marker : UInt16} (found : findTag tags count marker = some slot) :
    (tags slot).marker = marker := by
  have holds := List.find?_some found
  simp only [decide_eq_true_eq] at holds
  exact holds.2

theorem findTag_of_marker (distinct : Function.Injective fun index => (tags index).marker)
    (bound : slot.val ≤ count) : findTag tags count (tags slot).marker = some slot := by
  cases found : findTag tags count (tags slot).marker with
  | none =>
      have refused := List.find?_eq_none.mp found slot (List.mem_finRange slot)
      simp only [decide_eq_true_eq, and_true] at refused
      exact absurd bound refused
  | some other =>
      have same := findTag_some found
      rw [distinct same]

/-- An entry leaves the slots with other markers alone. -/
theorem record_of_ne (different : entry.marker ≠ (tags slot).marker) :
    IfdTags.record outside tags count position entry slot = tags slot := by
  rcases IfdTags.record_cases outside tags count position entry with
      same | ⟨filled, found, -, -, record⟩
  · rw [same]
  · rw [record, Function.update_of_ne]
    intro equal
    subst equal
    exact different (findTag_some found).symm

/-- What an entry makes of the slot with its marker. -/
theorem record_of_marker (distinct : Function.Injective fun index => (tags index).marker)
    (bound : slot.val ≤ count) (same : entry.marker = (tags slot).marker) :
    IfdTags.record outside tags count position entry slot =
      if entry.format = (tags slot).format ∧ (tags slot).Counts entry.componentNumber then
        (tags slot).fill outside position entry
      else tags slot := by
  have found : findTag tags count entry.marker = some slot := by
    rw [same]
    exact findTag_of_marker distinct bound
  rw [IfdTags.record, found]
  dsimp only
  split
  · rw [Function.update_self]
  · rfl

theorem record_marker :
    (IfdTags.record outside tags count position entry slot).marker = (tags slot).marker := by
  rcases IfdTags.record_cases outside tags count position entry with
      same | ⟨filled, -, -, -, record⟩
  · rw [same]
  · rw [record]
    by_cases equal : slot = filled
    · subst equal
      rw [Function.update_self]
      rfl
    · rw [Function.update_of_ne equal]

variable {memory : Memory} {exifBinary : ExifBinary} {header : IfdHeader}

theorem after_marker (entries : Nat) :
    (IfdTags.after outside memory exifBinary header count tags entries slot).marker =
      (tags slot).marker := by
  induction entries with
  | zero => rfl
  | succ entries induction =>
      rw [IfdTags.after, record_marker, induction]

/-- Entries with other markers leave a slot alone. -/
theorem after_of_ne {start stop : Nat} (le : start ≤ stop)
    (different : ∀ index, start ≤ index → index < stop →
      (header.entry exifBinary memory index).marker ≠ (tags slot).marker) :
    IfdTags.after outside memory exifBinary header count tags stop slot =
      IfdTags.after outside memory exifBinary header count tags start slot := by
  induction stop, le using Nat.le_induction with
  | base => rfl
  | succ stop le induction =>
      have last := different stop le (Nat.lt_succ_self stop)
      rw [IfdTags.after, record_of_ne (by rw [after_marker]; exact last)]
      apply induction
      intro index first below
      exact different index first (Nat.lt_succ_of_lt below)

/-- A slot after a directory in which one entry has its marker. -/
theorem after_of_unique (distinct : Function.Injective fun index => (tags index).marker)
    (bound : slot.val ≤ count) {index entries : Nat} (below : index < entries)
    (same : (header.entry exifBinary memory index).marker = (tags slot).marker)
    (unique : ∀ other < entries,
      (header.entry exifBinary memory other).marker = (tags slot).marker → other = index) :
    IfdTags.after outside memory exifBinary header count tags entries slot =
      if (header.entry exifBinary memory index).format = (tags slot).format ∧
          (tags slot).Counts (header.entry exifBinary memory index).componentNumber then
        (tags slot).fill outside (header.entryOffset index)
          (header.entry exifBinary memory index)
      else tags slot := by
  have before : IfdTags.after outside memory exifBinary header count tags index slot =
      tags slot := by
    rw [after_of_ne (Nat.zero_le index), IfdTags.after]
    intro other _ earlier equal
    exact absurd (unique other (by omega) equal) (by omega)
  have behind : IfdTags.after outside memory exifBinary header count tags entries slot =
      IfdTags.after outside memory exifBinary header count tags (index + 1) slot := by
    apply after_of_ne below
    intro other later inside equal
    exact absurd (unique other inside equal) (by omega)
  have stillDistinct : Function.Injective fun other =>
      (IfdTags.after outside memory exifBinary header count tags index other).marker := by
    intro first second equal
    simp only [after_marker] at equal
    exact distinct equal
  rw [behind, IfdTags.after, record_of_marker stillDistinct bound (by rw [before]; exact same),
    before]

end

/-! ## Directories -/

/-- A directory at an offset of the block but for its entries: their number, and
the offset of the next directory behind them. -/
structure DirectoryFrame (binaryIo : BinaryIo) (memory : Memory) (data size : Nat)
    (offset : UInt32) (length : Nat) (next : UInt32) : Prop where
  first : 8 ≤ offset.toNat
  fits : offset.toNat + 2 + 12 * length + 4 ≤ size
  count : (binaryIo.halfAt memory (data + offset.toNat)).toNat = length
  next : binaryIo.wordAt memory (data + offset.toNat + 2 + 12 * length) = next

/-- The header that is read for such a directory. -/
def IfdHeader.ofFrame (offset : UInt32) (length : Nat) (next : UInt32) : IfdHeader :=
  ⟨offset.toUInt16, UInt16.ofNat length, next.toUInt16⟩

/-- The header that is read for a directory. -/
def IfdHeader.ofDirectory (offset : UInt32) (entries : List ExifEntry) (next : UInt32) :
    IfdHeader :=
  ⟨offset.toUInt16, UInt16.ofNat entries.length, next.toUInt16⟩

/-- The next directory is absent, or it can be inside. -/
def NextInside (size : UInt32) (next : UInt32) : Prop :=
  next = 0 ∨ 8 ≤ next.toNat ∧ next.toNat + 6 ≤ size.toNat

/-- A link that is read as a short passes its checks. -/
theorem NextInside.toUInt16 {size next : UInt32} (valid : NextInside size next)
    (small : size.toNat < 0x10000) :
    next.toUInt16 = 0 ∨ 8 ≤ next.toUInt16 ∧ next.toUInt16.toUInt32 ≤ size - 6 := by
  rcases valid with rfl | ⟨least, inside⟩
  · exact .inl rfl
  · have exact : next.toUInt16.toNat = next.toNat := by
      rw [UInt32.toNat_toUInt16]
      omega
    right
    constructor
    · rw [UInt16.le_iff_toNat_le, exact]
      exact least
    · apply (le_sub_six_iff (by omega)).mpr
      rw [UInt16.toNat_toUInt32, exact]
      exact inside

/-- Below 64 KiB the offset of an entry is not cut off. -/
theorem IfdHeader.toNat_entryOffset {header : IfdHeader} {index : Nat}
    (small : header.offset.toNat + 2 + 12 * index < 0x10000) :
    (header.entryOffset index).toNat = header.offset.toNat + 2 + 12 * index := by
  rw [IfdHeader.entryOffset, UInt16.toNat_ofNat']
  omega

namespace DirectoryFrame

section

variable {binaryIo : BinaryIo} {memory : Memory} {data length : Nat} {offset next size : UInt32}
variable (frame : DirectoryFrame binaryIo memory data size.toNat offset length next)

include frame

/-- The directory can be one that another one leads to. -/
theorem nextInside : NextInside size offset := by
  have fits := frame.fits
  exact .inr ⟨frame.first, by omega⟩

theorem last : offset ≤ size - 6 := by
  have first := frame.first
  have fits := frame.fits
  exact (le_sub_six_iff (by omega)).mpr (by omega)

/-- Its offset is not cut off as a link. -/
theorem toUInt16_offset (small : size.toNat < 0x10000) :
    offset.toUInt16 ≠ 0 ∧ offset.toUInt16.toUInt32 = offset := by
  have first := frame.first
  have fits := frame.fits
  have exact : offset.toUInt16.toNat = offset.toNat := by
    rw [UInt32.toNat_toUInt16]
    omega
  constructor
  · intro zero
    rw [zero] at exact
    have none : offset.toNat = 0 := exact.symm
    omega
  · apply UInt32.toNat_inj.mp
    rw [UInt16.toNat_toUInt32, exact]

end

variable {memory : Memory} {exifBinary : ExifBinary} {offset next : UInt32} {length : Nat}
variable (frame : DirectoryFrame exifBinary.binaryIo memory exifBinary.data
    exifBinary.size.toNat offset length next) (small : exifBinary.size.toNat < 0x10000)

include frame small

theorem few : (UInt16.ofNat length).toNat = length ∧ length ≤ 5461 := by
  have fits := frame.fits
  rw [UInt16.toNat_ofNat']
  omega

theorem isIfdHeader (valid : NextInside exifBinary.size next) :
    IsIfdHeader memory exifBinary offset (.ofFrame offset length next) := by
  rcases frame.few small with ⟨exactLength, few⟩
  have first := frame.first
  have fits := frame.fits
  have count : UInt16.ofNat length =
      exifBinary.binaryIo.halfAt memory (exifBinary.data + offset.toNat) :=
    UInt16.toNat_inj.mp (exactLength.trans frame.count.symm)
  have last := frame.last
  have headerLength : (headerSize (UInt16.ofNat length)).toNat = length * 12 := by
    rw [toNat_headerSize (by omega), exactLength]
  rcases toNat_ifdEnd (by omega) last (by omega) (UInt16.ofNat length) with ⟨-, exact⟩
  refine ⟨UInt32.le_iff_toNat_le.mpr first, last, rfl, count, ?_, ?_, ?_⟩
  · rw [UInt32.le_iff_toNat_le]
    change (offset + (headerSize (UInt16.ofNat length)).toUInt32 + 6).toNat ≤ _
    rw [exact, headerLength]
    omega
  · have address : exifBinary.data + (headerSize (UInt16.ofNat length) ||| 2).toNat +
        offset.toNat = exifBinary.data + offset.toNat + 2 + 12 * length := by
      rw [toNat_headerSize_or, headerLength]
      omega
    change next.toUInt16 = (exifBinary.binaryIo.wordAt memory (exifBinary.data +
      (headerSize (UInt16.ofNat length) ||| 2).toNat + offset.toNat)).toUInt16
    rw [address, frame.next]
  · exact valid.toUInt16 small

theorem toNat_entryOffset {index : Nat} (below : index < length) :
    ((IfdHeader.ofFrame offset length next).entryOffset index).toNat =
      offset.toNat + 2 + 12 * index := by
  have fits := frame.fits
  have start : (IfdHeader.ofFrame offset length next).offset.toNat = offset.toNat := by
    change offset.toUInt16.toNat = _
    rw [UInt32.toNat_toUInt16]
    omega
  rw [← start]
  exact IfdHeader.toNat_entryOffset (by omega)

/-- The fields of an entry are read at its position. -/
theorem entryRead {index : Nat} (below : index < length) :
    (IfdHeader.ofFrame offset length next).entry exifBinary memory index =
      exifBinary.binaryIo.entryAt memory
        (exifBinary.data + (offset.toNat + 2 + 12 * index)) := by
  rw [IfdHeader.entry, IfdHeader.entryAddress, frame.toNat_entryOffset small below]

end DirectoryFrame

section

variable {binaryIo : BinaryIo} {memory : Memory} {data size : Nat} {offset next : UInt32}
variable {entries : List ExifEntry}

theorem DirectoryAt.frame (directory : DirectoryAt binaryIo memory data size offset entries next) :
    DirectoryFrame binaryIo memory data size offset entries.length next :=
  ⟨directory.first, directory.fits, directory.count, directory.next⟩

end

/-! ## Slots and values -/

/-- The formats a tag can be declared with. -/
def DeclaredFormat (format : DataFormat) : Prop :=
  format = .asciiStrings ∨ format = .unsignedShort ∨ format = .unsignedLong ∨
    format = .undefined

instance (format : DataFormat) : Decidable (DeclaredFormat format) :=
  inferInstanceAs (Decidable (_ ∨ _))

namespace IfdTag

/-- A slot as it is declared takes this value. -/
def Accepts (tag : IfdTag) (value : ExifValue) : Prop :=
  value.format = tag.format ∧ (tag.count = 0 ∨ tag.count = value.count)

instance (tag : IfdTag) (value : ExifValue) : Decidable (tag.Accepts value) :=
  inferInstanceAs (Decidable (_ ∧ _))

/-- The value of a directory that a slot takes. -/
def accepted (tag : IfdTag) (entries : List ExifEntry) : Option ExifValue :=
  (findValue entries tag.marker).filter (tag.Accepts ·)

theorem accepted_of_accepts {tag : IfdTag} {entries : List ExifEntry} {value : ExifValue}
    (found : findValue entries tag.marker = some value) (accepts : tag.Accepts value) :
    tag.accepted entries = some value := by
  rw [accepted, found, Option.filter_some, if_pos (decide_eq_true accepts)]

theorem accepted_of_not_accepts {tag : IfdTag} {entries : List ExifEntry} {value : ExifValue}
    (found : findValue entries tag.marker = some value) (refuses : ¬ tag.Accepts value) :
    tag.accepted entries = none := by
  rw [accepted, found, Option.filter_some, if_neg fun taken => refuses (of_decide_eq_true taken)]

/-- The slot describes a value in memory, or it is as declared. -/
def Holds (binaryIo : BinaryIo) (memory : Memory) (data : Nat) (declared slot : IfdTag) :
    Option ExifValue → Prop
  | none => slot = declared
  | some value =>
      8 ≤ slot.offset.toNat ∧ slot.size.toNat = value.size ∧
        value.At binaryIo memory (data + slot.offset.toNat)

end IfdTag

theorem ExifValue.size_eq (outside : UInt8) {value : ExifValue}
    (declared : DeclaredFormat value.format) :
    (dataFormatSize outside value.format).toNat * value.count = value.size ∧
      value.count ≤ value.size := by
  cases value with
  | ascii characters => exact ⟨Nat.one_mul _, Nat.le_refl _⟩
  | shorts values => exact ⟨rfl, Nat.le_mul_of_pos_left _ (by decide)⟩
  | longs values => exact ⟨rfl, Nat.le_mul_of_pos_left _ (by decide)⟩
  | undefined bytes => exact ⟨Nat.one_mul _, Nat.le_refl _⟩
  | other format count bytes =>
      rcases format.property with ⟨ascii, short, long, undefined⟩
      rcases declared with same | same | same | same
      · exact absurd same ascii
      · exact absurd same short
      · exact absurd same long
      · exact absurd same undefined

section

variable {outside : UInt8} {binaryIo : BinaryIo} {memory : Memory} {data size position : Nat}
variable {entry : ExifEntry} {tag : IfdTag}

theorem EntryAt.size_lt (present : EntryAt binaryIo memory data size position entry)
    (small : size < 0x10000) : entry.value.size < 0xffff := by
  by_cases inline : entry.value.size ≤ 4
  · omega
  · have inside := (present.offset (by omega)).2
    omega

/-- The search accepts an entry exactly if the slot takes its value. -/
theorem EntryAt.accepts_iff (present : EntryAt binaryIo memory data size position entry)
    (small : size < 0x10000) (declared : DeclaredFormat tag.format) :
    ((binaryIo.entryAt memory (data + position)).format = tag.format ∧
        tag.Counts (binaryIo.entryAt memory (data + position)).componentNumber) ↔
      tag.Accepts entry.value := by
  have format : (binaryIo.entryAt memory (data + position)).format = entry.value.format :=
    present.format
  have count : (binaryIo.entryAt memory (data + position)).componentNumber.toNat =
      entry.value.count := present.count
  rw [format, IfdTag.Counts, count, UInt32.lt_iff_toNat_lt, count, IfdTag.Accepts]
  apply and_congr_right
  intro same
  have sizes := ExifValue.size_eq 0 (same ▸ declared)
  have below := present.size_lt small
  have limit : (0xffff : UInt32).toNat = 0xffff := rfl
  exact and_iff_right (by omega)

/-- An accepted entry fills the slot with its value. -/
theorem EntryAt.holds_fill (present : EntryAt binaryIo memory data size position entry)
    (small : size < 0x10000) (declared : DeclaredFormat tag.format)
    (accepts : tag.Accepts entry.value) {offset : UInt16} (atPosition : offset.toNat = position) :
    tag.Holds binaryIo memory data
      (tag.fill outside offset (binaryIo.entryAt memory (data + position)))
      (some entry.value) := by
  have sizes := ExifValue.size_eq outside (accepts.1 ▸ declared)
  have below := present.size_lt small
  have exact : ((binaryIo.entryAt memory (data + position)).size outside).toNat =
      entry.value.size := by
    have format : (binaryIo.entryAt memory (data + position)).format = entry.value.format :=
      present.format
    have count : (binaryIo.entryAt memory (data + position)).componentNumber.toNat =
        entry.value.count := present.count
    rw [IfdEntry.size, UInt32.toNat_mul, format, count, UInt8.toNat_toUInt32, sizes.1]
    exact Nat.mod_eq_of_lt (by omega)
  rw [IfdTag.Holds]
  by_cases inline : entry.value.size ≤ 4
  · rw [IfdTag.offset_fill_of_inline (exact.trans_le inline), atPosition, ← Nat.add_assoc]
    exact ⟨by omega, exact, present.inline inline⟩
  · rcases present.offset (by omega) with ⟨stored, behind, -⟩
    rw [IfdTag.offset_fill_of_long (by omega)]
    exact ⟨behind, exact, stored⟩

end

/-! ## The slots after a directory -/

section

variable {outside : UInt8} {memory : Memory} {exifBinary : ExifBinary} {offset next : UInt32}
variable {entries : List ExifEntry} {n count : Nat} {tags : IfdTags n} {slot : Fin n}

/-- What stands behind a marker is at one index. -/
theorem findValue_eq_some {marker : UInt16} {value : ExifValue}
    (found : findValue entries marker = some value) :
    ∃ (index : Nat) (below : index < entries.length),
      entries[index].marker = marker ∧ entries[index].value = value := by
  rw [findValue, Option.map_eq_some_iff] at found
  rcases found with ⟨entry, found, rfl⟩
  rcases List.find?_eq_some_iff_getElem.mp found with ⟨same, index, below, rfl, -⟩
  exact ⟨index, below, of_decide_eq_true same, rfl⟩

theorem findValue_eq_none {marker : UInt16} (absent : findValue entries marker = none)
    {index : Nat} (below : index < entries.length) : entries[index].marker ≠ marker := by
  rw [findValue, Option.map_eq_none_iff] at absent
  have refused := List.find?_eq_none.mp absent entries[index] (List.getElem_mem below)
  exact fun same => refused (decide_eq_true same)

theorem DirectoryAt.index_unique (directory : DirectoryAt exifBinary.binaryIo memory
      exifBinary.data exifBinary.size.toNat offset entries next) {first second : Nat}
    (firstBelow : first < entries.length) (secondBelow : second < entries.length)
    (same : entries[first].marker = entries[second].marker) : first = second := by
  have firstMapped : first < (entries.map ExifEntry.marker).length := by
    rw [List.length_map]
    exact firstBelow
  have secondMapped : second < (entries.map ExifEntry.marker).length := by
    rw [List.length_map]
    exact secondBelow
  have mapped :
      (entries.map ExifEntry.marker)[first] = (entries.map ExifEntry.marker)[second] := by
    rw [List.getElem_map, List.getElem_map]
    exact same
  exact directory.distinct.getElem_inj_iff.mp mapped

/-- After a well-formed directory a slot holds the value it takes. -/
theorem DirectoryAt.slotHolds (directory : DirectoryAt exifBinary.binaryIo memory
      exifBinary.data exifBinary.size.toNat offset entries next)
    (small : exifBinary.size.toNat < 0x10000)
    (distinct : Function.Injective fun index => (tags index).marker) (bound : slot.val ≤ count)
    (declared : DeclaredFormat (tags slot).format) :
    (tags slot).Holds exifBinary.binaryIo memory exifBinary.data
      (IfdTags.after outside memory exifBinary (.ofDirectory offset entries next) count tags
        entries.length slot)
      ((tags slot).accepted entries) := by
  have entryRead : ∀ index < entries.length,
      (IfdHeader.ofDirectory offset entries next).entry exifBinary memory index =
        exifBinary.binaryIo.entryAt memory
          (exifBinary.data + (offset.toNat + 2 + 12 * index)) :=
    fun index below => directory.frame.entryRead small below
  have marker : ∀ index (below : index < entries.length),
      ((IfdHeader.ofDirectory offset entries next).entry exifBinary memory index).marker =
        entries[index].marker := by
    intro index below
    rw [entryRead index below]
    exact (directory.entry index below).marker
  cases found : findValue entries (tags slot).marker with
  | none =>
      rw [IfdTag.accepted, found]
      apply after_of_ne (Nat.zero_le entries.length)
      intro index _ below
      rw [marker index below]
      exact findValue_eq_none found below
  | some value =>
      rcases findValue_eq_some found with ⟨index, below, same, rfl⟩
      have present := directory.entry index below
      have unique : ∀ other < entries.length,
          ((IfdHeader.ofDirectory offset entries next).entry exifBinary memory other).marker =
            (tags slot).marker → other = index := by
        intro other otherBelow equal
        rw [marker other otherBelow, ← same] at equal
        exact directory.index_unique otherBelow below equal
      rw [after_of_unique distinct bound below ((marker index below).trans same) unique,
        entryRead index below]
      by_cases accepts : (tags slot).Accepts entries[index].value
      · have taken := (present.accepts_iff small declared).mpr accepts
        rw [if_pos taken, IfdTag.accepted_of_accepts found accepts]
        exact present.holds_fill small declared accepts
          (directory.frame.toNat_entryOffset small below)
      · have refused := mt (present.accepts_iff small declared).mp accepts
        rw [if_neg refused, IfdTag.accepted_of_not_accepts found accepts]
        rfl

end

end Capsrv.Image
