import Capsrv.Image.ExifExtractor

/-! # Exif contents

What an Exif block says, whatever its byte order and wherever its parts are, and
what it takes for a block to hold a content: a header, directories of entries,
and values in their entries or behind an offset. Parts may even share bytes,
since nothing is written.
-/

namespace Capsrv.Image

open Capsrv

/-! ## Values -/

/-- A format that no tag is declared with. -/
abbrev OtherFormat := { format : DataFormat //
  format ≠ .asciiStrings ∧ format ≠ .unsignedShort ∧ format ≠ .unsignedLong ∧
    format ≠ .undefined }

inductive ExifValue where
  | ascii (characters : List UInt8)
  | shorts (values : List UInt16)
  | longs (values : List UInt32)
  | undefined (bytes : List UInt8)
  | other (format : OtherFormat) (count : UInt32) (bytes : List UInt8)
deriving DecidableEq, Repr

/-- One string, with the NUL at its end. -/
def IsText (characters : List UInt8) : Prop :=
  characters.getLast? = some 0 ∧ 0 ∉ characters.dropLast

instance (characters : List UInt8) : Decidable (IsText characters) :=
  inferInstanceAs (Decidable (_ ∧ _))

namespace ExifValue

def format : ExifValue → DataFormat
  | ascii _ => .asciiStrings
  | shorts _ => .unsignedShort
  | longs _ => .unsignedLong
  | undefined _ => .undefined
  | other format _ _ => format.val

/-- The number of components. -/
def count : ExifValue → Nat
  | ascii characters => characters.length
  | shorts values => values.length
  | longs values => values.length
  | undefined bytes => bytes.length
  | other _ count _ => count.toNat

/-- The number of bytes. -/
def size : ExifValue → Nat
  | ascii characters => characters.length
  | shorts values => 2 * values.length
  | longs values => 4 * values.length
  | undefined bytes => bytes.length
  | other _ _ bytes => bytes.length

/-- The value is in memory at an address. -/
def At (binaryIo : BinaryIo) (memory : Memory) (address : Nat) : ExifValue → Prop
  | ascii characters => (List.range' address characters.length).map memory = characters
  | shorts values =>
      (List.range values.length).map (fun index =>
        binaryIo.halfAt memory (address + 2 * index)) = values
  | longs values =>
      (List.range values.length).map (fun index =>
        binaryIo.wordAt memory (address + 4 * index)) = values
  | undefined bytes => (List.range' address bytes.length).map memory = bytes
  | other _ _ bytes => (List.range' address bytes.length).map memory = bytes

instance (binaryIo : BinaryIo) (memory : Memory) (address : Nat) :
    (value : ExifValue) → Decidable (value.At binaryIo memory address)
  | ascii characters => inferInstanceAs (Decidable (_ = characters))
  | shorts values => inferInstanceAs (Decidable (_ = values))
  | longs values => inferInstanceAs (Decidable (_ = values))
  | undefined bytes => inferInstanceAs (Decidable (_ = bytes))
  | other _ _ bytes => inferInstanceAs (Decidable (_ = bytes))

def text : ExifValue → Option (List UInt8)
  | ascii characters => if IsText characters then some characters else none
  | _ => none

def short : ExifValue → Option UInt16
  | shorts [value] => some value
  | _ => none

def long : ExifValue → Option UInt32
  | longs [value] => some value
  | _ => none

def bytes : ExifValue → Option (List UInt8)
  | undefined bytes => if bytes = [] then none else some bytes
  | _ => none

end ExifValue

/-! ## Directories -/

structure ExifEntry where
  marker : UInt16
  value : ExifValue
deriving DecidableEq, Repr

/-- The value behind a marker. -/
def findValue (entries : List ExifEntry) (marker : UInt16) : Option ExifValue :=
  (entries.find? fun entry => entry.marker = marker).map ExifEntry.value

structure ExifContent where
  main : List ExifEntry
  exif : Option (List ExifEntry)
  thumbnail : Option (List ExifEntry)
deriving DecidableEq, Repr

/-! ### The value of each tag -/

namespace ExifContent

variable (content : ExifContent)

def mainValue (marker : UInt16) : Option ExifValue :=
  findValue content.main marker

def exifValue (marker : UInt16) : Option ExifValue :=
  content.exif.bind (findValue · marker)

def thumbnailValue (marker : UInt16) : Option ExifValue :=
  content.thumbnail.bind (findValue · marker)

def maker : Option (List UInt8) :=
  (content.mainValue 0x010f).bind ExifValue.text

def model : Option (List UInt8) :=
  (content.mainValue 0x0110).bind ExifValue.text

def orientation : Option UInt16 :=
  ((content.mainValue 0x0112).bind ExifValue.short).filter (· < 9)

def software : Option (List UInt8) :=
  (content.mainValue 0x0131).bind ExifValue.text

def dateTime : Option (List UInt8) :=
  ((content.mainValue 0x0132).bind ExifValue.text).filter (·.length = 0x14)

def makerNote : Option (List UInt8) :=
  (content.exifValue 0x927c).bind ExifValue.bytes

/-- Width and height. -/
def effectiveDimension : Option (UInt32 × UInt32) :=
  match (content.exifValue 0xa002).bind ExifValue.short,
    (content.exifValue 0xa003).bind ExifValue.short with
  | some width, some height => some (width.toUInt32, height.toUInt32)
  | _, _ => none

def uniqueId : Option (List UInt8) :=
  ((content.exifValue 0xa420).bind ExifValue.text).filter (·.length = 0x21)

/-- Offset and size of a jpeg thumbnail inside the block. -/
def thumbnailRange (blockSize : Nat) : Option (Nat × Nat) :=
  match (content.thumbnailValue 0x0103).bind ExifValue.short,
    (content.thumbnailValue 0x0201).bind ExifValue.long,
    (content.thumbnailValue 0x0202).bind ExifValue.long with
  | some compression, some jpegOffset, some jpegSize =>
      if compression = 6 ∧ jpegOffset.toNat + jpegSize.toNat ≤ blockSize then
        some (jpegOffset.toNat, jpegSize.toNat)
      else none
  | _, _, _ => none

end ExifContent

/-! ## Layout -/

/-- An entry at a position of the block at `data`. -/
structure EntryAt (binaryIo : BinaryIo) (memory : Memory) (data size position : Nat)
    (entry : ExifEntry) : Prop where
  marker : binaryIo.halfAt memory (data + position) = entry.marker
  format : binaryIo.halfAt memory (data + position + 2) = entry.value.format
  count : (binaryIo.wordAt memory (data + position + 4)).toNat = entry.value.count
  inline : entry.value.size ≤ 4 → entry.value.At binaryIo memory (data + position + 8)
  offset : 4 < entry.value.size →
    entry.value.At binaryIo memory
      (data + (binaryIo.wordAt memory (data + position + 8)).toNat) ∧
    8 ≤ (binaryIo.wordAt memory (data + position + 8)).toNat ∧
    (binaryIo.wordAt memory (data + position + 8)).toNat + entry.value.size ≤ size

instance (binaryIo : BinaryIo) (memory : Memory) (data size position : Nat) (entry : ExifEntry) :
    Decidable (EntryAt binaryIo memory data size position entry) :=
  decidable_of_iff
    (binaryIo.halfAt memory (data + position) = entry.marker ∧
      binaryIo.halfAt memory (data + position + 2) = entry.value.format ∧
      (binaryIo.wordAt memory (data + position + 4)).toNat = entry.value.count ∧
      (entry.value.size ≤ 4 → entry.value.At binaryIo memory (data + position + 8)) ∧
      (4 < entry.value.size →
        entry.value.At binaryIo memory
          (data + (binaryIo.wordAt memory (data + position + 8)).toNat) ∧
        8 ≤ (binaryIo.wordAt memory (data + position + 8)).toNat ∧
        (binaryIo.wordAt memory (data + position + 8)).toNat + entry.value.size ≤ size))
    ⟨fun both => ⟨both.1, both.2.1, both.2.2.1, both.2.2.2.1, both.2.2.2.2⟩,
      fun present =>
        ⟨present.marker, present.format, present.count, present.inline, present.offset⟩⟩

/-- A directory at an offset of the block, with the offset of the next one
behind its entries. -/
structure DirectoryAt (binaryIo : BinaryIo) (memory : Memory) (data size : Nat) (offset : UInt32)
    (entries : List ExifEntry) (next : UInt32) : Prop where
  first : 8 ≤ offset.toNat
  fits : offset.toNat + 2 + 12 * entries.length + 4 ≤ size
  count : (binaryIo.halfAt memory (data + offset.toNat)).toNat = entries.length
  entry : ∀ index (below : index < entries.length),
    EntryAt binaryIo memory data size (offset.toNat + 2 + 12 * index) entries[index]
  distinct : (entries.map ExifEntry.marker).Nodup
  next : binaryIo.wordAt memory (data + offset.toNat + 2 + 12 * entries.length) = next

instance (binaryIo : BinaryIo) (memory : Memory) (data size : Nat) (offset : UInt32)
    (entries : List ExifEntry) (next : UInt32) :
    Decidable (DirectoryAt binaryIo memory data size offset entries next) :=
  decidable_of_iff
    (8 ≤ offset.toNat ∧ offset.toNat + 2 + 12 * entries.length + 4 ≤ size ∧
      (binaryIo.halfAt memory (data + offset.toNat)).toNat = entries.length ∧
      (∀ index (below : index < entries.length),
        EntryAt binaryIo memory data size (offset.toNat + 2 + 12 * index) entries[index]) ∧
      (entries.map ExifEntry.marker).Nodup ∧
      binaryIo.wordAt memory (data + offset.toNat + 2 + 12 * entries.length) = next)
    ⟨fun both => ⟨both.1, both.2.1, both.2.2.1, both.2.2.2.1, both.2.2.2.2.1, both.2.2.2.2.2⟩,
      fun directory => ⟨directory.first, directory.fits, directory.count, directory.entry,
        directory.distinct, directory.next⟩⟩

/-- The byte order of a block, and where its directories are. -/
structure ExifLayout where
  binaryIo : BinaryIo
  mainOffset : UInt32
  exifOffset : UInt32
  thumbnailOffset : UInt32
deriving DecidableEq, Repr

/-- A block of less than 64 KiB with a content. -/
structure WellFormedBlock (memory : Memory) (data size : Nat) (layout : ExifLayout)
    (content : ExifContent) : Prop where
  small : size < 0x10000
  magic : BinaryIo.ofMagic (BinaryIo.intel.halfAt memory data) = some layout.binaryIo
  tagMark : layout.binaryIo.halfAt memory (data + 2) = 0x2a
  mainOffset : layout.binaryIo.wordAt memory (data + 4) = layout.mainOffset
  main : DirectoryAt layout.binaryIo memory data size layout.mainOffset content.main
    (if content.thumbnail.isSome then layout.thumbnailOffset else 0)
  noPointer : content.exif = none → content.mainValue 0x8769 = none
  pointer : content.exif ≠ none → content.mainValue 0x8769 = some (.longs [layout.exifOffset])
  exif : ∀ entries ∈ content.exif,
    DirectoryAt layout.binaryIo memory data size layout.exifOffset entries 0
  thumbnail : ∀ entries ∈ content.thumbnail,
    DirectoryAt layout.binaryIo memory data size layout.thumbnailOffset entries 0

end Capsrv.Image
