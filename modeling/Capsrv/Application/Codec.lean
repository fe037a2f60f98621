import Mathlib.Data.Fin.VecNotation
import Mathlib.Tactic.FinCases
import Mathlib.Tactic.IntervalCases
import Capsrv.PathCipher

/-! # The codecs of application entries

An album entry and an application entry are images of 32 bytes, two blocks of
AES each. Version 0 encrypts the image of the entry under the key of the
application; version 1 leaves most of it in the clear and puts a check value in
the place of the application id.
-/

namespace Capsrv

/-! ## Words and bytes -/

namespace Block

/-- The byte at an offset. -/
def byte (block : Block) (offset : Nat) : UInt8 :=
  if small : offset < 16 then block ⟨offset, small⟩ else 0

@[simp] theorem low_ofWords (low high : UInt64) : (ofWords low high).low = low := by
  have bound := low.toNat_lt
  apply UInt64.toNat_inj.mp
  simp only [Block.low, word, ofWords, List.ofFn_succ, List.ofFn_zero, List.foldr_cons,
    List.foldr_nil]
  simp
  omega

@[simp] theorem high_ofWords (low high : UInt64) : (ofWords low high).high = high := by
  have bound := high.toNat_lt
  apply UInt64.toNat_inj.mp
  simp only [Block.high, word, ofWords, List.ofFn_succ, List.ofFn_zero, List.foldr_cons,
    List.foldr_nil]
  simp
  omega

/-- Eight bytes of a word are what they were. -/
theorem byte_word (bytes : Fin 8 → UInt8) (index : Fin 8) :
    ((word bytes).toNat / 256 ^ index.val % 256).toUInt8 = bytes index := by
  have bounds := fun index => (bytes index).toNat_lt
  have first := bounds 0
  have second := bounds 1
  have third := bounds 2
  have fourth := bounds 3
  have fifth := bounds 4
  have sixth := bounds 5
  have seventh := bounds 6
  have eighth := bounds 7
  apply UInt8.toNat_inj.mp
  simp only [word, List.ofFn_succ, List.ofFn_zero, List.foldr_cons, List.foldr_nil]
  fin_cases index <;> simp <;> omega

@[simp] theorem ofWords_low_high (block : Block) : ofWords block.low block.high = block := by
  funext index
  rw [ofWords]
  split
  case isTrue small => exact byte_word (fun index => block (Fin.castAdd 8 index)) ⟨index, small⟩
  case isFalse large =>
    have split := byte_word (fun index => block (Fin.natAdd 8 index)) ⟨index.val - 8, by omega⟩
    have same : Fin.natAdd 8 (⟨index.val - 8, by omega⟩ : Fin 8) = index := by
      apply Fin.ext
      simp only [Fin.natAdd_mk]
      omega
    rwa [same] at split

end Block

/-! ## Images -/

/-- The union `ApplicationAlbumEntry`: its 32 bytes, as two blocks. -/
structure ApplicationAlbumEntry where
  first : Block
  second : Block
deriving DecidableEq

namespace AlbumDateTime

/-- The eight bytes of a date, in front of what follows it. -/
def bytes (dateTime : AlbumDateTime) (rest : Fin 8 → UInt8) : Block :=
  ![dateTime.year.toUInt8, (dateTime.year.toNat / 256).toUInt8, dateTime.month, dateTime.day,
    dateTime.hour, dateTime.minute, dateTime.second, dateTime.id,
    rest 0, rest 1, rest 2, rest 3, rest 4, rest 5, rest 6, rest 7]

def ofBytes (block : Block) : AlbumDateTime where
  year := UInt16.ofNat ((block.byte 0).toNat + 256 * (block.byte 1).toNat)
  month := block.byte 2
  day := block.byte 3
  hour := block.byte 4
  minute := block.byte 5
  second := block.byte 6
  id := block.byte 7

@[simp] theorem ofBytes_bytes (dateTime : AlbumDateTime) (rest : Fin 8 → UInt8) :
    ofBytes (dateTime.bytes rest) = dateTime := by
  have bound := dateTime.year.toNat_lt
  have year : UInt16.ofNat (dateTime.year.toUInt8.toNat +
      256 * (dateTime.year.toNat / 256).toUInt8.toNat) = dateTime.year := by
    apply UInt16.toNat_inj.mp
    simp
    omega
  change AlbumDateTime.mk _ _ _ _ _ _ _ = dateTime
  rw [AlbumDateTime.mk.injEq]
  exact ⟨year, rfl, rfl, rfl, rfl, rfl, rfl⟩

theorem bytes_ofBytes (block : Block) :
    (ofBytes block).bytes (fun index => block (Fin.natAdd 8 index)) = block := by
  have low := (block.byte 0).toNat_lt
  have high := (block.byte 1).toNat_lt
  have first : block 0 = block.byte 0 := rfl
  have second : block 1 = block.byte 1 := rfl
  funext index
  fin_cases index
  case «0» =>
    apply UInt8.toNat_inj.mp
    simp [bytes, ofBytes, first]
  case «1» =>
    apply UInt8.toNat_inj.mp
    simp [bytes, ofBytes, second]
    omega
  all_goals rfl

end AlbumDateTime

namespace AlbumEntry

/-- The bytes of an entry. -/
def image (entry : AlbumEntry) : ApplicationAlbumEntry where
  first := .ofWords entry.size.toUInt64 entry.fileId.applicationId
  second := entry.fileId.dateTime.bytes ![entry.fileId.storageId.value, entry.fileId.type.value,
    entry.fileId.pad[0], entry.fileId.pad[1], entry.fileId.pad[2], entry.fileId.pad[3],
    entry.fileId.pad[4], entry.fileId.pad[5]]

/-- The entry in the bytes. -/
def ofImage (image : ApplicationAlbumEntry) : AlbumEntry where
  size := ⟨image.first.low⟩
  fileId := {
    applicationId := image.first.high
    dateTime := .ofBytes image.second
    storageId := ⟨image.second.byte 8⟩
    type := ⟨image.second.byte 9⟩
    pad := #v[image.second.byte 10, image.second.byte 11, image.second.byte 12,
      image.second.byte 13, image.second.byte 14, image.second.byte 15] }

@[simp] theorem ofImage_image (entry : AlbumEntry) : ofImage entry.image = entry := by
  rcases entry with ⟨size, applicationId, dateTime, storageId, type, pad⟩
  have padding : #v[pad[0], pad[1], pad[2], pad[3], pad[4], pad[5]] = pad := by
    apply Vector.ext
    intro index small
    interval_cases index <;> rfl
  simp only [image, ofImage, Block.low_ofWords, Block.high_ofWords, AlbumDateTime.ofBytes_bytes]
  exact congrArg (fun pad => AlbumEntry.mk _ ⟨_, _, _, _, pad⟩) padding

@[simp] theorem image_ofImage (image : ApplicationAlbumEntry) : (ofImage image).image = image := by
  rcases image with ⟨first, second⟩
  have bytes : ∀ rest : Fin 8 → UInt8, rest = (fun index => second (Fin.natAdd 8 index)) →
      (AlbumDateTime.ofBytes second).bytes rest = second := by
    rintro rest rfl
    exact AlbumDateTime.bytes_ofBytes second
  simp only [AlbumEntry.image, ofImage, Block.ofWords_low_high, ApplicationAlbumEntry.mk.injEq,
    true_and]
  apply bytes
  funext index
  fin_cases index <;> rfl

end AlbumEntry

/-! ## The codecs -/

/-- The keys of AES-256. -/
abbrev Aes256Key := Fin 0x20 → UInt8

/-- AES-256 as the codecs use it: under the key of an application, where it is a
permutation of blocks, and as the encryption under `application_key`, of which
nothing is assumed. -/
structure ApplicationCiphers where
  aes256 : Aes256Key → Equiv.Perm Block
  applicationKey : Block → Block

/-- `EncryptV0`, which writes all of its output. -/
def encryptV0 (cipher : Equiv.Perm Block) (src : AlbumEntry) : ApplicationAlbumEntry where
  first := cipher src.image.first
  second := cipher src.image.second

/-- `DecryptV0`. -/
def decryptV0 (cipher : Equiv.Perm Block) (src : ApplicationAlbumEntry) : AlbumEntry :=
  .ofImage ⟨cipher.symm src.first, cipher.symm src.second⟩

/-- The four words of an encrypted image, combined. -/
def checkValue (encrypt : Block → Block) (image : ApplicationAlbumEntry) : UInt64 :=
  let first := encrypt image.first
  let second := encrypt image.second
  first.low ^^^ first.high ^^^ second.low ^^^ second.high

/-- `EncryptV1`. The five bytes `pad_x1a` of the output are not written. -/
def encryptV1 (encrypt : Block → Block) (dst : ApplicationAlbumEntry) (src : AlbumEntry)
    (version : UInt64) : Result × ApplicationAlbumEntry :=
  rUnless (version = 1) (⟨0x800ce⟩, dst)
  (let tmpEntry :=
    { src with fileId := { src.fileId with pad := src.fileId.pad.set 5 1 } }
  (.success,
    { first := .ofWords src.size.toUInt64 (checkValue encrypt tmpEntry.image)
      second := src.fileId.dateTime.bytes ![src.fileId.storageId.value, src.fileId.type.value,
        dst.second.byte 10, dst.second.byte 11, dst.second.byte 12, dst.second.byte 13,
        dst.second.byte 14, 1] }))

/-- `DecryptV1`. -/
def decryptV1 (encrypt : Block → Block) (dst : AlbumEntry) (src : ApplicationAlbumEntry)
    (applicationId : UInt64) : Result × AlbumEntry :=
  rUnless (src.second.byte 15 = 1) (albumInvalidApplicationId.result, dst)
  (let tmpEntry := { src with first := .ofWords src.first.low applicationId }
  rUnless (src.first.high = checkValue encrypt tmpEntry) (albumInvalidApplicationId.result, dst)
  (.success,
    { size := ⟨src.first.low⟩
      fileId := {
        applicationId := applicationId
        dateTime := .ofBytes src.second
        storageId := ⟨src.second.byte 8⟩
        type := ⟨src.second.byte 9⟩
        pad := .replicate 6 0 } }))

section

variable (cipher : Equiv.Perm Block)

@[simp] theorem decryptV0_encryptV0 (entry : AlbumEntry) :
    decryptV0 cipher (encryptV0 cipher entry) = entry := by
  simp only [decryptV0, encryptV0, Equiv.symm_apply_apply]
  exact AlbumEntry.ofImage_image entry

@[simp] theorem encryptV0_decryptV0 (src : ApplicationAlbumEntry) :
    encryptV0 cipher (decryptV0 cipher src) = src := by
  simp [decryptV0, encryptV0]

end

end Capsrv
