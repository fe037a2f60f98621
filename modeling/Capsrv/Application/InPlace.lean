import Capsrv.Application.Entries
import Capsrv.Foundation.ByteMemory

/-! # Encrypting a buffer in place

The codecs statement by statement over the memory, where source and destination
are two pointers. The buffer requests pass the same pointer for both, as an
entry of one type and of the other.
-/

namespace Capsrv

/-- The little-endian bytes of a word. -/
def Block.wordBytes (value : UInt64) : Fin 8 → UInt8 :=
  fun index => (value.toNat / 256 ^ index.val % 256).toUInt8

@[simp] theorem Block.word_wordBytes (value : UInt64) :
    Block.word (Block.wordBytes value) = value :=
  Block.low_ofWords value 0

/-- The 32 bytes at a pointer to either type of entry. -/
def appEntryAt (memory : Memory) (pointer : Nat) : ApplicationAlbumEntry :=
  ⟨memory.load pointer, memory.load (pointer + 0x10)⟩

/-- A pointer to an album entry, read. -/
def albumEntryAt (memory : Memory) (pointer : Nat) : AlbumEntry :=
  .ofImage (appEntryAt memory pointer)

/-! ## The codecs over the memory -/

/-- The padding has a sixth byte. -/
theorem five_lt_padding : 5 < 6 := by
  decide

/-- `EncryptV0`. -/
def encryptV0At (cipher : Equiv.Perm Block) (dst src : Nat) (memory : Memory) : Memory :=
  let memory := memory.store dst (cipher (memory.load src))
  memory.store (dst + 0x10) (cipher (memory.load (src + 0x10)))

/-- `EncryptV1`: the temporary is a copy, everything else is read from the
source when it is assigned. -/
def encryptV1At (encrypt : Block → Block) (dst src : Nat) (version : UInt64) (memory : Memory) :
    Result × Memory :=
  rUnless (version = 1) (⟨0x800ce⟩, memory)
  (let tmpEntry := albumEntryAt memory src
  let tmpEntry :=
    { tmpEntry with
      fileId := { tmpEntry.fileId with pad := tmpEntry.fileId.pad.set 5 1 five_lt_padding } }
  let memory := memory.store dst (memory.load src : Fin 8 → UInt8)
  let memory := memory.store (dst + 0x8) (Block.wordBytes (checkValue encrypt tmpEntry.image))
  let memory := memory.store (dst + 0x10) (memory.load (src + 0x10) : Fin 8 → UInt8)
  let memory := memory.store (dst + 0x18) (memory.load (src + 0x18) : Fin 1 → UInt8)
  let memory := memory.store (dst + 0x19) (memory.load (src + 0x19) : Fin 1 → UInt8)
  let memory := memory.store (dst + 0x1f) (fun _ : Fin 1 => 1)
  (.success, memory))

section

variable (memory : Memory) (pointer : Nat)

theorem encryptV0At_same (cipher : Equiv.Perm Block) :
    appEntryAt (encryptV0At cipher pointer pointer memory) pointer =
      encryptV0 cipher (albumEntryAt memory pointer) := by
  have behind : Memory.Apart pointer 16 (pointer + 0x10) 16 := .inl (by omega)
  have before : Memory.Apart (pointer + 0x10) 16 pointer 16 := .inr (by omega)
  simp only [appEntryAt, encryptV0At, encryptV0, albumEntryAt,
    AlbumEntry.image_ofImage, Memory.load_store, Memory.load_store_of_apart _ _ _ behind,
    Memory.load_store_of_apart _ _ _ before]

theorem encryptV0At_outside (cipher : Equiv.Perm Block) :
    memory.SameOutside (encryptV0At cipher pointer pointer memory) pointer 0x20 := by
  have same : memory.SameOutside memory pointer 0x20 := .refl memory
  have first := same.store (Nat.le_refl pointer) (by omega) (cipher (memory.load pointer))
  exact first.store (by omega) (by omega) _

/-- Over the same entry only two fields change: the others are assigned what
they are. -/
theorem encryptV1At_self (encrypt : Block → Block) :
    (encryptV1At encrypt pointer pointer 1 memory).2 =
      (memory.store (pointer + 0x8) (Block.wordBytes (checkValue encrypt
          { albumEntryAt memory pointer with
            fileId := { (albumEntryAt memory pointer).fileId with
              pad := (albumEntryAt memory pointer).fileId.pad.set 5 1
                five_lt_padding } }.image))).store
        (pointer + 0x1f) (fun _ : Fin 1 => 1) := by
  simp only [encryptV1At, rUnless, if_true, Memory.store_load]

theorem block_eq_of_words {block : Block} {low high : UInt64}
    (lowWord : Block.word (fun index => block (Fin.castAdd 8 index)) = low)
    (highWord : Block.word (fun index => block (Fin.natAdd 8 index)) = high) :
    block = .ofWords low high := by
  rw [← Block.ofWords_low_high block, ← lowWord, ← highWord]
  rfl

/-- The bytes of a date do not depend on what follows them. -/
theorem bytes_ofBytes_of_eq {block after : Block}
    (date : ∀ index : Fin 8, after (Fin.castAdd 8 index) = block (Fin.castAdd 8 index)) :
    (AlbumDateTime.ofBytes block).bytes (fun index => after (Fin.natAdd 8 index)) = after := by
  have same : AlbumDateTime.ofBytes block = AlbumDateTime.ofBytes after := by
    have bytes : ∀ offset < 8, block.byte offset = after.byte offset := by
      intro offset small
      have byte := date ⟨offset, small⟩
      simp only [Block.byte, dif_pos (show offset < 16 by omega)]
      exact byte.symm
    simp only [AlbumDateTime.ofBytes, bytes 0 (by decide), bytes 1 (by decide), bytes 2 (by decide),
      bytes 3 (by decide), bytes 4 (by decide), bytes 5 (by decide), bytes 6 (by decide),
      bytes 7 (by decide)]
  rw [same]
  exact AlbumDateTime.bytes_ofBytes after

/-- The first half of an entry, with its size kept. -/
theorem first_of_kept {memory after : Memory} {pointer : Nat} {check : UInt64}
    (kept : ∀ offset < 8, after (pointer + offset) = memory (pointer + offset))
    (word : after.load (pointer + 0x8) = Block.wordBytes check) :
    after.load pointer = Block.ofWords (albumEntryAt memory pointer).size.toUInt64 check := by
  apply block_eq_of_words
  · have size : (fun index : Fin 8 => after (pointer + index.val)) =
        fun index : Fin 8 => memory (pointer + index.val) := by
      funext index
      exact kept index.val index.isLt
    exact congrArg Block.word size
  · rw [← Block.word_wordBytes check, ← word]
    congr 1
    funext index
    simp only [Memory.load, Fin.val_natAdd]
    congr 1
    omega

/-- The second half of an entry, with everything but its last byte kept. -/
theorem second_of_kept {memory after : Memory} {pointer : Nat}
    (kept : ∀ offset < 0xf, after (pointer + 0x10 + offset) = memory (pointer + 0x10 + offset))
    (marked : after (pointer + 0x1f) = 1) :
    after.load (pointer + 0x10) = (albumEntryAt memory pointer).fileId.dateTime.bytes
      ![(albumEntryAt memory pointer).fileId.storageId.value,
        (albumEntryAt memory pointer).fileId.type.value,
        (appEntryAt memory pointer).second.byte 10, (appEntryAt memory pointer).second.byte 11,
        (appEntryAt memory pointer).second.byte 12, (appEntryAt memory pointer).second.byte 13,
        (appEntryAt memory pointer).second.byte 14, 1] := by
  have whole : (AlbumDateTime.ofBytes (memory.load (pointer + 0x10))).bytes
      (fun index => after.load (pointer + 0x10) (Fin.natAdd 8 index)) =
      after.load (pointer + 0x10) :=
    bytes_ofBytes_of_eq fun index => kept index.val (by omega)
  rw [← whole]
  congr 1
  funext index
  fin_cases index
  exacts [kept 8 (by decide), kept 9 (by decide), kept 10 (by decide), kept 11 (by decide),
    kept 12 (by decide), kept 13 (by decide), kept 14 (by decide), marked]

/-- An entry with a new second word and a new last byte. -/
theorem appEntryAt_marked (check : UInt64) :
    appEntryAt ((memory.store (pointer + 0x8) (Block.wordBytes check)).store (pointer + 0x1f)
        (fun _ : Fin 1 => 1)) pointer =
      { first := .ofWords (albumEntryAt memory pointer).size.toUInt64 check
        second := (albumEntryAt memory pointer).fileId.dateTime.bytes
          ![(albumEntryAt memory pointer).fileId.storageId.value,
            (albumEntryAt memory pointer).fileId.type.value,
            (appEntryAt memory pointer).second.byte 10, (appEntryAt memory pointer).second.byte 11,
            (appEntryAt memory pointer).second.byte 12, (appEntryAt memory pointer).second.byte 13,
            (appEntryAt memory pointer).second.byte 14, 1] } := by
  have kept : ∀ offset < 0x1f, ¬ (8 ≤ offset ∧ offset < 16) →
      (memory.store (pointer + 0x8) (Block.wordBytes check)).store (pointer + 0x1f)
        (fun _ : Fin 1 => 1) (pointer + offset) = memory (pointer + offset) := by
    intro offset below outside
    rw [Memory.store_outside _ _ _ (by omega), Memory.store_outside _ _ _ (by omega)]
  have marked : (memory.store (pointer + 0x8) (Block.wordBytes check)).store (pointer + 0x1f)
      (fun _ : Fin 1 => 1) (pointer + 0x1f) = 1 :=
    Memory.store_inside _ (pointer + 0x1f) _ 0
  have word : ((memory.store (pointer + 0x8) (Block.wordBytes check)).store (pointer + 0x1f)
      (fun _ : Fin 1 => 1)).load (pointer + 0x8) = Block.wordBytes check := by
    rw [Memory.load_store_of_apart _ _ _ (.inl (by omega)), Memory.load_store]
  rw [appEntryAt, ApplicationAlbumEntry.mk.injEq]
  constructor
  · exact first_of_kept (fun offset below => kept offset (by omega) (by omega)) word
  · apply second_of_kept _ marked
    intro offset below
    rw [Nat.add_assoc]
    exact kept (0x10 + offset) (by omega) (by omega)

theorem encryptV1At_same (encrypt : Block → Block) (version : UInt64) :
    let after := encryptV1At encrypt pointer pointer version memory
    (after.1, appEntryAt after.2 pointer) =
      encryptV1 encrypt (appEntryAt memory pointer) (albumEntryAt memory pointer) version := by
  by_cases one : version = 1
  case neg => simp only [encryptV1At, encryptV1, rUnless, if_neg one]
  case pos =>
    subst one
    have success : (encryptV1At encrypt pointer pointer 1 memory).1 = .success := rfl
    simp only [success, encryptV1At_self, appEntryAt_marked]
    rfl

theorem encryptV1At_outside (encrypt : Block → Block) (version : UInt64) :
    memory.SameOutside (encryptV1At encrypt pointer pointer version memory).2 pointer 0x20 := by
  have start : memory.SameOutside memory pointer 0x20 := Memory.SameOutside.refl memory
  by_cases one : version = 1
  case neg => simpa only [encryptV1At, rUnless, if_neg one] using start
  case pos =>
    subst one
    rw [encryptV1At_self]
    exact (start.store (by omega) (by omega) _).store (by omega) (by omega) _

end

/-! ## The loops over a buffer -/

open ApplicationAlbumManager

section

variable (ciphers : ApplicationCiphers) (res : ApplicationResource)

/-- The body of both loops, on the entry at a pointer. -/
def encryptEntryAt (pointer : Nat) (memory : Memory) : Result × Memory :=
  match res.codec with
  | .v0 => (.success, encryptV0At (ciphers.aes256 res.key) pointer pointer memory)
  | .v1 => encryptV1At ciphers.applicationKey pointer pointer res.version memory

/-- The entries of the next `count` elements, up to the first failure. -/
def encryptEntriesAt (stride : Nat) : (count pointer : Nat) → Memory → Result × Memory
  | 0, _, memory => (.success, memory)
  | count + 1, pointer, memory =>
      let encrypted := encryptEntryAt ciphers res pointer memory
      rTry encrypted.1 (·, encrypted.2)
      (encryptEntriesAt stride count (pointer + stride) encrypted.2)

/-- At one entry the memory is encrypted as the value there is. -/
theorem encryptEntryAt_same (pointer : Nat) (memory : Memory) :
    let after := encryptEntryAt ciphers res pointer memory
    (after.1, appEntryAt after.2 pointer) =
      encryptInPlace ciphers res (appEntryAt memory pointer) := by
  cases codec : res.codec with
  | v0 =>
      simp only [encryptEntryAt, encryptInPlace, codec]
      exact congrArg (Prod.mk Result.success) (encryptV0At_same memory pointer _)
  | v1 =>
      simp only [encryptEntryAt, encryptInPlace, codec]
      exact encryptV1At_same memory pointer _ _

theorem encryptEntryAt_outside (pointer : Nat) (memory : Memory) :
    memory.SameOutside (encryptEntryAt ciphers res pointer memory).2 pointer 0x20 := by
  cases codec : res.codec with
  | v0 => simpa only [encryptEntryAt, codec] using encryptV0At_outside memory pointer _
  | v1 => simpa only [encryptEntryAt, codec] using encryptV1At_outside memory pointer _ _

/-- Where the entries of a buffer are. -/
def InEntry (stride count pointer address : Nat) : Prop :=
  ∃ index < count, pointer + stride * index ≤ address ∧ address < pointer + stride * index + 0x20

theorem encryptEntriesAt_outside (stride count pointer : Nat) (memory : Memory) (address : Nat)
    (outside : ¬ InEntry stride count pointer address) :
    (encryptEntriesAt ciphers res stride count pointer memory).2 address = memory address := by
  induction count generalizing pointer memory with
  | zero => rfl
  | succ count induction =>
      have first : address < pointer ∨ pointer + 0x20 ≤ address := by
        by_contra inside
        exact outside ⟨0, by omega, by omega, by omega⟩
      have same := encryptEntryAt_outside ciphers res pointer memory address first
      have rest : ¬ InEntry stride count (pointer + stride) address := by
        rintro ⟨index, below, above, beneath⟩
        have next : stride * (index + 1) = stride * index + stride := Nat.mul_succ stride index
        exact outside ⟨index + 1, by omega, by omega, by omega⟩
      rw [encryptEntriesAt, rTry]
      split
      · exact (induction (pointer + stride) _ rest).trans same
      · exact same

/-- An entry in front of the buffer. -/
theorem not_inEntry_of_before {stride count pointer address : Nat} (before : address < pointer) :
    ¬ InEntry stride count pointer address := by
  rintro ⟨index, -, above, -⟩
  omega

end

section

variable {α : Type}

/-- A view of an element that depends on the bytes of the element only. -/
def ViewsWithin (stride : Nat) (view : Memory → Nat → α) : Prop :=
  ∀ first second pointer, (∀ offset < stride, first (pointer + offset) = second (pointer + offset)) →
    view first pointer = view second pointer

theorem ViewsWithin.mono {view : Memory → Nat → α} {narrow wide : Nat}
    (within : ViewsWithin narrow view) (smaller : narrow ≤ wide) : ViewsWithin wide view :=
  fun first second pointer same =>
    within first second pointer fun offset small => same offset (Nat.lt_of_lt_of_le small smaller)

/-- The elements of a buffer, each in its view. -/
def elementsAt (view : Memory → Nat → α) (stride : Nat) : (count pointer : Nat) → Memory → List α
  | 0, _, _ => []
  | count + 1, pointer, memory =>
      view memory pointer :: elementsAt view stride count (pointer + stride) memory

variable {view : Memory → Nat → α} {stride : Nat}

theorem elementsAt_eq_map (count pointer : Nat) (memory : Memory) :
    elementsAt view stride count pointer memory =
      (List.range count).map fun index => view memory (pointer + stride * index) := by
  induction count generalizing pointer with
  | zero => rfl
  | succ count induction =>
      rw [elementsAt, induction, List.range_succ_eq_map, List.map_cons, List.map_map]
      congr 1
      apply List.map_congr_left
      intro index _
      rw [Function.comp_apply, Nat.mul_succ, Nat.add_assoc, Nat.add_comm stride]

theorem elementsAt_congr (within : ViewsWithin stride view) (count pointer : Nat)
    {first second : Memory} (same : ∀ address, pointer ≤ address → first address = second address) :
    elementsAt view stride count pointer first = elementsAt view stride count pointer second := by
  rw [elementsAt_eq_map, elementsAt_eq_map]
  apply List.map_congr_left
  intro index _
  exact within first second _ fun offset _ => same _ (by omega)

/-- The loop over the memory encrypts the elements as the loop over their list. -/
theorem encryptEntriesAt_eq (ciphers : ApplicationCiphers) (res : ApplicationResource)
    {encrypt : α → Result × α} (wide : 0x20 ≤ stride) (within : ViewsWithin stride view)
    (same : ∀ pointer memory,
      let after := encryptEntryAt ciphers res pointer memory
      (after.1, view after.2 pointer) = encrypt (view memory pointer))
    (count pointer : Nat) (memory : Memory) :
    let after := encryptEntriesAt ciphers res stride count pointer memory
    (after.1, elementsAt view stride count pointer after.2) =
      encryptBuffer encrypt (elementsAt view stride count pointer memory) := by
  induction count generalizing pointer memory with
  | zero => rfl
  | succ count induction =>
      have first := same pointer memory
      have frame := encryptEntryAt_outside ciphers res pointer memory
      have untouched : elementsAt view stride count (pointer + stride)
          (encryptEntryAt ciphers res pointer memory).2 =
            elementsAt view stride count (pointer + stride) memory :=
        elementsAt_congr within count (pointer + stride) fun address above =>
          frame address (.inr (by omega))
      simp only [encryptEntriesAt, elementsAt, encryptBuffer, ← first]
      by_cases success : (encryptEntryAt ciphers res pointer memory).1.isSuccess
      case neg => simp only [rTry, if_neg success, untouched]
      case pos =>
        have rest := induction (pointer + stride) (encryptEntryAt ciphers res pointer memory).2
        generalize (encryptEntryAt ciphers res pointer memory).2 = middle at untouched rest
        have kept : view (encryptEntriesAt ciphers res stride count (pointer + stride) middle).2
            pointer = view middle pointer :=
          within _ _ pointer fun offset small =>
            encryptEntriesAt_outside ciphers res _ _ _ middle _
              (not_inEntry_of_before (Nat.add_lt_add_left small pointer))
        simp only [rTry, if_pos success, kept]
        rw [← untouched, ← rest]

end

/-- A loop that no entry stops. -/
theorem encryptBuffer_eq_map {α : Type} {encrypt : α → Result × α} {entries : List α}
    (accepted : ∀ entry ∈ entries, (encrypt entry).1 = .success) :
    encryptBuffer encrypt entries = (.success, entries.map fun entry => (encrypt entry).2) := by
  induction entries with
  | nil => rfl
  | cons entry entries induction =>
      rw [List.forall_mem_cons] at accepted
      simp only [encryptBuffer, accepted.1, rTry, Result.isSuccess_success, if_true,
        induction accepted.2, List.map_cons]

/-! ## The requests -/

/-- The record at a pointer, an entry and what is behind it. -/
def appFileEntryAt (memory : Memory) (pointer : Nat) : ApplicationAlbumFileEntry where
  entry := appEntryAt memory pointer
  dateTime := .ofBytes (memory.load (pointer + 0x20))
  unkX28 := Block.word (memory.load (pointer + 0x28))

namespace ApplicationAlbumManager

variable (ciphers : ApplicationCiphers) (settings : AlbumSettings)

/-- `EncryptAaeBuffer` over the memory. -/
def encryptAaeBufferAt (appEntry : Nat) (count aruid : UInt64) (memory : Memory)
    (manager : ApplicationAlbumManager) : Result × Memory :=
  manager.withOwnResource (.aruid aruid) (controlNotOpened.result, memory) fun res =>
    encryptEntriesAt ciphers res 0x20 count.toNat appEntry memory

/-- `EncryptAafeBuffer` over the memory. -/
def encryptAafeBufferAt (appFileEntry : Nat) (count aruid : UInt64) (memory : Memory)
    (manager : ApplicationAlbumManager) : Result × Memory :=
  manager.withOwnResource (.aruid aruid) (controlNotOpened.result, memory) fun res =>
    encryptEntriesAt ciphers res 0x30 count.toNat appFileEntry memory

theorem viewsWithin_appEntryAt : ViewsWithin 0x20 appEntryAt := by
  intro first second pointer same
  rw [appEntryAt, appEntryAt, ApplicationAlbumEntry.mk.injEq]
  constructor
  · funext index
    exact same index.val (by omega)
  · funext index
    simp only [Memory.load, Nat.add_assoc]
    exact same (0x10 + index.val) (by omega)

/-! ## Decoding what was encrypted -/

/-- An entry encoded on its own, over clear bytes. -/
def encryptEntry (res : ApplicationResource) (entry : AlbumEntry) : ApplicationAlbumEntry :=
  match res.codec with
  | .v0 => encryptV0 (ciphers.aes256 res.key) entry
  | .v1 => (encryptV1 ciphers.applicationKey .cleared entry res.version).2

/-- A verified entry of the application in the slot, with zero padding. -/
structure OwnEntry (res : ApplicationResource) (entry : AlbumEntry) : Prop where
  padding : entry.fileId.pad = .replicate 6 0
  verified : entry.fileId.verify settings = .success
  application : entry.fileId.applicationId = res.applicationId

theorem padClear_of_padding {image : ApplicationAlbumEntry}
    (padding : (AlbumEntry.ofImage image).fileId.pad = .replicate 6 0) : image.PadClear := by
  intro offset above below
  have byte := congrArg (fun pad : Vector UInt8 6 => pad.toArray.getD (offset - 10) 1) padding
  interval_cases offset <;> exact byte

section

variable {settings} {res : ApplicationResource} {appEntry : ApplicationAlbumEntry}

theorem encryptInPlace_own (version : res.version = 0 ∨ res.version = 1)
    (own : OwnEntry settings res (.ofImage appEntry)) :
    encryptInPlace ciphers res appEntry =
      (.success, encryptEntry ciphers res (.ofImage appEntry)) := by
  rcases version with zero | one
  · simp only [encryptInPlace, encryptEntry, ApplicationResource.codec, zero, if_true]
  · have codec : res.codec = .v1 := by
      rw [ApplicationResource.codec, one]
      decide
    have clear : (encryptV1 ciphers.applicationKey appEntry (.ofImage appEntry) 1).2 =
        (encryptV1 ciphers.applicationKey .cleared (.ofImage appEntry) 1).2 :=
      (encryptV1_eq_cleared_iff ciphers.applicationKey).mpr (padClear_of_padding own.padding)
    simp only [encryptInPlace, encryptEntry, codec, one, ← clear]
    rfl

variable {ciphers}

theorem getAlbumEntryImpl_encryptEntry (version : res.version = 0 ∨ res.version = 1)
    {entry : AlbumEntry} (own : OwnEntry settings res entry) (temporary out : AlbumEntry) :
    getAlbumEntryImpl ciphers settings temporary out (encryptEntry ciphers res entry) res =
      (.success, entry) := by
  rcases version with zero | one
  · have codec : res.codec = .v0 := by rw [ApplicationResource.codec, if_pos zero]
    simp only [getAlbumEntryImpl, encryptEntry, codec,
      getAlbumEntryFromApplicationAlbumEntryV0Impl_eq, decryptV0_encryptV0, own.application, if_true]
  · have codec : res.codec = .v1 := by
      rw [ApplicationResource.codec, one]
      decide
    have cleared : ApplicationAlbumEntry.cleared.PadClear := fun offset _ _ => byte_cleared offset
    simp only [getAlbumEntryImpl, encryptEntry, codec, one, ← own.application,
      getAlbumEntryFromApplicationAlbumEntryV1Impl,
      decryptV1_encryptV1 ciphers.applicationKey temporary own.padding cleared, rTry,
      Result.isSuccess_success, if_true, own.verified]

end

/-- Every entry of the buffer is encoded as on its own and is decoded again, and
nothing outside the entries has changed. -/
structure EncryptedInPlace (manager : ApplicationAlbumManager) (res : ApplicationResource)
    (aruid : UInt64) (stride count pointer : Nat) (memory : Memory) (outcome : Result × Memory) :
    Prop where
  success : outcome.1 = .success
  encoded : ∀ index < count, appEntryAt outcome.2 (pointer + stride * index) =
    encryptEntry ciphers res (albumEntryAt memory (pointer + stride * index))
  decoded : ∀ index < count, ∀ temporary out,
    manager.getAlbumEntryFromApplicationAlbumEntryAruid ciphers settings temporary out
        (appEntryAt outcome.2 (pointer + stride * index)) aruid =
      (.success, albumEntryAt memory (pointer + stride * index))
  outside : ∀ address, ¬ InEntry stride count pointer address → outcome.2 address = memory address

variable {ciphers settings} {manager : ApplicationAlbumManager} {aruid : UInt64} {slot : Fin 4}
  {memory : Memory}

/-- The loop over entries of the slot's own. -/
theorem encryptEntriesAt_own (found : manager.ownResource (.aruid aruid) = some slot)
    (version : (manager.resources slot).version = 0 ∨ (manager.resources slot).version = 1)
    {stride : Nat} (wide : 0x20 ≤ stride) {count pointer : Nat}
    (own : ∀ index < count,
      OwnEntry settings (manager.resources slot) (albumEntryAt memory (pointer + stride * index))) :
    EncryptedInPlace ciphers settings manager (manager.resources slot) aruid stride count pointer
      memory (encryptEntriesAt ciphers (manager.resources slot) stride count pointer memory) := by
  have loop := encryptEntriesAt_eq ciphers (manager.resources slot) wide
    (viewsWithin_appEntryAt.mono wide) (encryptEntryAt_same ciphers _) count pointer memory
  have each : ∀ appEntry ∈ elementsAt appEntryAt stride count pointer memory,
      OwnEntry settings (manager.resources slot) (.ofImage appEntry) := by
    intro appEntry member
    rw [elementsAt_eq_map, List.mem_map] at member
    rcases member with ⟨index, below, rfl⟩
    exact own index (List.mem_range.mp below)
  have accepted := encryptBuffer_eq_map fun appEntry member =>
    congrArg Prod.fst (encryptInPlace_own ciphers version (each appEntry member))
  dsimp only at loop
  rw [accepted, elementsAt_eq_map, elementsAt_eq_map, List.map_map, Prod.mk.injEq] at loop
  have encoded : ∀ index < count,
      appEntryAt (encryptEntriesAt ciphers (manager.resources slot) stride count pointer memory).2
          (pointer + stride * index) =
        encryptEntry ciphers (manager.resources slot)
          (albumEntryAt memory (pointer + stride * index)) := by
    intro index below
    have written := List.map_inj_left.mp loop.2 index (List.mem_range.mpr below)
    rw [written]
    exact congrArg Prod.snd (encryptInPlace_own ciphers version (own index below))
  refine ⟨loop.1, encoded, fun index below temporary out => ?_, fun address outside => ?_⟩
  · rw [encoded index below, getAlbumEntryFromApplicationAlbumEntryAruid, withOwnResource, found]
    exact getAlbumEntryImpl_encryptEntry version (own index below) temporary out
  · exact encryptEntriesAt_outside ciphers _ stride count pointer memory address outside

/-- The fields behind each entry are not an entry's. -/
theorem EncryptedInPlace.behind {res : ApplicationResource} {count pointer : Nat}
    {outcome : Result × Memory}
    (encrypted : EncryptedInPlace ciphers settings manager res aruid 0x30 count pointer memory
      outcome) (index : Nat) :
    (appFileEntryAt outcome.2 (pointer + 0x30 * index)).dateTime =
        (appFileEntryAt memory (pointer + 0x30 * index)).dateTime ∧
      (appFileEntryAt outcome.2 (pointer + 0x30 * index)).unkX28 =
        (appFileEntryAt memory (pointer + 0x30 * index)).unkX28 := by
  have same : ∀ offset, 0x20 ≤ offset → offset < 0x30 →
      outcome.2 (pointer + 0x30 * index + offset) = memory (pointer + 0x30 * index + offset) := by
    intro offset above small
    apply encrypted.outside
    rintro ⟨other, -, atLeast, under⟩
    omega
  constructor
  · apply congrArg AlbumDateTime.ofBytes
    funext byte
    simpa only [Memory.load, Nat.add_assoc] using same (0x20 + byte.val) (by omega) (by omega)
  · apply congrArg Block.word
    funext byte
    simpa only [Memory.load, Nat.add_assoc] using same (0x28 + byte.val) (by omega) (by omega)

/-- Both requests encrypt a buffer of the application's entries so that each of
them is decoded again, and leave the rest of the memory, the fields behind an
entry included. Without a slot they leave all of it. -/
theorem encryptBuffers_decode (ciphers : ApplicationCiphers) (settings : AlbumSettings)
    (manager : ApplicationAlbumManager) (aruid : UInt64) (pointer : Nat) (count : UInt64)
    (memory : Memory) :
    (∀ slot, manager.ownResource (.aruid aruid) = some slot →
      (manager.resources slot).version = 0 ∨ (manager.resources slot).version = 1 →
      ((∀ index < count.toNat, OwnEntry settings (manager.resources slot)
            (albumEntryAt memory (pointer + 0x20 * index))) →
          EncryptedInPlace ciphers settings manager (manager.resources slot) aruid 0x20 count.toNat
            pointer memory (manager.encryptAaeBufferAt ciphers pointer count aruid memory)) ∧
        ((∀ index < count.toNat, OwnEntry settings (manager.resources slot)
            (albumEntryAt memory (pointer + 0x30 * index))) →
          let outcome := manager.encryptAafeBufferAt ciphers pointer count aruid memory
          EncryptedInPlace ciphers settings manager (manager.resources slot) aruid 0x30 count.toNat
              pointer memory outcome ∧
            ∀ index < count.toNat,
              (appFileEntryAt outcome.2 (pointer + 0x30 * index)).dateTime =
                  (appFileEntryAt memory (pointer + 0x30 * index)).dateTime ∧
                (appFileEntryAt outcome.2 (pointer + 0x30 * index)).unkX28 =
                  (appFileEntryAt memory (pointer + 0x30 * index)).unkX28)) ∧
    (manager.ownResource (.aruid aruid) = none →
      manager.encryptAaeBufferAt ciphers pointer count aruid memory =
          (controlNotOpened.result, memory) ∧
        manager.encryptAafeBufferAt ciphers pointer count aruid memory =
          (controlNotOpened.result, memory)) := by
  constructor
  · intro slot found version
    have aae : manager.encryptAaeBufferAt ciphers pointer count aruid memory =
        encryptEntriesAt ciphers (manager.resources slot) 0x20 count.toNat pointer memory := by
      rw [encryptAaeBufferAt, withOwnResource, found]
    have aafe : manager.encryptAafeBufferAt ciphers pointer count aruid memory =
        encryptEntriesAt ciphers (manager.resources slot) 0x30 count.toNat pointer memory := by
      rw [encryptAafeBufferAt, withOwnResource, found]
    constructor
    · intro own
      rw [aae]
      exact encryptEntriesAt_own found version (Nat.le_refl _) own
    · intro own
      rw [aafe]
      have encrypted : EncryptedInPlace ciphers settings manager (manager.resources slot) aruid 0x30
          count.toNat pointer memory
          (encryptEntriesAt ciphers (manager.resources slot) 0x30 count.toNat pointer memory) :=
        encryptEntriesAt_own found version (by decide) own
      exact ⟨encrypted, fun index _ => encrypted.behind index⟩
  · intro missing
    constructor
    · rw [encryptAaeBufferAt, withOwnResource, missing]
    · rw [encryptAafeBufferAt, withOwnResource, missing]

/-- A buffer of entries, with something behind each of them where there is room. -/
def bufferMemory (stride : Nat) (entries : List AlbumEntry) : Memory := fun address =>
  let offset := address % stride
  match entries[address / stride]? with
  | none => 0
  | some entry =>
      if offset < 0x10 then entry.image.first.byte offset
      else if offset < 0x20 then entry.image.second.byte (offset - 0x10)
      else 7

/-- Two screenshots of different sizes. -/
def twoEntries : List AlbumEntry :=
  [⟨3, savedScreenshot⟩, ⟨4, secondScreenshot⟩]

/-- Both entries in a buffer of either type, in version 1. -/
theorem encryptBuffers_decode_twoEntries :
    EncryptedInPlace identityCiphers .unset negotiatedApplication
        (negotiatedApplication.resources 0) 5 0x20 2 0 (bufferMemory 0x20 twoEntries)
        (negotiatedApplication.encryptAaeBufferAt identityCiphers 0 2 5
          (bufferMemory 0x20 twoEntries)) ∧
      EncryptedInPlace identityCiphers .unset negotiatedApplication
        (negotiatedApplication.resources 0) 5 0x30 2 0 (bufferMemory 0x30 twoEntries)
        (negotiatedApplication.encryptAafeBufferAt identityCiphers 0 2 5
          (bufferMemory 0x30 twoEntries)) := by
  have held : ∀ stride, albumEntryAt (bufferMemory stride twoEntries) (0 + stride * 0) =
        ⟨3, savedScreenshot⟩ →
      albumEntryAt (bufferMemory stride twoEntries) (0 + stride * 1) = ⟨4, secondScreenshot⟩ →
      ∀ index < (2 : UInt64).toNat, OwnEntry .unset (negotiatedApplication.resources 0)
        (albumEntryAt (bufferMemory stride twoEntries) (0 + stride * index)) := by
    intro stride first second index below
    have either : index = 0 ∨ index = 1 := by
      change index < 2 at below
      omega
    rcases either with rfl | rfl
    · rw [first]
      exact ⟨by decide, by decide, by decide⟩
    · rw [second]
      exact ⟨by decide, by decide, by decide⟩
  have decode := fun memory => (encryptBuffers_decode identityCiphers .unset
    negotiatedApplication 5 0 2 memory).1 0 (by decide +kernel) (.inr (by decide))
  exact ⟨(decode _).1 (held 0x20 (by decide +kernel) (by decide +kernel)),
    ((decode _).2 (held 0x30 (by decide +kernel) (by decide +kernel))).1⟩

end ApplicationAlbumManager

end Capsrv
