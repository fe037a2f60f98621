import Mathlib.Data.BitVec
import Capsrv.Types

/-! # The regions of a movie file

`GetOffsets`: where a movie has its thumbnail and its hash table. The movie data
comes in blocks of 256 KiB, the last two of them the thumbnail; a hash of 32
bytes for each block and a trailer of 0x28 bytes follow.
-/

namespace Capsrv.Video

open Capsrv

def maxJpegSize : UInt64 := 0x80000

/-- `BLOCK_COUNT`. -/
def blockCount (size : UInt64) : UInt64 := size >>> 0x12

def blockSize : UInt64 := 0x20

def hashSize : UInt64 := 0x28

/-- `MIN_SIZE`. -/
def minSize : UInt64 := maxJpegSize + blockCount maxJpegSize * blockSize + hashSize

structure MovieOffsets where
  jpegOffset : UInt64
  jpegSize : UInt64
  macOffset : UInt64
  macSize : UInt64
deriving DecidableEq, Repr

/-- `GetOffsets`. -/
def getOffsets (mpegSize mpegTail : UInt64) : Except Result MovieOffsets :=
  rUnless (mpegTail = 1) (.error albumInvalidFileData.result) <|
  rUnless (mpegSize ≥ minSize) (.error albumInvalidFileData.result) <|
  let blockCount := blockCount mpegSize
  .ok {
    jpegOffset := (mpegSize - maxJpegSize) &&& 0xfffffffffffc0000
    jpegSize := maxJpegSize
    macOffset := mpegSize &&& 0xfffffffffffc0000
    macSize := blockCount <<< 0x5 }

/-! ## Exact values -/

/-- The mask rounds down to a block. -/
theorem toNat_blockMask (value : UInt64) :
    (value &&& 0xfffffffffffc0000).toNat = value.toNat / 0x40000 * 0x40000 := by
  have bound := value.toNat_lt
  have mask : (0xfffffffffffc0000 : UInt64).toNat = (2 ^ 46 - 1) * 2 ^ 18 := by decide
  have quotient : value.toNat / 2 ^ 18 = value.toNat >>> 18 :=
    (Nat.shiftRight_eq_div_pow _ 18).symm
  rw [UInt64.toNat_and, mask, show (0x40000 : Nat) = 2 ^ 18 from rfl, quotient]
  apply Nat.eq_of_testBit_eq
  intro index
  rw [Nat.testBit_and, Nat.testBit_mul_two_pow, Nat.testBit_two_pow_sub_one,
    Nat.testBit_mul_two_pow, Nat.testBit_shiftRight]
  by_cases low : 18 ≤ index
  · rw [Nat.add_sub_cancel' low]
    by_cases high : index - 18 < 46
    · simp [low, high]
    · have clear : value.toNat.testBit index = false :=
        Nat.testBit_lt_two_pow
          (Nat.lt_of_lt_of_le bound (Nat.pow_le_pow_right (by decide) (by omega)))
      simp [clear]
  · simp [low]

theorem toNat_blockCount (size : UInt64) : (blockCount size).toNat = size.toNat / 0x40000 := by
  rw [blockCount, UInt64.toNat_shiftRight]
  exact Nat.shiftRight_eq_div_pow _ 18

theorem toNat_minSize : minSize.toNat = 0x80068 := by decide

/-- No step of the computation leaves the range of a `u64`. -/
structure ExactOffsets (mpegSize : UInt64) (offsets : MovieOffsets) : Prop where
  jpegStart : (mpegSize - maxJpegSize).toNat + maxJpegSize.toNat = mpegSize.toNat
  jpegOffset : offsets.jpegOffset.toNat = (mpegSize - maxJpegSize).toNat / 0x40000 * 0x40000
  jpegSize : offsets.jpegSize.toNat = 0x80000
  macOffset : offsets.macOffset.toNat = mpegSize.toNat / 0x40000 * 0x40000
  macSize : offsets.macSize.toNat = 0x20 * (mpegSize.toNat / 0x40000)

theorem getOffsets_ok_iff {mpegSize mpegTail : UInt64} {offsets : MovieOffsets} :
    getOffsets mpegSize mpegTail = .ok offsets ↔
      mpegTail = 1 ∧ 0x80068 ≤ mpegSize.toNat ∧ ExactOffsets mpegSize offsets := by
  have bound := mpegSize.toNat_lt
  have jpeg : maxJpegSize.toNat = 0x80000 := rfl
  have macSize : (blockCount mpegSize <<< 0x5).toNat = 0x20 * (mpegSize.toNat / 0x40000) := by
    have shifted : (blockCount mpegSize <<< 0x5).toNat =
        (blockCount mpegSize).toNat <<< 5 % UInt64.size := UInt64.toNat_shiftLeft _ _
    rw [shifted, toNat_blockCount, Nat.shiftLeft_eq, UInt64.size]
    omega
  have start : 0x80068 ≤ mpegSize.toNat →
      (mpegSize - maxJpegSize).toNat + maxJpegSize.toNat = mpegSize.toNat := by
    intro large
    rw [UInt64.toNat_sub_of_le _ _ (UInt64.le_iff_toNat_le.mpr (by omega))]
    omega
  simp only [getOffsets, rUnless_error_eq_ok_iff, ge_iff_le, UInt64.le_iff_toNat_le,
    toNat_minSize]
  constructor
  · rintro ⟨tail, large, found⟩
    cases found
    exact ⟨tail, large, start large, toNat_blockMask _, rfl, toNat_blockMask _, macSize⟩
  · rintro ⟨tail, large, exact⟩
    refine ⟨tail, large, congrArg Except.ok ?_⟩
    rcases offsets with ⟨jpegOffset, jpegSize, macOffset, macSize'⟩
    rw [MovieOffsets.mk.injEq]
    exact ⟨UInt64.toNat_inj.mp ((toNat_blockMask _).trans exact.jpegOffset.symm),
      UInt64.toNat_inj.mp exact.jpegSize.symm,
      UInt64.toNat_inj.mp ((toNat_blockMask _).trans exact.macOffset.symm),
      UInt64.toNat_inj.mp (macSize.trans exact.macSize.symm)⟩

/-! ## The regions inside the file -/

/-- The thumbnail ends in front of the hash table, and the hash table and the
trailer end inside the file. -/
structure RegionsInside (mpegSize : UInt64) (offsets : MovieOffsets) : Prop where
  exact : ExactOffsets mpegSize offsets
  jpeg : offsets.jpegOffset.toNat + offsets.jpegSize.toNat ≤ offsets.macOffset.toNat
  trailer : offsets.macOffset.toNat + offsets.macSize.toNat + 0x28 ≤ mpegSize.toNat

/-- The minimum size is that of two blocks. For any other number of blocks the
hash table is inside only if the rest of the file behind the last block holds
it. -/
theorem getOffsets_inside_iff {mpegSize mpegTail : UInt64} {offsets : MovieOffsets}
    (accepted : getOffsets mpegSize mpegTail = .ok offsets) :
    RegionsInside mpegSize offsets ↔
      0x20 * (mpegSize.toNat / 0x40000) + 0x28 ≤ mpegSize.toNat % 0x40000 := by
  rcases getOffsets_ok_iff.mp accepted with ⟨-, large, exact⟩
  have start := exact.jpegStart
  have jpegOffset := exact.jpegOffset
  have jpegSize := exact.jpegSize
  have macOffset := exact.macOffset
  have macSize := exact.macSize
  have jpeg : maxJpegSize.toNat = 0x80000 := rfl
  constructor
  · intro inside
    have trailer := inside.trailer
    omega
  · intro room
    exact ⟨exact, by omega, by omega⟩

/-- Two blocks with their hashes and the trailer. -/
theorem getOffsets_inside_two :
    RegionsInside 0x80068 ⟨0, 0x80000, 0x80000, 0x40⟩ := by
  have accepted : getOffsets 0x80068 1 = .ok ⟨0, 0x80000, 0x80000, 0x40⟩ := by decide
  exact (getOffsets_inside_iff accepted).mpr (by decide)

/-- Three full blocks are accepted, with a hash table behind the end of the
file. -/
theorem getOffsets_not_inside_full :
    ¬ (∀ mpegSize mpegTail offsets, getOffsets mpegSize mpegTail = .ok offsets →
      RegionsInside mpegSize offsets) := by
  intro always
  have inside := always 0xc0000 1 ⟨0x40000, 0x80000, 0xc0000, 0x60⟩ (by decide)
  exact absurd inside.trailer (by decide)

/-! ## The layout of a movie -/

/-- The size of a movie of so many blocks. -/
def movieSize (blocks : Nat) : Nat :=
  blocks * 0x40000 + 0x20 * blocks + 0x28

theorem getAllowedFileSize_le (type : ContentType) (settings : AlbumSettings) :
    getAllowedFileSize type settings ≤ 0x80000000 := by
  unfold getAllowedFileSize
  split
  · split <;> decide
  · decide

/-- Up to the size limit the hashes and the trailer stay smaller than a block. -/
theorem movieSize_div {blocks : Nat} (fits : movieSize blocks ≤ 0x80000000) :
    movieSize blocks / 0x40000 = blocks := by
  unfold movieSize at *
  omega

/-- The offsets of every movie that the size limit allows. -/
theorem getOffsets_movieSize (type : ContentType) (settings : AlbumSettings) {blocks : Nat}
    (thumbnail : 2 ≤ blocks) (fits : movieSize blocks ≤ getAllowedFileSize type settings) :
    movieSize blocks / 0x40000 = blocks ∧
      getOffsets (UInt64.ofNat (movieSize blocks)) 1 = .ok {
        jpegOffset := UInt64.ofNat ((blocks - 2) * 0x40000)
        jpegSize := 0x80000
        macOffset := UInt64.ofNat (blocks * 0x40000)
        macSize := UInt64.ofNat (32 * blocks) } := by
  have limit := Nat.le_trans fits (getAllowedFileSize_le type settings)
  have quotient := movieSize_div limit
  have few : blocks < 0x2000 := by
    unfold movieSize at limit
    omega
  have large : 0x80068 ≤ movieSize blocks := by
    unfold movieSize
    omega
  have size : (UInt64.ofNat (movieSize blocks)).toNat = movieSize blocks :=
    UInt64.toNat_ofNat_of_lt' (by
      rw [UInt64.size]
      omega)
  have jpeg : maxJpegSize.toNat = 0x80000 := rfl
  have start : (UInt64.ofNat (movieSize blocks) - maxJpegSize).toNat =
      movieSize blocks - 0x80000 := by
    rw [UInt64.toNat_sub_of_le _ _ (UInt64.le_iff_toNat_le.mpr (by omega)), size, jpeg]
  have below : ∀ value < 0x100000000, (UInt64.ofNat value).toNat = value := by
    intro value small
    apply UInt64.toNat_ofNat_of_lt'
    rw [UInt64.size]
    omega
  refine ⟨quotient, getOffsets_ok_iff.mpr ⟨rfl, by omega, ?_, ?_, rfl, ?_, ?_⟩⟩
  · omega
  · rw [start, below _ (by omega)]
    omega
  · rw [size, quotient, below _ (by omega)]
  · rw [size, quotient, below _ (by omega)]

/-- The smallest movie with a thumbnail. -/
theorem getOffsets_movieSize_two :
    movieSize 2 / 0x40000 = 2 ∧
      getOffsets (UInt64.ofNat (movieSize 2)) 1 = .ok {
        jpegOffset := UInt64.ofNat ((2 - 2) * 0x40000)
        jpegSize := 0x80000
        macOffset := UInt64.ofNat (2 * 0x40000)
        macSize := UInt64.ofNat (32 * 2) } :=
  getOffsets_movieSize .movie .unset (by decide) (by decide)

end Capsrv.Video
