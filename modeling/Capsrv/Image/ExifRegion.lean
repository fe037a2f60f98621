import Mathlib.Tactic.Common
import Capsrv.Image.ExifDetail

/-! # The Exif region of a jpeg

When `ExtractExifRegion` looks at the bytes of its input only, and reports a
region inside it. The segment length in front of the region is not compared with
anything, neither with the eight bytes it is reduced by nor with the input.
-/

namespace Capsrv.Image

open Capsrv

section

variable {memory : Memory} {input : Nat} {size : UInt32}

/-! ## The segment -/

def StartsWithSoi (memory : Memory) (input : Nat) : Prop :=
  memory input = 0xff ∧ memory (input + 1) = 0xd8

/-- An APP1 segment behind the start of the image, with the Exif identifier. -/
structure IsExifSegment (memory : Memory) (input : Nat) : Prop where
  soi : StartsWithSoi memory input
  marker : memory (input + 2) = 0xff ∧ memory (input + 3) = 0xe1
  identifier : (List.range' (input + 6) 6).map memory = exifStart

/-- The length of the segment, its own two bytes included. -/
def segmentLength (memory : Memory) (input : Nat) : UInt16 :=
  BinaryIo.motorola.halfAt memory (input + 4)

theorem run_checkSoi : (checkSoi input).run memory = 0 ↔ StartsWithSoi memory input := by
  rw [checkSoi, ByteReader.run_bind, ByteReader.run_byte, ByteReader.run_ite, ByteReader.run_bind,
    ByteReader.run_byte, ByteReader.run_pure, ByteReader.run_pure, StartsWithSoi]
  by_cases first : memory input = 0xff
  · by_cases second : memory (input + 1) = 0xd8 <;> simp [first, second]
  · simp [first]

theorem run_getExifInfo_iff {region : Nat} {regionSize : UInt16} :
    (getExifInfo input).run memory = some (region, regionSize) ↔
      (memory (input + 2) = 0xff ∧ memory (input + 3) = 0xe1) ∧
        (List.range' (input + 6) 6).map memory = exifStart ∧
        region = input + 0xc ∧ regionSize = segmentLength memory input - 8 := by
  rw [getExifInfo, ByteReader.run_bind, ByteReader.run_byte, ByteReader.run_ite,
    ByteReader.run_bind, ByteReader.run_byte, ByteReader.run_ite]
  simp only [ByteReader.run_bind, ByteReader.run_pure, BinaryIo.run_getU16, ByteReader.run_bytes,
    segmentLength]
  by_cases first : memory (input + 2) = 0xff
  · by_cases second : memory (input + 3) = 0xe1
    · by_cases start : (List.range' (input + 6) 6).map memory = exifStart
      · simp [first, second, start, eq_comm]
      · simp [first, second, start]
    · simp [first, second]
  · simp [first]

theorem run_extractExifRegion_iff {region : Nat} {regionSize : UInt32} :
    (extractExifRegion input size).run memory = (0, some (region, regionSize)) ↔
      1 < size ∧ IsExifSegment memory input ∧ region = input + 0xc ∧
        regionSize = (segmentLength memory input - 8).toUInt32 := by
  rw [extractExifRegion, ByteReader.run_ite]
  by_cases large : 1 < size
  case neg =>
    rw [if_neg large]
    exact iff_of_false (fun found => absurd (congrArg Prod.snd found) (by simp))
      fun holds => large holds.1
  case pos =>
    rw [if_pos large, ByteReader.run_bind, ByteReader.run_ite]
    by_cases soi : StartsWithSoi memory input
    case neg =>
      rw [if_pos (mt run_checkSoi.mp soi), ByteReader.run_pure]
      exact iff_of_false (fun found => absurd (congrArg Prod.snd found) (by simp))
        fun holds => soi holds.2.1.soi
    case pos =>
      rw [if_neg (not_not.mpr (run_checkSoi.mpr soi)), ByteReader.run_bind]
      cases info : (getExifInfo input).run memory with
      | none =>
          refine iff_of_false (fun found => absurd (congrArg Prod.snd found) (by simp))
            fun holds => ?_
          rcases holds with ⟨-, segment, -⟩
          have found := run_getExifInfo_iff.mpr ⟨segment.marker, segment.identifier, rfl, rfl⟩
          cases info.symm.trans found
      | some found =>
          rcases found with ⟨foundRegion, foundSize⟩
          rcases run_getExifInfo_iff.mp info with ⟨marker, identifier, rfl, rfl⟩
          simp only [ByteReader.run_pure, Prod.mk.injEq, Option.some.injEq, true_and]
          constructor
          · rintro ⟨rfl, rfl⟩
            exact ⟨large, ⟨soi, marker, identifier⟩, rfl, rfl⟩
          · rintro ⟨-, -, rfl, rfl⟩
            exact ⟨rfl, rfl⟩

/-! ## Reads -/

/-- How far the header is looked at behind the start of the image: byte by byte
up to the marker, and then to the end of the identifier. -/
def HeaderInside (memory : Memory) (input stop : Nat) : Prop :=
  input + 3 ≤ stop ∧ (memory (input + 2) = 0xff →
    input + 4 ≤ stop ∧ (memory (input + 3) = 0xe1 → input + 12 ≤ stop))

theorem within_checkSoi {stop : Nat} (inside : input + 2 ≤ stop) :
    (checkSoi input).Within memory input stop := by
  simp only [checkSoi, ByteReader.within_bind, ByteReader.within_byte, ByteReader.within_ite,
    ByteReader.within_pure, implies_true, and_true]
  exact ⟨by omega, fun _ => by omega⟩

theorem within_getExifInfo {stop : Nat} :
    (getExifInfo input).Within memory input stop ↔ HeaderInside memory input stop := by
  simp only [getExifInfo, ByteReader.within_bind, ByteReader.within_byte, ByteReader.within_ite,
    ByteReader.within_pure, BinaryIo.within_getU16, implies_true, and_true,
    ByteReader.within_bytes (input + 6) (by decide : 0 < 6), HeaderInside]
  simp only [ByteReader.run_byte]
  refine and_congr (by omega) (imp_congr_right fun _ => ?_)
  exact and_congr (by omega) (imp_congr_right fun _ => by omega)

theorem within_extractExifRegion :
    (extractExifRegion input size).Within memory input (input + size.toNat) ↔
      (1 < size → StartsWithSoi memory input →
        HeaderInside memory input (input + size.toNat)) := by
  rw [extractExifRegion, ByteReader.within_ite]
  constructor
  · intro inside large soi
    have both := (ByteReader.within_bind _ _).mp (inside.1 large)
    have info := ((ByteReader.within_ite _ _ _).mp both.2).2
      (not_not.mpr (run_checkSoi.mpr soi))
    exact within_getExifInfo.mp ((ByteReader.within_bind _ _).mp info).1
  · intro header
    refine ⟨fun large => ?_, fun _ => ByteReader.within_pure _⟩
    have least : 1 < size.toNat := UInt32.lt_iff_toNat_lt.mp large
    rw [ByteReader.within_bind, ByteReader.within_ite]
    refine ⟨within_checkSoi (by omega), fun _ => ByteReader.within_pure _, fun found => ?_⟩
    have inside := header large (run_checkSoi.mp (not_not.mp found))
    rw [ByteReader.within_bind]
    refine ⟨within_getExifInfo.mpr inside, ?_⟩
    cases (getExifInfo input).run memory with
    | none => exact ByteReader.within_pure _
    | some found => exact ByteReader.within_pure _

/-! ## The region -/

/-- Only the input is read, and the reported region lies in it. -/
structure RegionInside (memory : Memory) (input : Nat) (size : UInt32) : Prop where
  reads : (extractExifRegion input size).Within memory input (input + size.toNat)
  region : ∀ region regionSize,
    (extractExifRegion input size).run memory = (0, some (region, regionSize)) →
      region = input + 0xc ∧ region + regionSize.toNat ≤ input + size.toNat

/-- A length below eight wraps around to almost 64 KiB. -/
def LengthFits (length : UInt16) (size : UInt32) : Prop :=
  (8 ≤ length ∧ length.toNat + 4 ≤ size.toNat) ∨
    (length < 8 ∧ length.toNat + 0x10004 ≤ size.toNat)

theorem lengthFits_iff {length : UInt16} :
    LengthFits length size ↔ 0xc + (length - 8).toUInt32.toNat ≤ size.toNat := by
  have bound := length.toNat_lt
  have eight : (8 : UInt16).toNat = 8 := rfl
  have reduced : (length - 8).toNat = (0x10000 - 8 + length.toNat) % 0x10000 := by
    rw [UInt16.toNat_sub]
    rfl
  rw [LengthFits, UInt16.toNat_toUInt32, reduced, UInt16.le_iff_toNat_le, UInt16.lt_iff_toNat_lt,
    eight]
  omega

/-- The extraction stays inside its input exactly if the header bytes it gets to
are there and the length of the segment fits. -/
theorem extractExifRegion_inside_iff (memory : Memory) (input : Nat) (size : UInt32) :
    RegionInside memory input size ↔
      (1 < size → StartsWithSoi memory input →
          HeaderInside memory input (input + size.toNat)) ∧
        (1 < size → IsExifSegment memory input →
          LengthFits (segmentLength memory input) size) := by
  constructor
  · intro inside
    refine ⟨within_extractExifRegion.mp inside.reads, fun large segment => ?_⟩
    have region := inside.region _ _ (run_extractExifRegion_iff.mpr ⟨large, segment, rfl, rfl⟩)
    rw [lengthFits_iff]
    omega
  · rintro ⟨header, fits⟩
    refine ⟨within_extractExifRegion.mpr header, fun region regionSize found => ?_⟩
    rcases run_extractExifRegion_iff.mp found with ⟨large, segment, rfl, rfl⟩
    have inside := lengthFits_iff.mp (fits large segment)
    exact ⟨rfl, by omega⟩

end

/-- A jpeg that ends behind the identifier of a segment of 0xffff bytes. -/
def shortJpeg : Memory := fun address =>
  ([0xff, 0xd8, 0xff, 0xe1, 0xff, 0xff] ++ exifStart).getD address 0

theorem extractExifRegion_not_inside_short :
    ¬ (∀ memory input size, RegionInside memory input size) := by
  intro always
  have region := (always shortJpeg 0 12).region 0xc 0xfff7 (by decide)
  exact absurd region.2 (by decide)

end Capsrv.Image
