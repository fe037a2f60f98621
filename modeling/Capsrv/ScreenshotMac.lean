import Mathlib.Tactic.Common
import Capsrv.Foundation.ByteReader
import Capsrv.PathCipher

/-! # Screenshot signatures

`GenerateScreenshotMac` and `ComputeScreenShotHMAC`. SHA-256, HMAC and the
secure-monitor services are parameters: what matters here is which bytes of the
file they are given.
-/

namespace Capsrv

/-- The `splCrypto` services with an AES engine. -/
structure SplCrypto where
  lockAesEngine : Result × UInt32
  loadAesKey (kek keySource : List UInt8) (keyslot : UInt32) : Result
  computeCmac (message : List UInt8) (keyslot : UInt32) : Result × Block

/-- The primitives behind the screenshot signatures and their keys. -/
structure SignatureCrypto where
  spl : SplCrypto
  sha256 : List UInt8 → List UInt8
  hmacSha256 (key message : List UInt8) : Block × Block
  screenshotKek : List UInt8
  hmacKey : List UInt8

def screenshotKeySource : List UInt8 :=
  [0x15, 0x0d, 0x26, 0xd1, 0x17, 0xee, 0x44, 0xff, 0x79, 0x67, 0x43, 0x8a, 0x20, 0x14, 0x63, 0x30]

/-- `GenerateMac`. -/
def generateMac (spl : SplCrypto) (message kek keySource : List UInt8) : Except Result Block :=
  let locked := spl.lockAesEngine
  rTry locked.1 .error <|
  rTry (spl.loadAesKey kek keySource locked.2) .error <|
  let computed := spl.computeCmac message locked.2
  rTry computed.1 .error <|
  .ok computed.2

theorem generateMac_error {spl : SplCrypto} {message kek keySource : List UInt8} {result : Result}
    (failed : generateMac spl message kek keySource = .error result) : result ≠ .success := by
  simp only [generateMac, rTry, Result.isSuccess_eq_true_iff] at failed
  split at failed
  · split at failed
    · split at failed
      · cases failed
      · cases failed
        assumption
    · cases failed
      assumption
  · cases failed
    assumption

/-! ## Messages -/

/-- What `GenerateScreenshotMac` passes to `Sha256Generator::Update`. -/
def screenshotMacMessage (input : Nat) (size makerNoteOffset : UInt64) :
    ByteReader (List UInt8) := do
  let rest ← ByteReader.bytes (input + makerNoteOffset.toNat + 0x10)
    (size - makerNoteOffset + 0x10).toNat
  return .replicate 0x10 0 ++ rest

/-- What `ComputeScreenShotHMAC` passes to `hmacSha256ContextUpdate`. -/
def screenShotHMACMessage (input : Nat) (size makerNoteOffset : UInt64) :
    ByteReader (List UInt8) := do
  let off := makerNoteOffset + 0x10
  let front ← ByteReader.bytes input makerNoteOffset.toNat
  let rest ← ByteReader.bytes (input + off.toNat) (size - off).toNat
  return front ++ .replicate 0x10 0 ++ rest

def generateScreenshotMac (crypto : SignatureCrypto) (input : Nat)
    (size makerNoteOffset : UInt64) : ByteReader (Except Result Block) := do
  let message ← screenshotMacMessage input size makerNoteOffset
  return generateMac crypto.spl (crypto.sha256 message) crypto.screenshotKek screenshotKeySource

def computeScreenShotHMAC (crypto : SignatureCrypto) (input : Nat)
    (size makerNoteOffset : UInt64) : ByteReader Block := do
  let message ← screenShotHMACMessage input size makerNoteOffset
  return (crypto.hmacSha256 crypto.hmacKey message).1

/-! ## The signed message -/

/-- The file with the signature field at `offset` blanked. -/
def signedMessage (memory : Memory) (input size offset : Nat) : List UInt8 :=
  (List.range' input offset).map memory ++ .replicate 0x10 0 ++
    (List.range' (input + (offset + 0x10)) (size - (offset + 0x10))).map memory

/-- A message covers the whole file except for its signature field. -/
structure CoversFile (reader : ByteReader (List UInt8)) (memory : Memory)
    (input size offset : Nat) : Prop where
  message : reader.run memory = signedMessage memory input size offset
  inside : reader.Within memory input (input + size)
  binding : ∀ (other : Memory) (index : Nat), index < size →
    (index < offset ∨ offset + 0x10 ≤ index) → memory (input + index) ≠ other (input + index) →
    reader.run memory ≠ reader.run other

theorem length_signedMessage (memory : Memory) (input : Nat) {size offset : Nat}
    (room : offset + 0x10 ≤ size) : (signedMessage memory input size offset).length = size := by
  simp only [signedMessage, List.length_append, List.length_map, List.length_range',
    List.length_replicate]
  omega

/-- Every byte outside the field stands in the message at its own place. -/
theorem getElem?_signedMessage (memory : Memory) (input : Nat) {size offset index : Nat}
    (room : offset + 0x10 ≤ size) (below : index < size)
    (outside : index < offset ∨ offset + 0x10 ≤ index) :
    (signedMessage memory input size offset)[index]? = some (memory (input + index)) := by
  unfold signedMessage
  rcases outside with before | after
  · rw [List.append_assoc, List.getElem?_append_left (by simpa using before)]
    simp [before]
  · rw [List.getElem?_append_right (by simpa using after)]
    have within : index - (offset + 0x10) < size - (offset + 0x10) := by omega
    have place : input + (offset + 0x10) + (index - (offset + 0x10)) = input + index := by omega
    simp [within, place]

section

variable (memory : Memory) (input : Nat) (size makerNoteOffset : UInt64)

/-- `ComputeScreenShotHMAC` authenticates the file with a blank signature. -/
theorem screenShotHMACMessage_coversFile
    (room : makerNoteOffset.toNat + 0x10 ≤ size.toNat) :
    CoversFile (screenShotHMACMessage input size makerNoteOffset) memory input size.toNat
      makerNoteOffset.toNat := by
  have bound := size.toNat_lt
  have off : (makerNoteOffset + 0x10).toNat = makerNoteOffset.toNat + 0x10 := by
    rw [UInt64.toNat_add]
    exact Nat.mod_eq_of_lt (by simp; omega)
  have count : (size - (makerNoteOffset + 0x10)).toNat =
      size.toNat - (makerNoteOffset.toNat + 0x10) := by
    rw [UInt64.toNat_sub_of_le _ _ (by rw [UInt64.le_iff_toNat_le, off]; exact room), off]
  have message : ∀ file, (screenShotHMACMessage input size makerNoteOffset).run file =
      signedMessage file input size.toNat makerNoteOffset.toNat := by
    intro file
    simp [screenShotHMACMessage, signedMessage, off, count]
  constructor
  · exact message memory
  · simp only [screenShotHMACMessage, ByteReader.within_bind, ByteReader.within_pure, off, count]
    simp only [ByteReader.Within, ByteReader.reads_bytes, List.mem_range'_1]
    refine ⟨?_, ?_, trivial⟩ <;> · intro address position; omega
  · intro other index below outside different equal
    rw [message, message] at equal
    have place := getElem?_signedMessage memory input room below outside
    rw [equal, getElem?_signedMessage other input room below outside] at place
    exact different (Option.some.inj place).symm

/-- Either the length of the rest has wrapped around and the message is too
short, or the rest reaches 0x20 bytes beyond the file. -/
theorem screenshotMacMessage_not_coversFile
    (room : makerNoteOffset.toNat + 0x10 ≤ size.toNat) :
    ¬ CoversFile (screenshotMacMessage input size makerNoteOffset) memory input size.toNat
      makerNoteOffset.toNat := by
  intro ⟨message, inside, _⟩
  have remaining : (size - makerNoteOffset).toNat = size.toNat - makerNoteOffset.toNat :=
    UInt64.toNat_sub_of_le _ _ (by rw [UInt64.le_iff_toNat_le]; omega)
  have count : (size - makerNoteOffset + 0x10).toNat =
      (size.toNat - makerNoteOffset.toNat + 0x10) % 2 ^ 64 := by
    rw [UInt64.toNat_add, remaining]
    rfl
  simp only [screenshotMacMessage, ByteReader.within_bind, ByteReader.within_pure,
    and_true] at inside
  have length := congrArg List.length message
  rw [length_signedMessage memory input room] at length
  simp [screenshotMacMessage] at length
  have positive : 0 < (size - makerNoteOffset + 0x10).toNat := by omega
  rw [ByteReader.within_bytes _ positive] at inside
  omega

end

/-- The signature at byte 0x30 of a file of 0x60 bytes. -/
theorem screenshotMacMessage_not_coversFile_blank :
    (0x30 : UInt64).toNat + 0x10 ≤ (0x60 : UInt64).toNat ∧
      ¬ CoversFile (screenshotMacMessage 0 0x60 0x30) (fun _ => 0) 0 0x60 0x30 :=
  ⟨by decide, screenshotMacMessage_not_coversFile (fun _ => 0) 0 0x60 0x30 (by decide)⟩

/-- Not the message of the other generation, and not read from the file alone. -/
theorem screenshotMacMessage_ne_blank :
    (screenshotMacMessage 0 0x60 0x30).run (fun _ => 0) ≠ signedMessage (fun _ => 0) 0 0x60 0x30 ∧
      (screenshotMacMessage 0 0x60 0x30).run (fun _ => 0) ≠
        (screenShotHMACMessage 0 0x60 0x30).run (fun _ => 0) ∧
      ¬ (screenshotMacMessage 0 0x60 0x30).Within (fun _ => 0) 0 0x60 ∧
      (screenshotMacMessage 0 0x60 0x30).run (fun _ => 0) =
        (screenshotMacMessage 0 0x60 0x30).run (fun index => if index = 0 then 1 else 0) := by
  refine ⟨by decide, by decide, ?_, by decide⟩
  intro inside
  have last := inside 0x7f (by decide)
  omega

end Capsrv
