import Mathlib.Data.List.Sort
import Capsrv.FileSystem

/-! # Arguments of commands

What a handler declares to read from a request, and what is asked of the request
before the handler is called. A request that is refused at this point cannot be
answered any more.
-/

namespace Capsrv

/-! ## Declared arguments -/

/-- `HipcBufferMode`. -/
inductive HipcBufferMode where
  | normal
  | nonSecure
  | invalid
  | nonDevice
deriving DecidableEq, Repr

/-- An argument of a handler. The outputs that are not buffers need nothing of the
request. -/
inductive CommandArgument where
  | data (size alignment : Nat)
  | clientAppletResourceUserId
  | inBuffer (mode : HipcBufferMode)
  | outBuffer (mode : HipcBufferMode)
deriving DecidableEq, Repr

namespace CommandArgument

def byte : CommandArgument := data 1 1
def word : CommandArgument := data 8 8
def dateTime : CommandArgument := data 8 2
def accountUid : CommandArgument := data 16 8
def fileId : CommandArgument := data 24 8
def albumEntry : CommandArgument := data 32 8
def applicationAlbumEntry : CommandArgument := data 32 8
def applicationAlbumFileEntry : CommandArgument := data 48 8
def screenShotDecodeOption : CommandArgument := data 32 8

/-- The size and the alignment in the raw data. -/
def inData : CommandArgument → Option (Nat × Nat)
  | data size alignment => some (size, alignment)
  | clientAppletResourceUserId => some (8, 8)
  | _ => none

def sendMode : CommandArgument → Option HipcBufferMode
  | inBuffer mode => some mode
  | _ => none

def recvMode : CommandArgument → Option HipcBufferMode
  | outBuffer mode => some mode
  | _ => none

end CommandArgument

/-- `util::AlignUp`. -/
def alignUp (value alignment : Nat) : Nat :=
  (value + (alignment - 1)) / alignment * alignment

/-- The last offset of `RawDataOffsetCalculator`: the values lie in the order of their
alignments. -/
def rawDataOffset (datas : List (Nat × Nat)) : Nat :=
  (datas.insertionSort fun first second => first.2 ≤ second.2).foldl
    (fun offset data => alignUp offset data.2 + data.1) 0

/-- `InDataSize`. -/
def inDataSize (arguments : List CommandArgument) : Nat :=
  alignUp (rawDataOffset (arguments.filterMap CommandArgument.inData)) 2

/-! ## Requests -/

/-- What a request says of itself in its metadata, the modes of its buffers and the
process that it comes from. -/
structure HipcRequest where
  numDataWords : Nat
  sendPid : Bool
  numSendStatics : Nat
  sendBuffers : List HipcBufferMode
  recvBuffers : List HipcBufferMode
  numExchBuffers : Nat
  numCopyHandles : Nat
  numMoveHandles : Nat
  pid : UInt64
deriving DecidableEq, Repr

namespace HipcRequest

variable (request : HipcRequest)

def metaRawSize : Nat :=
  4 * request.numDataWords

/-- The size of what follows the padding. -/
def inRawSize : Nat :=
  request.metaRawSize - 0x10

/-- `is_request_valid` in `PrepareForProcess`. No argument is a static, an exchange
buffer or a handle. -/
def isRequestValid (arguments : List CommandArgument) : Bool :=
  request.sendPid == arguments.contains .clientAppletResourceUserId &&
    request.numSendStatics == 0 &&
    request.sendBuffers.length == (arguments.filterMap CommandArgument.sendMode).length &&
    request.recvBuffers.length == (arguments.filterMap CommandArgument.recvMode).length &&
    request.numExchBuffers == 0 &&
    request.numCopyHandles == 0 &&
    request.numMoveHandles == 0 &&
    alignUp (inDataSize arguments + 0x10 + 0x10) 4 ≤ request.metaRawSize

/-- `map_alias_buffers_valid` in `ProcessBuffers`. -/
def mapAliasBuffersValid (arguments : List CommandArgument) : Bool :=
  request.sendBuffers == arguments.filterMap CommandArgument.sendMode &&
    request.recvBuffers == arguments.filterMap CommandArgument.recvMode

/-- `MarshalProcessId`. -/
def marshalProcessId (client : UInt64) : Result :=
  if client ≠ request.pid ∧ client ≠ 0 then Cmif.preconditionViolation.result else .success

/-- `InvokeServiceCommandImpl` up to the call of the handler. -/
def prepare (arguments : List CommandArgument) (client : Option UInt64) : Result :=
  rUnless (request.isRequestValid arguments = true) Hipc.invalidCmifRequest.result <|
  rUnless (request.mapAliasBuffersValid arguments = true) Hipc.invalidCmifRequest.result <|
  client.elim .success request.marshalProcessId

end HipcRequest

/-- A request from a process that is made for the arguments, as the library of the
client builds it. -/
def requestFor (arguments : List CommandArgument) (pid : UInt64) : HipcRequest where
  numDataWords := alignUp (inDataSize arguments + 0x10 + 0x10) 4 / 4
  sendPid := arguments.contains .clientAppletResourceUserId
  numSendStatics := 0
  sendBuffers := arguments.filterMap CommandArgument.sendMode
  recvBuffers := arguments.filterMap CommandArgument.recvMode
  numExchBuffers := 0
  numCopyHandles := 0
  numMoveHandles := 0
  pid

theorem alignUp_mod (value alignment : Nat) : alignUp value alignment % alignment = 0 :=
  Nat.mul_mod_left _ _

theorem le_alignUp (value : Nat) {alignment : Nat} (positive : 0 < alignment) :
    value ≤ alignUp value alignment := by
  have rest := Nat.mod_lt (value + (alignment - 1)) positive
  have whole := Nat.div_add_mod' (value + (alignment - 1)) alignment
  rw [alignUp]
  omega

theorem metaRawSize_requestFor (arguments : List CommandArgument) (pid : UInt64) :
    (requestFor arguments pid).metaRawSize = alignUp (inDataSize arguments + 0x10 + 0x10) 4 := by
  have whole := alignUp_mod (inDataSize arguments + 0x10 + 0x10) 4
  simp only [HipcRequest.metaRawSize, requestFor]
  omega

/-- Such a request is let through: from the process itself, or from one that does not say
for whom. -/
theorem prepare_requestFor (arguments : List CommandArgument) {client : Option UInt64}
    {pid : UInt64} (own : ∀ aruid ∈ client, aruid = pid ∨ aruid = 0) :
    (requestFor arguments pid).prepare arguments client = .success := by
  have valid : (requestFor arguments pid).isRequestValid arguments = true := by
    rw [HipcRequest.isRequestValid, metaRawSize_requestFor]
    simp [requestFor]
  have modes : (requestFor arguments pid).mapAliasBuffersValid arguments = true := by
    simp [HipcRequest.mapAliasBuffersValid, requestFor]
  rw [HipcRequest.prepare, rUnless, if_pos valid, rUnless, if_pos modes]
  cases client with
  | none => rfl
  | some aruid =>
      refine if_neg ?_
      rintro ⟨other, given⟩
      rcases own aruid rfl with same | absent
      · exact other same
      · exact given absent

end Capsrv
