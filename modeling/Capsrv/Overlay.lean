import Capsrv.Foundation.Process
import Capsrv.Types

/-! # Overlay thumbnails

`OverlayThumbnailHolder` between two threads: the control thread, which sets a
thumbnail in three steps, and the accessor thread, which reads one in a single
step under the lock.
-/

namespace Capsrv

/-! ## The holder -/

/-- The two content types that have a thumbnail. -/
inductive OverlayType where
  | screenshot
  | movie
deriving DecidableEq, Repr

inductive OverlayStatus where
  | free
  | occupied
deriving DecidableEq, Repr

structure OverlayCacheData where
  buffer : List UInt8
  fileId : AlbumFileId
  status : OverlayStatus

/-- `OverlayBufferSize`: height, width and components. -/
def overlayBufferSize : Nat :=
  54 * 96 * 4

/-- What `GetLastOverlayThumbnail` writes. -/
structure OverlayThumbnail where
  fileId : AlbumFileId
  size : Nat
  pixels : List UInt8

structure OverlayThumbnailHolder where
  data : OverlayType → OverlayCacheData

namespace OverlayThumbnailHolder

/-- `Initialize`. -/
def initialized : OverlayThumbnailHolder :=
  ⟨fun _ => ⟨List.replicate overlayBufferSize 0xff, .zero, .free⟩⟩

def setData (type : OverlayType) (data : OverlayCacheData) (holder : OverlayThumbnailHolder) :
    OverlayThumbnailHolder :=
  ⟨fun other => if other = type then data else holder.data other⟩

@[simp] theorem setData_same (type : OverlayType) (data : OverlayCacheData)
    (holder : OverlayThumbnailHolder) : (holder.setData type data).data type = data :=
  if_pos rfl

theorem setData_of_ne {type other : OverlayType} (different : other ≠ type)
    (data : OverlayCacheData) (holder : OverlayThumbnailHolder) :
    (holder.setData type data).data other = holder.data other :=
  if_neg different

/-- `GetLastOverlayThumbnail`; nothing while it waits for the slot. -/
def getLastOverlayThumbnail (outBufferSize : Nat) (type : OverlayType)
    (holder : OverlayThumbnailHolder) : Option (Except Result OverlayThumbnail) :=
  rUnless (overlayBufferSize ≤ outBufferSize) (some (.error albumReadBufferShortage.result)) <|
  if (holder.data type).status = .occupied then none
  else some (.ok ⟨(holder.data type).fileId, overlayBufferSize, (holder.data type).buffer⟩)

/-- `GetOverlayBuffer`; nothing while it waits for the slot. That the slot is
occupied from here on is not noted. -/
def getOverlayBuffer (fileId : AlbumFileId) (type : OverlayType)
    (holder : OverlayThumbnailHolder) : Option OverlayThumbnailHolder :=
  if (holder.data type).status = .occupied then none
  else some (holder.setData type { holder.data type with fileId })

/-- The copy into the buffer, outside the lock. -/
def copyPixels (pixels : List UInt8) (type : OverlayType) (holder : OverlayThumbnailHolder) :
    OverlayThumbnailHolder :=
  holder.setData type { holder.data type with buffer := pixels }

def signal (type : OverlayType) (holder : OverlayThumbnailHolder) : OverlayThumbnailHolder :=
  holder.setData type { holder.data type with status := .free }

end OverlayThumbnailHolder

/-! ## The threads -/

/-- A call of `SetOverlayScreenShotThumbnailData` or
`SetOverlayMovieThumbnailData`. -/
structure OverlaySet where
  type : OverlayType
  fileId : AlbumFileId
  buffer : List UInt8

/-- The bytes a call copies. -/
def OverlaySet.pixels (call : OverlaySet) : List UInt8 :=
  call.buffer.take overlayBufferSize

/-- Where the control thread stands. -/
inductive ControlPhase where
  | idle
  | copying (call : OverlaySet)
  | signalling (call : OverlaySet)

/-- The holder and the two threads: the calls the control thread still has to
make, those that have got a buffer, and what the accessor thread has read. -/
structure OverlaySystem where
  holder : OverlayThumbnailHolder
  phase : ControlPhase
  pending : List OverlaySet
  started : List OverlaySet
  outputs : List (OverlayType × OverlayThumbnail)

/-- Whose turn it is. -/
inductive OverlayTurn where
  | control
  | read (outBufferSize : Nat) (type : OverlayType)

namespace OverlaySystem

/-- The system before its first turn. -/
def start (calls : List OverlaySet) : OverlaySystem :=
  ⟨.initialized, .idle, calls, [], []⟩

/-- The control thread takes one step. A call with a short buffer is refused. -/
def control (system : OverlaySystem) : OverlaySystem :=
  match system.phase with
  | .idle =>
      match system.pending with
      | [] => system
      | call :: pending =>
          rUnless (overlayBufferSize ≤ call.buffer.length) { system with pending } <|
          match system.holder.getOverlayBuffer call.fileId call.type with
          | none => system
          | some holder =>
              { system with
                holder
                phase := .copying call
                pending
                started := system.started ++ [call] }
  | .copying call =>
      { system with
        holder := system.holder.copyPixels call.pixels call.type
        phase := .signalling call }
  | .signalling call =>
      { system with
        holder := system.holder.signal call.type
        phase := .idle }

/-- The accessor thread reads a thumbnail. -/
def read (outBufferSize : Nat) (type : OverlayType) (system : OverlaySystem) : OverlaySystem :=
  match system.holder.getLastOverlayThumbnail outBufferSize type with
  | some (.ok thumbnail) => { system with outputs := system.outputs ++ [(type, thumbnail)] }
  | _ => system

end OverlaySystem

def OverlayTurn.perform : OverlayTurn → Process OverlaySystem Unit
  | control => Process.modify OverlaySystem.control
  | read outBufferSize type => Process.modify (OverlaySystem.read outBufferSize type)

@[simp] theorem OverlayTurn.perform_control (system : OverlaySystem) :
    control.perform system = (some (), system.control) := rfl

@[simp] theorem OverlayTurn.perform_read (outBufferSize : Nat) (type : OverlayType)
    (system : OverlaySystem) :
    (read outBufferSize type).perform system = (some (), system.read outBufferSize type) := rfl

/-! ## Thumbnails that are not torn -/

/-- A thumbnail is the initial one, or id and pixels are those of one call on
the same content type that has got a buffer. -/
def IsWhole (started : List OverlaySet) (type : OverlayType) (fileId : AlbumFileId)
    (pixels : List UInt8) : Prop :=
  (fileId = .zero ∧ pixels = List.replicate overlayBufferSize 0xff) ∨
    ∃ call ∈ started, call.type = type ∧ fileId = call.fileId ∧ pixels = call.pixels

theorem IsWhole.append {started : List OverlaySet} {type : OverlayType} {fileId : AlbumFileId}
    {pixels : List UInt8} (whole : IsWhole started type fileId pixels)
    (more : List OverlaySet) : IsWhole (started ++ more) type fileId pixels := by
  rcases whole with initial | ⟨call, member, same⟩
  · exact .inl initial
  · exact .inr ⟨call, List.mem_append_left more member, same⟩

/-- Everything that was read is whole. -/
def NeverTorn (system : OverlaySystem) : Prop :=
  ∀ output ∈ system.outputs,
    IsWhole system.started output.1 output.2.fileId output.2.pixels

/-- The type whose pixels are not those of its id at the moment. -/
def OverlaySystem.copyingType (system : OverlaySystem) : Option OverlayType :=
  match system.phase with
  | .copying call => some call.type
  | _ => none

/-- A turn that does not read a thumbnail while it is being copied. -/
def AvoidsCopy (system : OverlaySystem) : OverlayTurn → Prop
  | .control => True
  | .read outBufferSize type =>
      overlayBufferSize ≤ outBufferSize → system.copyingType ≠ some type

/-- The slots between two turns: none is occupied, and each is whole unless it
is being copied, when it has the id of the call. -/
structure OverlayInvariant (system : OverlaySystem) : Prop where
  free : ∀ type, (system.holder.data type).status = .free
  whole : ∀ type, system.copyingType ≠ some type →
    IsWhole system.started type (system.holder.data type).fileId (system.holder.data type).buffer
  copying : ∀ call, system.phase = .copying call →
    call ∈ system.started ∧ (system.holder.data call.type).fileId = call.fileId
  outputs : NeverTorn system

theorem overlayInvariant_start (calls : List OverlaySet) : OverlayInvariant (.start calls) where
  free _ := rfl
  whole _ _ := .inl ⟨rfl, rfl⟩
  copying _ phase := by cases phase
  outputs _ member := by cases member

section

open OverlayThumbnailHolder OverlaySystem

variable {system : OverlaySystem} (invariant : OverlayInvariant system)

include invariant

/-- A call that gets a buffer: its slot has the new id and the old pixels. -/
theorem OverlayInvariant.begin (idle : system.phase = .idle) (call : OverlaySet)
    (pending : List OverlaySet) :
    OverlayInvariant
      { system with
        holder := system.holder.setData call.type
          { system.holder.data call.type with fileId := call.fileId }
        phase := .copying call
        pending
        started := system.started ++ [call] } where
  free type := by
    rcases eq_or_ne type call.type with rfl | different
    · rw [setData_same]
      exact invariant.free call.type
    · rw [setData_of_ne different]
      exact invariant.free type
  whole type other := by
    have different : type ≠ call.type := fun same => other (congrArg some same.symm)
    have unchanged : system.copyingType ≠ some type := by
      rw [copyingType, idle]
      simp
    rw [setData_of_ne different]
    exact (invariant.whole type unchanged).append [call]
  copying started phase := by
    cases phase
    refine ⟨List.mem_append_right _ (List.mem_singleton_self call), ?_⟩
    rw [setData_same]
  outputs output member := (invariant.outputs output member).append [call]

/-- A call that is refused. -/
theorem OverlayInvariant.skip (pending : List OverlaySet) :
    OverlayInvariant { system with pending } :=
  ⟨invariant.free, invariant.whole, invariant.copying, invariant.outputs⟩

/-- The pixels of the call have been copied: its slot is whole. -/
theorem OverlayInvariant.copied {call : OverlaySet} (phase : system.phase = .copying call) :
    OverlayInvariant
      { system with
        holder := system.holder.copyPixels call.pixels call.type
        phase := .signalling call } where
  free type := by
    rcases eq_or_ne type call.type with rfl | different
    · rw [copyPixels, setData_same]
      exact invariant.free call.type
    · rw [copyPixels, setData_of_ne different]
      exact invariant.free type
  whole type _ := by
    rcases invariant.copying call phase with ⟨started, named⟩
    rcases eq_or_ne type call.type with rfl | different
    · rw [copyPixels, setData_same]
      exact .inr ⟨call, started, rfl, named, rfl⟩
    · rw [copyPixels, setData_of_ne different]
      apply invariant.whole type
      rw [copyingType, phase]
      exact fun same => different (Option.some.inj same).symm
  copying _ phase := by cases phase
  outputs := invariant.outputs

theorem OverlayInvariant.signalled {call : OverlaySet} (phase : system.phase = .signalling call) :
    OverlayInvariant
      { system with
        holder := system.holder.signal call.type
        phase := .idle } := by
  have whole : ∀ type, IsWhole system.started type (system.holder.data type).fileId
      (system.holder.data type).buffer := by
    intro type
    apply invariant.whole type
    rw [copyingType, phase]
    simp
  refine ⟨fun type => ?_, fun type _ => ?_, fun _ idle => (by cases idle), invariant.outputs⟩
  · rcases eq_or_ne type call.type with rfl | different
    · rw [signal, setData_same]
    · rw [signal, setData_of_ne different]
      exact invariant.free type
  · rcases eq_or_ne type call.type with rfl | different
    · rw [signal, setData_same]
      exact whole call.type
    · rw [signal, setData_of_ne different]
      exact whole type

/-- A thumbnail that is not being copied has been read. -/
theorem OverlayInvariant.output {type : OverlayType} {thumbnail : OverlayThumbnail}
    (whole : IsWhole system.started type thumbnail.fileId thumbnail.pixels) :
    OverlayInvariant { system with outputs := system.outputs ++ [(type, thumbnail)] } where
  free := invariant.free
  whole := invariant.whole
  copying := invariant.copying
  outputs output member := by
    rcases List.mem_append.mp member with earlier | last
    · exact invariant.outputs output earlier
    · rw [List.mem_singleton.mp last]
      exact whole

theorem OverlayInvariant.control : OverlayInvariant system.control := by
  rw [OverlaySystem.control]
  cases phase : system.phase with
  | idle =>
      cases queue : system.pending with
      | nil => exact invariant
      | cons call pending =>
          have buffer : system.holder.getOverlayBuffer call.fileId call.type =
              some (system.holder.setData call.type
                { system.holder.data call.type with fileId := call.fileId }) :=
            if_neg (by simp [invariant.free call.type])
          simp only [rUnless, buffer]
          split
          · exact invariant.begin phase call pending
          · simpa only [phase] using invariant.skip pending
  | copying call => exact invariant.copied phase
  | signalling call => exact invariant.signalled phase

theorem OverlayInvariant.read {outBufferSize : Nat} {type : OverlayType}
    (avoids : AvoidsCopy system (.read outBufferSize type)) :
    OverlayInvariant (system.read outBufferSize type) := by
  rw [OverlaySystem.read]
  simp only [getLastOverlayThumbnail, rUnless, invariant.free type, reduceCtorEq, if_false]
  by_cases room : overlayBufferSize ≤ outBufferSize
  · rw [if_pos room]
    exact invariant.output (invariant.whole type (avoids room))
  · rw [if_neg room]
    exact invariant

/-- What the condition keeps out: a read in the middle of a call gets the id of
the call and the pixels from before it. -/
theorem OverlayInvariant.outputs_read_copying {call : OverlaySet} {outBufferSize : Nat}
    (phase : system.phase = .copying call) (room : overlayBufferSize ≤ outBufferSize) :
    (system.read outBufferSize call.type).outputs = system.outputs ++ [(call.type,
      ⟨call.fileId, overlayBufferSize, (system.holder.data call.type).buffer⟩)] := by
  have named := (invariant.copying call phase).2
  simp only [OverlaySystem.read, getLastOverlayThumbnail, rUnless, invariant.free call.type,
    reduceCtorEq, if_false, if_pos room, named]

end

theorem overlayInvariant_perform {system : OverlaySystem} (turn : OverlayTurn)
    (invariant : OverlayInvariant system) (avoids : AvoidsCopy system turn) :
    OverlayInvariant (turn.perform system).2 := by
  cases turn with
  | control => exact invariant.control
  | read outBufferSize type => exact invariant.read avoids

/-- No thumbnail is torn in any interleaving that does not read one between
`GetOverlayBuffer` and the copy. -/
theorem getLastOverlayThumbnail_neverTorn (calls : List OverlaySet) (turns : List OverlayTurn)
    (avoids : Process.Meets OverlayTurn.perform AvoidsCopy turns (.start calls)) (count : Nat) :
    NeverTorn (Process.run OverlayTurn.perform (turns.take count) (.start calls)).2 :=
  (Process.run_of_meets (fun _ turn => overlayInvariant_perform turn)
    (overlayInvariant_start calls) (avoids.take count)).outputs

/-! ## A thumbnail that is torn -/

/-- A black thumbnail of a screenshot. -/
def blackThumbnail : OverlaySet :=
  ⟨.screenshot, savedScreenshot, List.replicate overlayBufferSize 0⟩

/-- The system after the black thumbnail has got its buffer. -/
def blackCopying : OverlaySystem where
  holder := OverlayThumbnailHolder.initialized.setData .screenshot
    { OverlayThumbnailHolder.initialized.data .screenshot with fileId := savedScreenshot }
  phase := .copying blackThumbnail
  pending := []
  started := [blackThumbnail]
  outputs := []

theorem control_start_black : (OverlaySystem.start [blackThumbnail]).control = blackCopying := by
  have long : overlayBufferSize ≤ blackThumbnail.buffer.length := by
    rw [blackThumbnail, List.length_replicate]
  simp only [OverlaySystem.control, OverlaySystem.start, rUnless, if_pos long]
  rfl

/-- Read after the copy it is whole. -/
theorem getLastOverlayThumbnail_neverTorn_black :
    NeverTorn (Process.run OverlayTurn.perform
      ([.control, .control, .read overlayBufferSize .screenshot].take 3)
      (.start [blackThumbnail])).2 :=
  getLastOverlayThumbnail_neverTorn [blackThumbnail]
    [.control, .control, .read overlayBufferSize .screenshot]
    (by
      refine ⟨trivial, fun _ => ⟨trivial, fun _ => ⟨fun _ => ?_, fun _ => trivial⟩⟩⟩
      simp only [OverlayTurn.perform_control, control_start_black]
      exact fun copying => by cases copying)
    3

/-- Read before the copy it has the new id and the initial pixels. -/
theorem getLastOverlayThumbnail_torn_black :
    ¬ (∀ (calls : List OverlaySet) (turns : List OverlayTurn),
      NeverTorn (Process.run OverlayTurn.perform turns (.start calls)).2) := by
  intro always
  have whole := always [blackThumbnail] [.control, .read overlayBufferSize .screenshot]
  simp only [Process.run, Process.bind_apply, OverlayTurn.perform_control, control_start_black,
    OverlayTurn.perform_read, Process.pure_apply] at whole
  have torn : IsWhole [blackThumbnail] .screenshot savedScreenshot
      (List.replicate overlayBufferSize 0xff) := by
    apply whole (.screenshot, ⟨savedScreenshot, overlayBufferSize, _⟩)
    rw [OverlaySystem.read, OverlayThumbnailHolder.getLastOverlayThumbnail, rUnless,
      if_pos (Nat.le_refl _)]
    exact List.mem_singleton_self _
  rcases torn with ⟨initial, -⟩ | ⟨call, member, -, -, pixels⟩
  · exact absurd initial (by decide)
  · cases List.mem_singleton.mp member
    rw [OverlaySet.pixels, blackThumbnail, List.take_replicate, Nat.min_self] at pixels
    have nonempty : overlayBufferSize ≠ 0 := by decide
    have same := List.replicate_inj.mp pixels
    exact absurd (same.2.resolve_left nonempty) (by decide)

end Capsrv
