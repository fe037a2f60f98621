import Capsrv.AlbumRequests
import Capsrv.Application.Requests
import Capsrv.Foundation.Part
import Capsrv.Overlay

/-! # The server

The objects that the services share, what stays the same while they run, and how
a handler answers.
-/

namespace Capsrv

/-- What does not change while the server runs: the keys, the calendar, the
cached environment, the firmware and the magic number of its messages. -/
structure Environment where
  cipher : PathCipher
  ciphers : ApplicationCiphers
  calendar : Calendar
  isDebug : Bool
  hosVersion : HosVersion
  cmifInHeaderMagic : UInt32

/-- The newest version of a message header. -/
def Environment.maxCmifVersion (environment : Environment) : UInt32 :=
  if .version5 ≤ environment.hosVersion then 1 else 0

/-! ## Errors -/

namespace Result

/-- `GetModule`. -/
def moduleId (result : Result) : UInt32 :=
  result.value &&& 0x1ff

end Result

structure AlbumErrorConverter where
  shouldConvert : Bool
deriving DecidableEq, Repr

/-- `ConvertErrorImpl`. Neither case converts anything yet. -/
def convertErrorImpl (rc : Result) : Result :=
  if rc.moduleId = 206 then rc else rc

namespace AlbumErrorConverter

/-- `Initialize`. -/
def initialized : AlbumErrorConverter :=
  ⟨true⟩

def setMode (mode : Bool) (_converter : AlbumErrorConverter) : AlbumErrorConverter :=
  ⟨mode⟩

def convertError (converter : AlbumErrorConverter) (rc : Result) : Result :=
  if converter.shouldConvert then convertErrorImpl rc else rc

@[simp] theorem convertError_eq (converter : AlbumErrorConverter) (rc : Result) :
    converter.convertError rc = rc := by
  unfold convertError convertErrorImpl
  rw [ite_self, ite_self]

end AlbumErrorConverter

/-! ## The shared objects -/

/-- The objects that the services share. The album manager stands with the file
system under it and its settings. -/
structure Server where
  album : Service
  fileIds : AlbumFileIdGenerator
  overlay : OverlayThumbnailHolder
  applications : ApplicationAlbumManager
  errorConverter : AlbumErrorConverter

namespace Server

def albumPart : Part Server Service where
  get := album
  set album server := { server with album }
  get_set _ _ := rfl
  set_get _ := rfl
  set_set _ _ _ := rfl

def overlayPart : Part Server OverlayThumbnailHolder where
  get := overlay
  set overlay server := { server with overlay }
  get_set _ _ := rfl
  set_get _ := rfl
  set_set _ _ _ := rfl

def applicationsPart : Part Server ApplicationAlbumManager where
  get := applications
  set applications server := { server with applications }
  get_set _ _ := rfl
  set_get _ := rfl
  set_set _ _ _ := rfl

def errorConverterPart : Part Server AlbumErrorConverter where
  get := errorConverter
  set errorConverter server := { server with errorConverter }
  get_set _ _ := rfl
  set_get _ := rfl
  set_set _ _ _ := rfl

def generatorPart : Part Server AlbumFileIdGenerator where
  get := fileIds
  set fileIds server := { server with fileIds }
  get_set _ _ := rfl
  set_get _ := rfl
  set_set _ _ _ := rfl

/-- The generator asks the album manager where to save. -/
def fileIdsPart : Part Server (AlbumFileIdGenerator × Service) where
  get server := (server.fileIds, server.album)
  set pair server := { server with fileIds := pair.1, album := pair.2 }
  get_set _ _ := rfl
  set_get _ := rfl
  set_set _ _ _ := rfl

/-- The objects after their constructors and `Initialize`, around an album
manager. -/
def around (album : Service) : Server :=
  ⟨album, .initialized, .initialized, .constructed, .initialized⟩

end Server

/-! ## Answers -/

/-- What a handler writes to its outputs. -/
inductive Output where
  | nothing
  | flag (value : Bool)
  | number (value : UInt64)
  | size (value : Nat)
  | dimensions (width height : UInt64)
  | storage (storageId : StorageId)
  | fileId (fileId : AlbumFileId)
  | entry (entry : AlbumEntry)
  | entries (entries : List AlbumEntry)
  | applicationEntry (entry : ApplicationAlbumEntry)
  | thumbnail (thumbnail : OverlayThumbnail)
  | appletIds (range : Option (UInt64 × UInt64))
  | session

/-- A failure, or the outputs. -/
abbrev Reply := Except Result Output

/-- What the system answers when a session for an object is created and added to those
of the manager, which has room for so many. -/
structure SessionFaults where
  createSession : Fault
  registerSession : Fault

namespace Server

/-- `R_TRY` around `ConvertError`; the outputs are written behind it. -/
def answer {α : Type} (output : α → Output) (outcome : Result × α) : Process Server Reply := do
  let rc := (← Process.get).errorConverter.convertError outcome.1
  pure (rTry rc .error (.ok (output outcome.2)))

/-- A request without outputs. -/
def answerResult (rc : Result) : Process Server Reply :=
  answer (fun _ => .nothing) (rc, ())

theorem answer_eq {α : Type} (output : α → Output) (outcome : Result × α) :
    answer output outcome = pure (rTry outcome.1 .error (.ok (output outcome.2))) := by
  funext server
  simp only [answer, Process.bind_apply, Process.get_apply,
    AlbumErrorConverter.convertError_eq]

/-- `AMS_ABORT("Not implemented")`. -/
def notImplemented : Process Server Reply :=
  Process.abort

/-- A handler that returns a session object, and `SetOutObjectImpl` behind it. -/
def openSession (faults : SessionFaults) : Process Server Reply :=
  rTry faults.createSession.result (fun _ => Process.abort) <|
  rTry faults.registerSession.result (fun _ => Process.abort) <|
  pure (.ok .session)

end Server

end Capsrv
