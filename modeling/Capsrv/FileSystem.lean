import Mathlib.Data.Finset.Insert
import Capsrv.Foundation.FileStore
import Capsrv.Foundation.Text
import Capsrv.Result

/-! # The file system layer

The `fs` calls of the service: the mount table, the resolution of a path and the
files behind it. What the system behind the layer answers to a call is given
with the call, as the fault it has or does not have; a call with a fault changes
nothing. Directories are not part of the state.
-/

namespace Capsrv

/-- A result that is not success. -/
structure Failure where
  result : Result
  failed : result ≠ .success

abbrev Fault := Option Failure

/-- What the layer hands on of a call that the system has answered. -/
def Fault.result : Fault → Result
  | none => .success
  | some failure => failure.result

@[simp] theorem Fault.result_none : Fault.result none = .success := rfl

@[simp] theorem Fault.result_eq_success_iff {fault : Fault} :
    fault.result = .success ↔ fault = none := by
  cases fault with
  | none => simp
  | some failure => simp [Fault.result, failure.failed]

/-! ## Paths -/

/-- A mount name, and the names on the way from its root. -/
structure FsPath where
  mountName : Text
  components : List Text
deriving DecidableEq, Repr

namespace Fs

/-- `MountNameLengthMax`. -/
def mountNameLengthMax : Nat := 15

/-- `EntryNameLengthMax`. -/
def entryNameLengthMax : Nat := 0x300

def isWindowsDriveCharacter (character : UInt8) : Bool :=
  (0x61 ≤ character && character ≤ 0x7a) || (0x41 ≤ character && character ≤ 0x5a)

def isWindowsAbsolutePath (path : Text) : Bool :=
  isWindowsDriveCharacter (path.charAt 0) && path.charAt 1 == 0x3a

def isAnySeparator (character : UInt8) : Bool :=
  character == 0x2f || character == 0x5c

def isUnc (path : Text) : Bool :=
  (path.charAt 0 == 0x2f && path.charAt 1 == 0x2f) ||
    (path.charAt 0 == 0x5c && path.charAt 1 == 0x5c)

/-- `IsValidMountName`, with the reserved names `CheckMountName` refuses. -/
def checkMountName (name : Text) : Result :=
  rUnless (name ≠ []) invalidMountName.result <|
  rUnless (¬ (isWindowsDriveCharacter (name.charAt 0) = true ∧ name.length = 1))
    invalidMountName.result <|
  rUnless (name.all fun character => character != 0x3a && character != 0x2f)
    invalidMountName.result <|
  rUnless (name.length ≤ mountNameLengthMax) invalidMountName.result <|
  rUnless (name.charAt 0 ≠ 0x40) invalidMountName.result
  .success

/-- `GetMountNameAndSubPath`, behind the check of `FindFileSystem` that keeps
the host file system out: a path it would send there is not mounted. -/
def getMountNameAndSubPath (path : Text) : Except Result (Text × Text) :=
  rUnless (¬ ascii "@Host" <+: path) (.error notMounted.result) <|
  if isWindowsAbsolutePath path || isUnc path then .error notMounted.result
  else
    let name := path.takeWhile (· != 0x3a)
    rUnless (name.length < path.length ∧ name.length ≤ mountNameLengthMax)
      (.error invalidMountName.result) <|
    let subPath : Text := path.drop (name.length + 1)
    rUnless (subPath ≠ []) (.error invalidMountName.result) <|
    rUnless (isAnySeparator (subPath.charAt 0)) (.error invalidPathFormat.result) <|
    .ok (name, subPath)

/-- The characters `VerifyPath` bans: `:*?<>|`. -/
def isBanned (character : UInt8) : Bool :=
  [0x3a, 0x2a, 0x3f, 0x3c, 0x3e, 0x7c].contains character

/-- The names in a path, between its separators. -/
def splitPath (path : Text) : List Text :=
  (path.splitOn 0x2f).filter (· ≠ [])

/-- `ValidatePath` and `GetPathForServiceObject`, with its `VerifyPath`. -/
def getPathForServiceObject (name subPath : Text) : Except Result (List Text) :=
  rUnless (name.length + 1 + min subPath.length entryNameLengthMax ≤ entryNameLengthMax)
    (.error tooLongPath.result) <|
  let path : Text := subPath.map fun character => if character = 0x5c then 0x2f else character
  rUnless (path.all fun character => !isBanned character) (.error invalidCharacter.result) <|
  .ok (splitPath path)

end Fs

/-! ## The state -/

/-- A call that changes the mount table, and whether its name was registered. -/
inductive MountCall where
  | mountImageDirectory (name : Text) (registered : Bool)
  | unmount (name : Text) (registered : Bool)
deriving DecidableEq, Repr

/-- The mount table and the files. The calls on the table and the paths of the
files that were created, resized, written or deleted are recorded. -/
structure FileSystem where
  names : Finset Text
  calls : List MountCall
  files : FileStore FsPath (List UInt8)
  mutations : List FsPath

namespace FileSystem

/-! ## Mounting -/

def called (call : MountCall) (fs : FileSystem) : FileSystem :=
  { fs with calls := fs.calls ++ [call] }

/-- `MountTable::Mount`. -/
def register (name : Text) (fs : FileSystem) : Result × FileSystem :=
  rUnless (name ∉ fs.names) (Fs.mountNameAlreadyExists.result, fs)
  (.success, { fs with names := insert name fs.names })

/-- `fs::MountImageDirectory`. The image directory is given by the name. -/
def mountImageDirectory (fault : Fault) (name : Text) (fs : FileSystem) : Result × FileSystem :=
  let fs := fs.called (.mountImageDirectory name (name ∈ fs.names))
  rTry (Fs.checkMountName name) (·, fs) <|
  rTry fault.result (·, fs) <|
  fs.register name

/-- `fs::MountSystemSaveData`. -/
def mountSystemSaveData (fault : Fault) (name : Text) (fs : FileSystem) : Result × FileSystem :=
  rTry (Fs.checkMountName name) (·, fs) <|
  rTry fault.result (·, fs) <|
  fs.register name

/-- `UnmountImpl`. No file is open between two requests. -/
def unmount (name : Text) (fs : FileSystem) : Result × FileSystem :=
  let fs := fs.called (.unmount name (name ∈ fs.names))
  rUnless (name ∈ fs.names) (Fs.notMounted.result, fs)
  (.success, { fs with names := fs.names.erase name })

/-! ## Files -/

/-- The path behind a text, by way of the mount table. -/
def resolve (fs : FileSystem) (path : Text) : Except Result FsPath := do
  let (name, subPath) ← Fs.getMountNameAndSubPath path
  if name ∈ fs.names then
    let components ← Fs.getPathForServiceObject name subPath
    pure ⟨name, components⟩
  else .error Fs.notMounted.result

/-- `fs::OpenFile`. A handle is the path that was opened. -/
def openFile (fault : Fault) (path : Text) (fs : FileSystem) : Except Result FsPath := do
  let file ← fs.resolve path
  rTry fault.result .error <|
  rUnless ((fs.files file).isSome) (.error Fs.pathNotFound.result) <|
  .ok file

/-- `fs::GetFileSize`. -/
def getFileSize (fault : Fault) (file : FsPath) (fs : FileSystem) : Except Result Nat :=
  rTry fault.result .error <|
  .ok ((fs.files file).getD []).length

/-- `fs::ReadFile` of at most `size` bytes. -/
def readFile (fault : Fault) (file : FsPath) (offset size : Nat) (fs : FileSystem) :
    Except Result (List UInt8) :=
  rTry fault.result .error <|
  .ok ((((fs.files file).getD []).drop offset).take size)

/-- `fs::EnsureParentDirectoryRecursively`, which makes directories only. -/
def ensureParentDirectoryRecursively (fault : Fault) (path : Text) (fs : FileSystem) : Result :=
  match fs.resolve path with
  | .error result => result
  | .ok _ => fault.result

/-- A file that has been created, resized or written. -/
def store (file : FsPath) (content : List UInt8) (fs : FileSystem) : FileSystem :=
  { fs with files := fs.files.put file content, mutations := fs.mutations ++ [file] }

/-- A file that has been deleted. -/
def remove (file : FsPath) (fs : FileSystem) : FileSystem :=
  { fs with files := fs.files.erase file, mutations := fs.mutations ++ [file] }

/-- `fs::CreateFile`. -/
def createFile (fault : Fault) (path : Text) (size : Nat) (fs : FileSystem) :
    Result × FileSystem :=
  match fs.resolve path with
  | .error result => (result, fs)
  | .ok file =>
      rTry fault.result (·, fs) <|
      rUnless (fs.files file = none) (Fs.pathAlreadyExists.result, fs)
      (.success, fs.store file (List.replicate size 0))

/-- `fs::DeleteFile`. -/
def deleteFile (fault : Fault) (path : Text) (fs : FileSystem) : Result × FileSystem :=
  match fs.resolve path with
  | .error result => (result, fs)
  | .ok file =>
      rTry fault.result (·, fs) <|
      rUnless ((fs.files file).isSome) (Fs.pathNotFound.result, fs)
      (.success, fs.remove file)

/-- `fs::SetFileSize`: what is cut off is gone, what is added is zero. -/
def setFileSize (fault : Fault) (file : FsPath) (size : Nat) (fs : FileSystem) :
    Result × FileSystem :=
  rTry fault.result (·, fs) <|
  let content := (fs.files file).getD []
  (.success, fs.store file (content.take size ++ List.replicate (size - content.length) 0))

/-- `fs::FlushFile`. What has been written is in the file already. -/
def flushFile (fault : Fault) (_file : FsPath) (fs : FileSystem) : Result × FileSystem :=
  (fault.result, fs)

/-- `fs::WriteFile` through a handle that may append. -/
def writeFile (fault : Fault) (file : FsPath) (offset : Nat) (data : List UInt8)
    (fs : FileSystem) : Result × FileSystem :=
  rTry fault.result (·, fs) <|
  let content := (fs.files file).getD []
  (.success, fs.store file (content.take offset ++ data ++ content.drop (offset + data.length)))

end FileSystem

end Capsrv
