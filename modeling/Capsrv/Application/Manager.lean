import Mathlib.Data.Fin.Basic
import Mathlib.Logic.Function.Basic
import Capsrv.Application.Codec
import Capsrv.Foundation.Process

/-! # The application album manager

`ApplicationAlbumManager`: four slots for the applications that are running, and
the requests that go over them. Whether it is initialized is never looked at.
-/

namespace Capsrv

structure ApplicationResource where
  used : Bool
  aruid : UInt64
  applicationId : UInt64
  version : UInt64
  key : Aes256Key

/-- The codec that the requests on entries choose by the version. -/
inductive ApplicationCodec where
  | v0
  | v1
deriving DecidableEq, Repr

namespace ApplicationResource

def empty : ApplicationResource :=
  ⟨false, 0, 0, 0, fun _ => 0⟩

def codec (res : ApplicationResource) : ApplicationCodec :=
  if res.version = 0 then .v0 else .v1

end ApplicationResource

/-- What registering draws: it draws until the key is not zero. -/
structure DrawnKey where
  key : Aes256Key
  nonzero : key ≠ fun _ => 0

structure ApplicationAlbumManager where
  resources : Fin 4 → ApplicationResource

namespace ApplicationAlbumManager

def constructed : ApplicationAlbumManager :=
  ⟨fun _ => .empty⟩

/-- `Exit`. -/
def exit (manager : ApplicationAlbumManager) : ApplicationAlbumManager :=
  ⟨fun slot => if (manager.resources slot).used then .empty else manager.resources slot⟩

/-! ## Registering -/

/-- `RegisterAppletResourceUserId`. The loop ends at the first slot that is not
used, whatever is behind it. -/
def registerAppletResourceUserId (key : DrawnKey) (aruid applicationId : UInt64)
    (manager : ApplicationAlbumManager) : Result × ApplicationAlbumManager :=
  match Fin.find? fun slot => !(manager.resources slot).used with
  | none => (controlResourceLimit.result, manager)
  | some slot =>
      if (manager.resources slot).aruid ≠ aruid then
        (.success, ⟨Function.update manager.resources slot
          ⟨true, aruid, applicationId, 0, key.key⟩⟩)
      else (controlAlreadyOpen.result, manager)

/-- `UnregisterAppletResourceUserId`. The loop variable is a copy of the slot,
and the copy is what is cleared. -/
def unregisterAppletResourceUserId (aruid _applicationId : UInt64)
    (manager : ApplicationAlbumManager) : ApplicationAlbumManager :=
  (List.finRange 4).foldl
    (fun manager slot =>
      let res := manager.resources slot
      if res.aruid ≠ aruid then manager
      else
        let _res : ApplicationResource :=
          { res with used := false, aruid := 0, applicationId := 0, version := 0, key := fun _ => 0 }
        manager)
    manager

theorem unregisterAppletResourceUserId_eq (aruid applicationId : UInt64)
    (manager : ApplicationAlbumManager) :
    manager.unregisterAppletResourceUserId aruid applicationId = manager := by
  unfold unregisterAppletResourceUserId
  induction List.finRange 4 with
  | nil => rfl
  | cons slot slots induction =>
      rw [List.foldl_cons]
      dsimp only
      rwa [ite_self]

/-! ## Looking up -/

/-- What a request names a slot by. -/
inductive ResourceId where
  | aruid (value : UInt64)
  | applicationId (value : UInt64)
deriving DecidableEq, Repr

namespace ResourceId

def value : ResourceId → UInt64
  | aruid value => value
  | applicationId value => value

def owns : ResourceId → ApplicationResource → Bool
  | aruid value, res => res.aruid = value
  | applicationId value, res => res.applicationId = value

end ResourceId

/-- The loop all the lookups have: the first slot with the id decides. Whether
it is used is not looked at. -/
def ownResource (manager : ApplicationAlbumManager) (resourceId : ResourceId) :
    Option (Fin 4) :=
  Fin.find? fun slot => resourceId.owns (manager.resources slot)

def withOwnResource {α : Type} (manager : ApplicationAlbumManager) (resourceId : ResourceId)
    (notOpened : α) (body : ApplicationResource → α) : α :=
  match manager.ownResource resourceId with
  | none => notOpened
  | some slot => body (manager.resources slot)

def getApplicationIdFromAruid (manager : ApplicationAlbumManager) (out aruid : UInt64) :
    Result × UInt64 :=
  manager.withOwnResource (.aruid aruid) (controlNotOpened.result, out) fun res =>
    (.success, res.applicationId)

def checkApplicationIdRegistered (manager : ApplicationAlbumManager) (applicationId : UInt64) :
    Result :=
  manager.withOwnResource (.applicationId applicationId) controlNotOpened.result fun _ => .success

/-- `SetShimLibraryVersion`. The version is set in a copy of the slot. -/
def setShimLibraryVersion (version aruid : UInt64) (manager : ApplicationAlbumManager) :
    Result × ApplicationAlbumManager :=
  manager.withOwnResource (.aruid aruid) (controlNotOpened.result, manager) fun res =>
    rUnless (version = 1) (albumOutOfRange.result, manager) <|
    if res.version = version then (.success, manager)
    else
      rUnless (res.version = 0) (albumInvalidState.result, manager)
      (let _res := { res with version := version }
      (.success, manager))

theorem setShimLibraryVersion_manager (version aruid : UInt64)
    (manager : ApplicationAlbumManager) :
    (manager.setShimLibraryVersion version aruid).2 = manager := by
  unfold setShimLibraryVersion withOwnResource
  cases manager.ownResource (.aruid aruid) with
  | none => rfl
  | some slot =>
      simp only [rUnless]
      repeat' split
      all_goals rfl

/-! ## Entries -/

section

variable (ciphers : ApplicationCiphers) (settings : AlbumSettings)

/-- `GenerateApplicationAlbumEntry`, with what was in its temporary before. -/
def generateApplicationAlbumEntry (temporary out : ApplicationAlbumEntry) (entry : AlbumEntry)
    (applicationId : UInt64) (manager : ApplicationAlbumManager) :
    Result × ApplicationAlbumEntry :=
  manager.withOwnResource (.applicationId applicationId) (controlNotOpened.result, out) fun res =>
    match res.codec with
    | .v0 => (.success, encryptV0 (ciphers.aes256 res.key) entry)
    | .v1 =>
        let encrypted := encryptV1 ciphers.applicationKey temporary entry res.version
        rTry encrypted.1 (·, out) (.success, encrypted.2)

/-- `GetAlbumEntryFromApplicationAlbumEntryV0Impl`. -/
def getAlbumEntryFromApplicationAlbumEntryV0Impl (out : AlbumEntry) (src : ApplicationAlbumEntry)
    (applicationId : UInt64) (key : Aes256Key) : Result × AlbumEntry :=
  let tmp := decryptV0 (ciphers.aes256 key) src
  rUnless (tmp.fileId.applicationId = applicationId) (albumInvalidApplicationId.result, out)
  (.success, tmp)

/-- `GetAlbumEntryFromApplicationAlbumEntryV1Impl`. -/
def getAlbumEntryFromApplicationAlbumEntryV1Impl (temporary out : AlbumEntry)
    (src : ApplicationAlbumEntry) (applicationId : UInt64) : Result × AlbumEntry :=
  let tmp := decryptV1 ciphers.applicationKey temporary src applicationId
  rTry tmp.1 (·, out) <|
  rTry (tmp.2.fileId.verify settings) (·, out)
  (.success, tmp.2)

/-- What the two requests that read an entry do with the slot they find. -/
def getAlbumEntryImpl (temporary out : AlbumEntry) (src : ApplicationAlbumEntry)
    (res : ApplicationResource) : Result × AlbumEntry :=
  match res.codec with
  | .v0 => getAlbumEntryFromApplicationAlbumEntryV0Impl ciphers out src res.applicationId res.key
  | .v1 =>
      getAlbumEntryFromApplicationAlbumEntryV1Impl ciphers settings temporary out src
        res.applicationId

def getAlbumEntryFromApplicationAlbumEntry (temporary out : AlbumEntry)
    (src : ApplicationAlbumEntry) (applicationId : UInt64) (manager : ApplicationAlbumManager) :
    Result × AlbumEntry :=
  manager.withOwnResource (.applicationId applicationId) (controlNotOpened.result, out)
    (getAlbumEntryImpl ciphers settings temporary out src)

def getAlbumEntryFromApplicationAlbumEntryAruid (temporary out : AlbumEntry)
    (src : ApplicationAlbumEntry) (aruid : UInt64) (manager : ApplicationAlbumManager) :
    Result × AlbumEntry :=
  manager.withOwnResource (.aruid aruid) (controlNotOpened.result, out)
    (getAlbumEntryImpl ciphers settings temporary out src)

/-- An entry encrypted over itself. -/
def encryptInPlace (res : ApplicationResource) (appEntry : ApplicationAlbumEntry) :
    Result × ApplicationAlbumEntry :=
  match res.codec with
  | .v0 => (.success, encryptV0 (ciphers.aes256 res.key) (.ofImage appEntry))
  | .v1 => encryptV1 ciphers.applicationKey appEntry (.ofImage appEntry) res.version

end

/-- The loop over a buffer, up to its first failure. -/
def encryptBuffer {α : Type} (encrypt : α → Result × α) : List α → Result × List α
  | [] => (.success, [])
  | entry :: entries =>
      let encrypted := encrypt entry
      rTry encrypted.1 (·, encrypted.2 :: entries)
      (let rest := encryptBuffer encrypt entries
      (rest.1, encrypted.2 :: rest.2))

structure ApplicationAlbumFileEntry where
  entry : ApplicationAlbumEntry
  dateTime : AlbumDateTime
  unkX28 : UInt64

def encryptAaeBuffer (ciphers : ApplicationCiphers) (appEntries : List ApplicationAlbumEntry)
    (aruid : UInt64) (manager : ApplicationAlbumManager) :
    Result × List ApplicationAlbumEntry :=
  manager.withOwnResource (.aruid aruid) (controlNotOpened.result, appEntries) fun res =>
    encryptBuffer (encryptInPlace ciphers res) appEntries

def encryptAafeBuffer (ciphers : ApplicationCiphers)
    (appFileEntries : List ApplicationAlbumFileEntry) (aruid : UInt64)
    (manager : ApplicationAlbumManager) : Result × List ApplicationAlbumFileEntry :=
  manager.withOwnResource (.aruid aruid) (controlNotOpened.result, appFileEntries) fun res =>
    encryptBuffer
      (fun appFileEntry =>
        let encrypted := encryptInPlace ciphers res appFileEntry.entry
        (encrypted.1, { appFileEntry with entry := encrypted.2 }))
      appFileEntries

end ApplicationAlbumManager

end Capsrv
