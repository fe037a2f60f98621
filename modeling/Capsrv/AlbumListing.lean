import Capsrv.AlbumFilePath
import Capsrv.DirectoryScan
import Capsrv.MountInvariant

/-! # Listing a storage

`AlbumManager::ListEntries` over a tree of directories and files. The scan never
gets to the root of the tree: the path it opens has a second colon in it.
-/

namespace Capsrv

open Service

/-! ## The request -/

/-- Whether `ListEntries` reports an entry. -/
def isListed (manager : AlbumManager) (contentTypeFlags : UInt8) (entry : AlbumEntry) : Bool :=
  (1 <<< entry.fileId.type.value.toNat) &&& contentTypeFlags.toNat != 0 &&
    !manager.writeReserve.isReserved entry.fileId

/-- The `AlbumFileCallback` of `ListEntries`, on the entries written so far.
Whether there is room for an entry is looked at once it has been written. -/
def listCallback (manager : AlbumManager) (contentTypeFlags : UInt8) (maxEntries : UInt64)
    (entry : AlbumEntry) (entries : List AlbumEntry) : List AlbumEntry × Bool :=
  let entries := if isListed manager contentTypeFlags entry then entries ++ [entry] else entries
  (entries, maxEntries == UInt64.ofNat entries.length)

/-- `AlbumManager::ListEntries`: the result, and the entries written to the
array. The result of the scan is not looked at. -/
def listEntries (fault : Fault) (cipher : PathCipher) (reader : DirectoryReader)
    (stack : Nat → Block) (maxEntries : UInt64) (storageId : StorageId)
    (contentTypeFlags : UInt8) : Process Service (Result × List AlbumEntry) := do
  let ensured ← ensureMountState fault storageId .mounted
  rTry ensured (fun result => pure (result, [])) do
    let manager := (← Process.get).manager
    let scanned := processImageDirectory cipher reader storageId stack
      (listCallback manager contentTypeFlags maxEntries) []
    pure (.success, scanned.2)

def AllListed (manager : AlbumManager) (contentTypeFlags : UInt8) (entries : List AlbumEntry) :
    Prop :=
  ∀ entry ∈ entries, isListed manager contentTypeFlags entry = true

theorem listCallback_allListed {manager : AlbumManager} {contentTypeFlags : UInt8}
    {maxEntries : UInt64} (entry : AlbumEntry) (entries : List AlbumEntry)
    (listed : AllListed manager contentTypeFlags entries) :
    AllListed manager contentTypeFlags
      (listCallback manager contentTypeFlags maxEntries entry entries).1 := by
  unfold listCallback
  by_cases wanted : isListed manager contentTypeFlags entry
  · rw [if_pos wanted]
    intro candidate member
    rcases List.mem_append.mp member with earlier | last
    · exact listed candidate earlier
    · rwa [List.mem_singleton.mp last]
  · rw [if_neg wanted]
    exact listed

/-- Whatever the file system answers, what is written was asked for and is not
reserved for writing. -/
theorem listEntries_listed {fault : Fault} {cipher : PathCipher} {reader : DirectoryReader}
    {stack : Nat → Block} {maxEntries : UInt64} {storageId : StorageId} {contentTypeFlags : UInt8}
    {service next : Service} {result : Result} {entries : List AlbumEntry}
    (returned : listEntries fault cipher reader stack maxEntries storageId contentTypeFlags
      service = (some (result, entries), next)) :
    AllListed next.manager contentTypeFlags entries := by
  have empty : ∀ manager, AllListed manager contentTypeFlags [] := fun _ _ member => by cases member
  rw [listEntries, Process.bind_apply] at returned
  cases ensured : ensureMountState fault storageId .mounted service with
  | mk value mounted =>
      rw [ensured] at returned
      cases value with
      | none => cases returned
      | some outcome =>
          by_cases success : outcome.isSuccess
          · simp only [rTry, if_pos success] at returned
            cases returned
            exact processImageDirectory_preserves listCallback_allListed [] (empty _)
          · simp only [rTry, if_neg success] at returned
            cases returned
            exact empty _

/-! ## Trees -/

/-- What is stored under a name. -/
inductive Node where
  | file (content : List UInt8)
  | directory (children : List (Text × Node))

namespace Node

def child (name : Text) : Node → Option Node
  | file _ => none
  | directory children => (children.find? (·.1 = name)).map (·.2)

def find (node : Node) (names : List Text) : Option Node :=
  names.foldlM (fun node name => node.child name) node

/-- The children a directory is opened for. -/
def entries (mode : OpenDirectoryMode) (children : List (Text × Node)) : List DirectoryEntry :=
  children.filterMap fun (name, node) =>
    match mode, node with
    | .directory, directory _ => some ⟨name, 0⟩
    | .file, file content => some ⟨name, .ofNat content.length⟩
    | _, _ => none

/-- The tree with one file. -/
def single (names : List Text) (content : List UInt8) : Node :=
  names.foldr (fun name node => directory [(name, node)]) (file content)

theorem find_cons (node : Node) (name : Text) (names : List Text) :
    node.find (name :: names) = (node.child name).bind (·.find names) := rfl

theorem find_single (names : List Text) (content : List UInt8) :
    (single names content).find names = some (file content) := by
  induction names with
  | nil => rfl
  | cons name names induction =>
      have child : (single (name :: names) content).child name = some (single names content) := by
        simp [single, Node.child]
      rw [find_cons, child, Option.bind_some, induction]

end Node

/-- The file system layer over a tree on each mount point. A directory that can
be resolved and is there is opened, and read without a failure. -/
def treeReader (fs : FileSystem) (root : Text → Node) : DirectoryReader where
  openDirectory path mode :=
    match fs.resolve path with
    | .error result => .error result
    | .ok path =>
        match (root path.mountName).find path.components with
        | some (.directory children) => .ok ((Node.entries mode children).map .ok)
        | _ => .error Fs.pathNotFound.result

/-- An id without padding that `Verify` accepts, and whose file is where
`MakeAlbumPath` says. -/
structure Saved (cipher : PathCipher) (service : Service) (root : Text → Node)
    (storageId : StorageId) (fileId : AlbumFileId) : Prop where
  storage : fileId.storageId = storageId
  pad : fileId.pad = .replicate 6 0
  accepted : fileId.verify service.manager.settings = .success
  stored : ∃ text path, makeAlbumPath cipher service.manager.settings fileId = .ok text ∧
    service.fs.resolve text = .ok path ∧
    ∃ content, (root path.mountName).find path.components = some (.file content)

/-- The listing of a storage is complete and without repetition. -/
def ListsSaved (cipher : PathCipher) (service : Service) (root : Text → Node)
    (storageId : StorageId) (outcome : Option (Result × List AlbumEntry)) : Prop :=
  ∃ entries : List AlbumEntry, outcome = some (.success, entries) ∧
    (entries.map (·.fileId)).Nodup ∧
    ∀ fileId, fileId ∈ entries.map (·.fileId) ↔ Saved cipher service root storageId fileId

/-! ## The root is never opened -/

/-- The scan asks for a path with a colon behind the mount name. -/
theorem resolve_root (fs : FileSystem) (storageId : StorageId) :
    ∃ result, fs.resolve (mountPoint storageId ++ ascii ":/") = .error result := by
  have split := Fs.getMountNameAndSubPath_mountPoint storageId (ascii ":/")
  have banned : Fs.getPathForServiceObject (mountName storageId) (ascii "/" ++ ascii ":/") =
      .error Fs.invalidCharacter.result := by
    unfold mountName
    split <;> rfl
  have resolved : fs.resolve (mountPoint storageId ++ ascii ":/") =
      if mountName storageId ∈ fs.names then .error Fs.invalidCharacter.result
      else .error Fs.notMounted.result := by
    rw [FileSystem.resolve, split]
    change (if mountName storageId ∈ fs.names then
      (do
        let components ← Fs.getPathForServiceObject (mountName storageId)
          (ascii "/" ++ ascii ":/")
        pure (FsPath.mk (mountName storageId) components))
      else .error Fs.notMounted.result) = _
    rw [banned]
    rfl
  rw [resolved]
  split
  · exact ⟨_, rfl⟩
  · exact ⟨_, rfl⟩

/-- Nothing is delivered to the callback. -/
theorem processImageDirectory_treeReader {τ : Type} (cipher : PathCipher) (fs : FileSystem)
    (root : Text → Node) (storageId : StorageId) (stack : Nat → Block)
    (albumFileCallback : AlbumEntry → τ → τ × Bool) (outcome : τ) :
    (processImageDirectory cipher (treeReader fs root) storageId stack albumFileCallback
      outcome).2 = outcome := by
  have printed : (PathBuffer.print ⟨[], []⟩ 0 (mountPoint storageId ++ ascii ":/")).text =
      mountPoint storageId ++ ascii ":/" := by
    unfold mountPoint
    split <;> rfl
  rcases resolve_root fs storageId with ⟨result, unresolved⟩
  rw [processImageDirectory_outcome, scanImageDirectory, scanDirectory, printed, treeReader]
  simp only [unresolved]
  rfl

/-- An album that is mounted is listed as empty, whatever is in it. -/
theorem listEntries_mounted (cipher : PathCipher) (service : Service)
    (mirrored : service.MountsMirrored) (storageId : StorageId) (valid : storageValid storageId)
    (mounted : (service.manager.mountStatus storageId).state = .mounted) (fault : Fault)
    (root : Text → Node) (stack : Nat → Block) (maxEntries : UInt64) (contentTypeFlags : UInt8) :
    (listEntries fault cipher (treeReader service.fs root) stack maxEntries storageId
      contentTypeFlags service).1 = some (.success, []) := by
  have status := (mirrored storageId valid).success.mp mounted
  have ensured : ensureMountState fault storageId .mounted service = (some .success, service) := by
    simp [ensureMountState, rTry, verifyStorageId_eq_success_iff.mpr valid, Process.bind_apply,
      mounted, status]
  rw [listEntries, Process.bind_of_eq_some ensured]
  simp only [rTry, Result.isSuccess_success, processImageDirectory_treeReader]
  rfl

/-- A mounted storage is listed correctly exactly when there is nothing to list. -/
theorem listEntries_listsSaved_iff (cipher : PathCipher) (service : Service)
    (mirrored : service.MountsMirrored) (storageId : StorageId) (valid : storageValid storageId)
    (mounted : (service.manager.mountStatus storageId).state = .mounted) (fault : Fault)
    (root : Text → Node) (stack : Nat → Block) (maxEntries : UInt64) (contentTypeFlags : UInt8) :
    ListsSaved cipher service root storageId
        (listEntries fault cipher (treeReader service.fs root) stack maxEntries storageId
          contentTypeFlags service).1 ↔
      ¬ ∃ fileId, Saved cipher service root storageId fileId := by
  rw [listEntries_mounted cipher service mirrored storageId valid mounted]
  constructor
  · rintro ⟨entries, listed, -, complete⟩ ⟨fileId, saved⟩
    cases listed
    exact List.not_mem_nil ((complete fileId).mpr saved)
  · intro nothing
    refine ⟨[], rfl, List.nodup_nil, fun fileId => ?_⟩
    exact iff_of_false List.not_mem_nil fun saved => nothing ⟨fileId, saved⟩

/-! ## A screenshot that is not listed -/

/-- A service with the NAND album mounted. -/
def mountedService : Service :=
  (mountImageDirectory none .nand (.announced fun _ => none)).2

theorem mirrored_mountedService : mountedService.MountsMirrored :=
  (mountImageDirectory_step (mirrored_announced _) none).mirrored (mirrored_announced _)

/-- The tree with the file of the screenshot. -/
def screenshotTree (_mount : Text) : Node :=
  .single (albumFsPath (Equiv.refl Block) savedScreenshot).components [1, 2, 3]

theorem saved_savedScreenshot :
    Saved (Equiv.refl Block) mountedService screenshotTree .nand savedScreenshot where
  storage := rfl
  pad := rfl
  accepted := by decide
  stored := by
    have registered : mountName savedScreenshot.storageId ∈ mountedService.fs.names := by decide
    have resolved := resolve_getAlbumPath (Equiv.refl Block) verified_savedScreenshot
      mountedService.fs
    rw [if_pos registered] at resolved
    exact ⟨_, _, makeAlbumPath_of_verified _ verified_savedScreenshot, resolved, _,
      Node.find_single _ _⟩

theorem listEntries_not_listsSaved_screenshot :
    ¬ (∀ (cipher : PathCipher) (service : Service) (storageId : StorageId) (root : Text → Node)
        (stack : Nat → Block), service.MountsMirrored → storageValid storageId →
      (service.manager.mountStatus storageId).state = .mounted →
      service.manager.settings.screenshotSupport = true →
      service.manager.settings.movieSupport = true →
      (∀ slot, service.manager.writeReserve.reserve slot = none) →
      ListsSaved cipher service root storageId
        (listEntries none cipher (treeReader service.fs root) stack 0x10000 storageId 0x0f
          service).1) := by
  intro always
  have lists := always (Equiv.refl Block) mountedService .nand screenshotTree (fun _ _ => 0)
    mirrored_mountedService (by decide) (by decide) (by decide) (by decide) (by decide)
  rw [listEntries_mounted _ _ mirrored_mountedService _ (by decide) (by decide)] at lists
  rcases lists with ⟨entries, listed, -, complete⟩
  cases listed
  exact List.not_mem_nil ((complete savedScreenshot).mpr saved_savedScreenshot)

/-- An empty album is listed correctly. -/
theorem listEntries_listsSaved_empty :
    ListsSaved (Equiv.refl Block) mountedService (fun _ => .directory []) .nand
      (listEntries none (Equiv.refl Block)
        (treeReader mountedService.fs fun _ => .directory []) (fun _ _ => 0) 0x10000 .nand 0x0f
        mountedService).1 := by
  refine (listEntries_listsSaved_iff (Equiv.refl Block) mountedService mirrored_mountedService
    .nand (by decide) (by decide) none (fun _ => .directory []) (fun _ _ => 0) 0x10000
    0x0f).mpr ?_
  rintro ⟨fileId, saved⟩
  rcases saved.stored with ⟨_, path, _, _, content, found⟩
  cases components : path.components with
  | nil =>
      rw [components] at found
      cases found
  | cons name names =>
      rw [components, Node.find_cons] at found
      cases found

end Capsrv
