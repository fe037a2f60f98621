import Capsrv.AlbumFileSuccess
import Capsrv.ServerInvariant
import Capsrv.SharedPaths

/-! # The files of the albums

What runs of messages do to the album files: no file appears that was on neither
storage, only the paths that messages name are touched, and as long as the clean-up
after a failed copy works, every file is one that was there.
-/

namespace Capsrv

open Server Service Process

/-! ## Requests that leave the files alone -/

theorem mountImageDirectory_files (fault : Fault) (name : Text) (fs : FileSystem) :
    (fs.mountImageDirectory fault name).2.files = fs.files := by
  unfold FileSystem.mountImageDirectory FileSystem.register rTry rUnless
  dsimp only
  repeat' split
  all_goals rfl

theorem unmount_files (name : Text) (fs : FileSystem) :
    (fs.unmount name).2.files = fs.files := by
  unfold FileSystem.unmount rUnless
  dsimp only
  split <;> rfl

theorem preservedByReads_files (files : FileStore FsPath (List UInt8)) :
    PreservedByReads fun service => service.fs.files = files := by
  have tried : ∀ fault storageId,
      Preserves (fun service => service.fs.files = files) (tryMount fault storageId) := by
    intro fault storageId
    apply preserves_tryMount
    · intro service same
      exact (mountImageDirectory_files _ _ _).trans same
    · exact fun _ _ _ same => same
  have left : ∀ state storageId, Preserves (fun service => service.fs.files = files)
      (leaveImageDirectory state storageId) := by
    intro state storageId
    apply preserves_leaveImageDirectory
    · intro name service same
      exact (unmount_files _ _).trans same
    · exact fun _ same => same
  constructor
  · intro request
    cases request with
    | mountImageDirectory fault storageId =>
        exact preserves_mountImageDirectory (tried fault storageId)
    | ensureMountState fault storageId mountState =>
        exact preserves_ensureMountState (tried fault storageId) mountState
    | closeImageDirectory storageId => exact left .unmounted storageId
    | unmountImageDirectory storageId => exact left .available storageId
  · exact fun _ _ same => same

/-! ## What a request does to the files -/

/-- The id whose file a request may change. -/
def FileRequest.targetId : FileRequest → AlbumFileId
  | deleteFile _ fileId => fileId
  | copyFile _ sourceId destination => { sourceId with storageId := destination }

/-- What a copy that fails has written is cleaned up. -/
def FileRequest.CleansUp : FileRequest → Prop
  | deleteFile _ _ => True
  | copyFile faults _ _ => faults.cleanUp = none

theorem FileRequest.target_eq (cipher : PathCipher) (request : FileRequest) :
    request.target cipher = albumFsPath cipher request.targetId := by
  cases request <;> rfl

/-- The ways permitted requests change the files. A file is spoiled by a copy that fails
and cannot be cleaned up. -/
inductive AlbumChange (cipher : PathCipher) (settings : AlbumSettings)
    (permitted : FileRequest → Prop) (files : FileStore FsPath (List UInt8)) :
    FileStore FsPath (List UInt8) → Prop
  | unchanged : AlbumChange cipher settings permitted files files
  | deleted (request : FileRequest) (asked : permitted request)
      (verified : request.targetId.Verified settings) :
      AlbumChange cipher settings permitted files (files.erase (request.target cipher))
  | copied (faults : CopyFaults) (sourceId : AlbumFileId) (destination : StorageId)
      (content : List UInt8) (asked : permitted (.copyFile faults sourceId destination))
      (verified : sourceId.Verified settings) (valid : storageValid destination = true)
      (found : files (albumFsPath cipher sourceId) = some content) :
      AlbumChange cipher settings permitted files
        (files.put (copyTarget cipher sourceId destination) content)
  | spoiled (faults : CopyFaults) (sourceId : AlbumFileId) (destination : StorageId)
      (content left : List UInt8) (asked : permitted (.copyFile faults sourceId destination))
      (failed : faults.cleanUp ≠ none)
      (verified : sourceId.Verified settings) (valid : storageValid destination = true)
      (found : files (albumFsPath cipher sourceId) = some content) :
      AlbumChange cipher settings permitted files
        (files.put (copyTarget cipher sourceId destination) left)

section

variable {cipher : PathCipher} {settings : AlbumSettings} {permitted : FileRequest → Prop}
  {service : Service}

theorem deleteFile_change (mirrored : service.MountsMirrored)
    (configured : service.manager.settings = settings) (faults : DeleteFaults)
    (fileId : AlbumFileId) (asked : permitted (.deleteFile faults fileId)) :
    AlbumChange cipher settings permitted service.fs.files
      (deleteFile cipher faults fileId service).2.fs.files := by
  cases deleteFile_step cipher faults fileId mirrored with
  | refused _ frame _ _ =>
      rw [frame.files]
      exact .unchanged
  | deleted found mounted frame _ equal =>
      rw [equal, ← frame.files]
      change AlbumChange cipher settings permitted mounted.fs.files
        (if _ then mounted.fs.remove (albumFsPath cipher fileId) else mounted.fs).files
      split
      · exact .deleted (.deleteFile faults fileId) asked (configured ▸ found.verified)
      · exact .unchanged

theorem copyFile_change (mirrored : service.MountsMirrored)
    (configured : service.manager.settings = settings) (faults : CopyFaults)
    (sourceId : AlbumFileId) (destination : StorageId)
    (asked : permitted (.copyFile faults sourceId destination)) :
    AlbumChange cipher settings permitted service.fs.files
      (copyFile cipher faults sourceId destination service).2.fs.files := by
  have exactly := copyFile_exact cipher faults sourceId destination service mirrored
  cases copyFile_step cipher faults sourceId destination mirrored with
  | untouched _ frame _ _ =>
      rw [frame.files]
      exact .unchanged
  | spoiled _ content found _ mounted frame _ left touched result _ equal =>
      rcases touched.files with ⟨rest, files⟩
      rw [equal, ← frame.files]
      have source := (congrFun frame.files _).trans found.found
      by_cases clean : faults.cleanUp = none
      · simp only [if_pos clean]
        change AlbumChange cipher settings permitted mounted.fs.files
          (left.files.erase (copyTarget cipher sourceId destination))
        rw [files, FileStore.erase_put]
        exact .deleted (.copyFile faults sourceId destination) asked
          (configured ▸ found.verified.withStorage found.valid)
      · simp only [if_neg clean]
        rw [files]
        exact .spoiled faults sourceId destination content rest asked clean
          (configured ▸ found.verified) found.valid source
  | copied _ content found _ mounted frame _ left touched equal =>
      rcases touched.files with ⟨rest, files⟩
      rcases exactly found.different (by rw [equal]) with ⟨same, copied⟩
      have stored := copied.copied
      rw [equal] at stored
      have initial := copied.source
      rw [found.found] at initial
      cases initial
      change left.files _ = _ at stored
      rw [files, FileStore.put_same] at stored
      cases stored
      rw [equal, ← frame.files]
      change AlbumChange cipher settings permitted mounted.fs.files left.files
      rw [files]
      exact .copied faults sourceId destination _ asked (configured ▸ found.verified) found.valid
        ((congrFun frame.files _).trans found.found)

theorem request_change (mirrored : service.MountsMirrored)
    (configured : service.manager.settings = settings) {request : AlbumRequest}
    (permits : request.FilesPermitted permitted) :
    AlbumChange cipher settings permitted service.fs.files
      (request.perform cipher service).2.fs.files := by
  have reads : ∀ other : AlbumRequest, other.Reads →
      AlbumChange cipher settings permitted service.fs.files
        (other.perform cipher service).2.fs.files := by
    intro other only
    have same := (preservedByReads_files service.fs.files).request cipher only service rfl
    rw [same]
    exact .unchanged
  cases request with
  | deleteFile faults fileId => exact deleteFile_change mirrored configured faults fileId permits
  | copyFile faults sourceId destination =>
      exact copyFile_change mirrored configured faults sourceId destination permits
  | _ => exact reads _ trivial

/-- The targets of requests are the paths of accepted ids. -/
theorem AlbumChange.frame {files next : FileStore FsPath (List UInt8)}
    (change : AlbumChange cipher settings permitted files next) {path : FsPath}
    (spared : ∀ request, permitted request → request.targetId.Verified settings →
      path ≠ request.target cipher) : next path = files path := by
  cases change with
  | unchanged => rfl
  | deleted request asked verified => exact FileStore.erase_of_ne _ (spared request asked verified)
  | copied faults sourceId destination content asked verified valid _ =>
      exact FileStore.put_of_ne _ _ (spared _ asked (verified.withStorage valid))
  | spoiled faults sourceId destination content left asked _ verified valid _ =>
      exact FileStore.put_of_ne _ _ (spared _ asked (verified.withStorage valid))

end

/-! ## Where files come from -/

/-- The same way to a file, on the same or the other storage. -/
structure FsPath.Twin (path other : FsPath) : Prop where
  components : path.components = other.components
  storages : path = other ∨
    (∃ storageId, path.mountName = Capsrv.mountName storageId) ∧
      ∃ storageId, other.mountName = Capsrv.mountName storageId

theorem FsPath.Twin.refl (path : FsPath) : path.Twin path :=
  ⟨rfl, .inl rfl⟩

theorem FsPath.Twin.trans {first second third : FsPath} (near : first.Twin second)
    (far : second.Twin third) : first.Twin third := by
  refine ⟨near.components.trans far.components, ?_⟩
  rcases near.storages with rfl | ⟨album, other⟩
  · exact far.storages
  · rcases far.storages with rfl | ⟨_, last⟩
    · exact .inr ⟨album, other⟩
    · exact .inr ⟨album, last⟩

theorem copyTarget_twin (cipher : PathCipher) (sourceId : AlbumFileId) (destination : StorageId) :
    (copyTarget cipher sourceId destination).Twin (albumFsPath cipher sourceId) where
  components := rfl
  storages := .inr ⟨⟨destination, rfl⟩, sourceId.storageId, rfl⟩

/-- The twins of an album path are those of the id. -/
theorem FsPath.Twin.albumFsPath {cipher : PathCipher} {fileId : AlbumFileId} {other : FsPath}
    (twin : (albumFsPath cipher fileId).Twin other) (valid : storageValid fileId.storageId) :
    ∃ storageId, storageValid storageId = true ∧
      other = Capsrv.albumFsPath cipher { fileId with storageId } := by
  rcases twin.storages with rfl | ⟨-, storageId, name⟩
  · exact ⟨fileId.storageId, valid, rfl⟩
  · rcases other with ⟨otherName, components⟩
    have same := twin.components
    subst same
    by_cases nand : storageId = .nand
    · refine ⟨.nand, by decide, ?_⟩
      rw [nand] at name
      exact congrArg (FsPath.mk · _) name
    · refine ⟨.sd, by decide, ?_⟩
      have sd : Capsrv.mountName storageId = Capsrv.mountName .sd := by
        have different : StorageId.sd ≠ .nand := by decide
        rw [Capsrv.mountName, Capsrv.mountName, if_neg nand, if_neg different]
      rw [sd] at name
      exact congrArg (FsPath.mk · _) name

section

variable {cipher : PathCipher} {settings : AlbumSettings} {permitted : FileRequest → Prop}
  {original files next : FileStore FsPath (List UInt8)}

/-- No file appears that was on neither storage. -/
theorem AlbumChange.keys (change : AlbumChange cipher settings permitted files next)
    (descends : original.DescendsFrom FsPath.Twin (fun _ => ()) files) :
    original.DescendsFrom FsPath.Twin (fun _ => ()) next := by
  cases change with
  | unchanged => exact descends
  | deleted request _ _ => exact descends.erase _
  | copied _ sourceId destination content _ _ _ found =>
      exact descends.put FsPath.Twin.trans found (copyTarget_twin cipher sourceId destination) rfl
  | spoiled _ sourceId destination content left _ _ _ _ found =>
      exact descends.put FsPath.Twin.trans found (copyTarget_twin cipher sourceId destination) rfl

/-- Where cleaning up works, neither does a content. -/
theorem AlbumChange.contents
    (change : AlbumChange cipher settings FileRequest.CleansUp files next)
    (descends : original.DescendsFrom FsPath.Twin id files) :
    original.DescendsFrom FsPath.Twin id next := by
  cases change with
  | unchanged => exact descends
  | deleted request _ _ => exact descends.erase _
  | copied _ sourceId destination content _ _ _ found =>
      exact descends.put FsPath.Twin.trans found (copyTarget_twin cipher sourceId destination) rfl
  | spoiled faults _ _ _ _ clean failed => exact absurd clean failed

end

/-! ## Runs of messages -/

section

variable {environment : Environment} {settings : AlbumSettings} {server : Server}
  {messages : List ServerMessage} {permitted : FileRequest → Prop}

/-- What every change of the files keeps, a run of messages keeps. -/
theorem serverRun_files (property : FileStore FsPath (List UInt8) → Prop)
    (kept : ∀ files next, AlbumChange environment.cipher settings permitted files next →
      property files → property next)
    (holds : ServerInvariant settings server)
    (permits : ∀ message ∈ messages, message.FilesPermitted environment permitted)
    (initially : property server.album.fs.files) :
    property (Process.run (ServerMessage.perform environment) messages
      server).2.album.fs.files := by
  have steps := preservedByFileSteps_albumInvariant settings
  have step : ∀ request : AlbumRequest, request.FilesPermitted permitted →
      Preserves (fun service => AlbumInvariant settings service ∧ property service.fs.files)
        (request.perform environment.cipher) := by
    rintro request permits service ⟨invariant, present⟩
    refine ⟨steps.request environment.cipher request service invariant, ?_⟩
    exact kept _ _ (request_change invariant.mounts.mirrored invariant.settings permits) present
  have follows := (containsCalls_album environment settings permitted).run permits
  exact (follows.preserves step server ⟨holds.album, initially⟩).2

/-- Whatever the messages are and the file system answers: a file of an id at the
end was there for that id on one of the storages at the start, and a file that no
id leads to is what it was. -/
theorem serverRun_addsNothing (environment : Environment) (settings : AlbumSettings)
    (server : Server) (holds : ServerInvariant settings server) (messages : List ServerMessage) :
    let ended := (Process.run (ServerMessage.perform environment) messages server).2
    (∀ fileId : AlbumFileId, fileId.Verified settings →
      (ended.album.fs.files (albumFsPath environment.cipher fileId)).isSome →
      ∃ storageId, storageValid storageId = true ∧
        (server.album.fs.files
          (albumFsPath environment.cipher { fileId with storageId })).isSome) ∧
      ∀ path, (∀ fileId : AlbumFileId, fileId.Verified settings →
        path ≠ albumFsPath environment.cipher fileId) →
        ended.album.fs.files path = server.album.fs.files path := by
  have anything := fun message (_ : message ∈ messages) =>
    message.filesPermitted_true environment
  constructor
  · intro fileId verified found
    have descends := serverRun_files
      (server.album.fs.files.DescendsFrom FsPath.Twin (fun _ => ()))
      (fun _ _ change => change.keys) holds anything
      (FileStore.descendsFrom_refl FsPath.Twin.refl _)
    rcases Option.isSome_iff_exists.mp found with ⟨content, found⟩
    rcases descends _ content found with ⟨source, first, twin, started, -⟩
    rcases twin.albumFsPath verified.storage with ⟨storageId, valid, rfl⟩
    exact ⟨storageId, valid, Option.isSome_of_eq_some started⟩
  · intro path other
    exact serverRun_files (fun files => files path = server.album.fs.files path)
      (fun _ _ change same => (change.frame fun request _ verified => by
        rw [request.target_eq]
        exact other _ verified).trans same) holds anything rfl

/-- At the end of the run the copy is there, and it was there on one of the storages. -/
theorem serverRun_addsNothing_copying :
    let server := Server.around (startedAround savedPair)
    let ended := (Process.run (ServerMessage.perform plainEnvironment)
      (copyingCommands.map ServerCommand.sent) server).2
    (ended.album.fs.files (albumFsPath plainEnvironment.cipher copiedScreenshot)).isSome ∧
      (∃ storageId, storageValid storageId = true ∧
        (server.album.fs.files (albumFsPath plainEnvironment.cipher
          { copiedScreenshot with storageId })).isSome) ∧
      ∀ path, (∀ fileId : AlbumFileId, fileId.Verified .unset →
        path ≠ albumFsPath plainEnvironment.cipher fileId) →
        ended.album.fs.files path = server.album.fs.files path := by
  have copied : ((Process.run (ServerMessage.perform plainEnvironment)
      (copyingCommands.map ServerCommand.sent) (.around (startedAround savedPair))).2.album.fs.files
        (albumFsPath plainEnvironment.cipher copiedScreenshot)).isSome := by decide +kernel
  have adds := serverRun_addsNothing plainEnvironment .unset _
    (serverInvariant_startedAround savedPair) (copyingCommands.map ServerCommand.sent)
  exact ⟨copied, adds.1 copiedScreenshot verified_copiedScreenshot copied, adds.2⟩

theorem exists_at_start {cipher : PathCipher} {original files : FileStore FsPath (List UInt8)}
    (descends : original.DescendsFrom FsPath.Twin id files) {fileId : AlbumFileId}
    (valid : storageValid fileId.storageId) {content : List UInt8}
    (found : files (albumFsPath cipher fileId) = some content) :
    ∃ storageId, storageValid storageId = true ∧
      original (albumFsPath cipher { fileId with storageId }) = some content := by
  rcases descends _ content found with ⟨source, first, twin, started, same⟩
  rcases twin.albumFsPath valid with ⟨storageId, valid, rfl⟩
  refine ⟨storageId, valid, ?_⟩
  rw [started, ← id_eq content, same, id_eq]

/-- As long as the clean-up after a copy works, a file at the end has the bytes
that the file of the id had on one of the storages at the start. -/
theorem serverRun_contents (environment : Environment) (settings : AlbumSettings)
    (server : Server) (holds : ServerInvariant settings server) (messages : List ServerMessage)
    (clean : ∀ message ∈ messages, message.FilesPermitted environment FileRequest.CleansUp)
    (fileId : AlbumFileId) (verified : fileId.Verified settings) (content : List UInt8)
    (found : (Process.run (ServerMessage.perform environment) messages server).2.album.fs.files
      (albumFsPath environment.cipher fileId) = some content) :
    ∃ storageId, storageValid storageId = true ∧ server.album.fs.files
      (albumFsPath environment.cipher { fileId with storageId }) = some content := by
  have descends := serverRun_files (server.album.fs.files.DescendsFrom FsPath.Twin id)
    (fun _ _ change => change.contents) holds clean
    (FileStore.descendsFrom_refl FsPath.Twin.refl _)
  exact exists_at_start descends verified.storage found

theorem serverRun_contents_copying :
    ∃ storageId, storageValid storageId = true ∧
      (Server.around (startedAround savedPair)).album.fs.files
        (albumFsPath plainEnvironment.cipher { copiedScreenshot with storageId }) =
          some [1, 2, 3] := by
  refine serverRun_contents plainEnvironment .unset _ (serverInvariant_startedAround savedPair)
    (copyingCommands.map ServerCommand.sent) ?_ copiedScreenshot verified_copiedScreenshot
    [1, 2, 3] (by decide +kernel)
  exact filesPermitted_copyingCommands rfl trivial

/-- A message asks for a change of the file that the id leads to. -/
def ServerMessage.Names (environment : Environment) (fileId : AlbumFileId)
    (message : ServerMessage) : Prop :=
  ∃ command request, message.dispatch environment = .called (.accessor command) ∧
    command.fileRequest = some request ∧
    request.targetId.SharesPath environment.cipher fileId

/-- A file stays exactly what it was, or missing, as long as no message deletes or
copies to an id of its path. -/
theorem serverRun_sparesUnnamed (environment : Environment) (settings : AlbumSettings)
    (server : Server) (holds : ServerInvariant settings server) (messages : List ServerMessage)
    (fileId : AlbumFileId) (verified : fileId.Verified settings)
    (unnamed : ∀ message ∈ messages, ¬ message.Names environment fileId) :
    (Process.run (ServerMessage.perform environment) messages server).2.album.fs.files
        (albumFsPath environment.cipher fileId) =
      server.album.fs.files (albumFsPath environment.cipher fileId) := by
  let spares (request : FileRequest) : Prop :=
    ¬ request.targetId.SharesPath environment.cipher fileId
  have permits : ∀ message ∈ messages, message.FilesPermitted environment spares :=
    fun message member command request dispatched asks shares =>
      unnamed message member ⟨command, request, dispatched, asks, shares⟩
  apply serverRun_files (fun files => files (albumFsPath environment.cipher fileId) =
    server.album.fs.files (albumFsPath environment.cipher fileId)) _ holds permits rfl
  intro files next change same
  refine (change.frame fun request spared target => ?_).trans same
  rw [request.target_eq]
  intro path
  exact spared (sharesPath_of_eq target verified path.symm)

/-- The second screenshot is on the storage of the first one and shares no path with it. -/
theorem serverRun_sparesUnnamed_copying :
    let server := Server.around (startedAround savedPair)
    let ended := (Process.run (ServerMessage.perform plainEnvironment)
      (copyingCommands.map ServerCommand.sent) server).2
    ended.album.fs.files (albumFsPath plainEnvironment.cipher secondScreenshot) =
        server.album.fs.files (albumFsPath plainEnvironment.cipher secondScreenshot) ∧
      ended.album.fs.files (albumFsPath plainEnvironment.cipher savedScreenshot) = none := by
  have unnamed : ∀ message ∈ copyingCommands.map ServerCommand.sent,
      ¬ message.Names plainEnvironment secondScreenshot := by
    rintro message member ⟨command, request, dispatched, asked, shares⟩
    let others (request : FileRequest) : Prop :=
      request.targetId.dateTime ≠ secondScreenshot.dateTime
    have copy : others (.copyFile .absent savedScreenshot .sd) := by decide
    have deletion : others (.deleteFile ⟨none, none⟩ savedScreenshot) := by decide
    have permits := filesPermitted_copyingCommands copy deletion
    exact permits message member command request dispatched asked shares.dateTime
  exact ⟨serverRun_sparesUnnamed plainEnvironment .unset _
    (serverInvariant_startedAround savedPair) (copyingCommands.map ServerCommand.sent)
    secondScreenshot verified_secondScreenshot unnamed, by decide +kernel⟩

end

end Capsrv
