import Capsrv.AlbumFileSteps
import Capsrv.Foundation.Recording

/-! # Temporary files

`TemporaryFile`: files with random names on the mount `TM`, and their number,
which all of them share.
-/

namespace Capsrv

/-! ## Making a file -/

structure TemporaryFile where
  tmFile : FsPath
  path : Text
deriving DecidableEq

/-- The `snprintf` into `path_buffer`. -/
def temporaryPath (randId : UInt64) : Text :=
  Text.snprintf 0x15 (ascii "TM:/" ++ Text.upperHex 16 randId.toNat)

/-- The name fits with its terminator. -/
theorem temporaryPath_eq (randId : UInt64) :
    temporaryPath randId = ascii "TM:/" ++ Text.upperHex 16 randId.toNat := by
  apply Text.snprintf_eq_self
  rw [List.length_append, Text.length_upperHex]
  decide

/-- What a call of `Make` is answered: the ids and the faults of its attempts
one after the other, and the fault of undoing the last one. -/
structure MakeAnswers where
  randId : Nat → UInt64
  createFile : Nat → Fault
  openFile : Nat → Fault
  deleteFile : Fault

/-- The loop of `Make` from an attempt on. -/
def makeAttempts (answers : MakeAnswers) (fileSize : Int64) :
    (rounds attempt : Nat) → FileSystem → Except Result TemporaryFile × FileSystem
  | 0, _, fs => (.error internalAlbumTemporaryFileCreateRetryCountLimit.result, fs)
  | rounds + 1, attempt, fs =>
      let path := temporaryPath (answers.randId attempt)
      let created := fs.createFile (answers.createFile attempt) path fileSize.toNatClampNeg
      if Fs.pathAlreadyExists.includes created.1 then
        makeAttempts answers fileSize rounds (attempt + 1) created.2
      else
        rTry created.1
          (fun _ => (.error internalAlbumTemporaryFileCreateError.result, created.2)) <|
        match created.2.openFile (answers.openFile attempt) path with
        | .error _ =>
            (.error internalAlbumTemporaryFileCreateRetryCountLimit.result,
              (created.2.deleteFile answers.deleteFile path).2)
        | .ok tmFile => (.ok ⟨tmFile, path⟩, created.2)

/-- The files and the shared `total_count`. -/
structure TemporaryFiles where
  fs : FileSystem
  isQuest : Bool
  totalCount : UInt32

namespace TemporaryFiles

def start (fs : FileSystem) (isQuest : Bool) : TemporaryFiles :=
  ⟨fs, isQuest, 0⟩

/-- `TemporaryFile::Make`. The guard takes the count back. -/
def make (answers : MakeAnswers) (fileSize : Int64) :
    Process TemporaryFiles (Except Result TemporaryFile) := fun files =>
  if files.isQuest then (some (.error albumIsFull.result), files)
  else
    let totalCount := files.totalCount + 1
    rUnless (totalCount < 0x20)
      (some (.error internalAlbumTemporaryFileCountLimit.result),
        { files with totalCount := totalCount - 1 })
    (match makeAttempts answers fileSize 0x100 0 files.fs with
    | (.error result, fs) => (some (.error result), { files with fs, totalCount := totalCount - 1 })
    | (.ok file, fs) => (some (.ok file), { files with fs, totalCount }))

structure DeleteAnswers where
  flushFile : Fault
  deleteFile : Fault

/-- `TemporaryFile::Delete`. -/
def delete (answers : DeleteAnswers) (file : TemporaryFile) : Process TemporaryFiles Unit :=
  fun files =>
    let flushed := files.fs.flushFile answers.flushFile file.tmFile
    let deleted := flushed.2.deleteFile answers.deleteFile file.path
    (if 0 < files.totalCount then some () else none,
      { files with fs := deleted.2, totalCount := files.totalCount - 1 })

end TemporaryFiles

/-! ## Requests and their history -/

inductive TemporaryRequest where
  | make (answers : MakeAnswers) (fileSize : Int64)
  | delete (answers : TemporaryFiles.DeleteAnswers) (file : TemporaryFile)

inductive TemporaryReply where
  | made (outcome : Except Result TemporaryFile)
  | deleted

/-- What a caller has asked and been answered. -/
abbrev TemporaryHistory := List (TemporaryRequest × TemporaryReply)

namespace TemporaryHistory

/-- A file that has been made is live until it is deleted. -/
def follow (live : List TemporaryFile) : TemporaryRequest × TemporaryReply → List TemporaryFile
  | (.make _ _, .made (.ok file)) => live ++ [file]
  | (.delete _ file, _) => live.erase file
  | _ => live

/-- The files that a history has made and not deleted. -/
def live (history : TemporaryHistory) : List TemporaryFile :=
  history.foldl follow []

theorem live_snoc (history : TemporaryHistory) (event : TemporaryRequest × TemporaryReply) :
    live (history ++ [event]) = follow history.live event := by
  rw [live, List.foldl_append]
  rfl

end TemporaryHistory

namespace TemporaryRequest

def perform : TemporaryRequest → Process TemporaryFiles TemporaryReply
  | make answers fileSize => do
      let outcome ← TemporaryFiles.make answers fileSize
      pure (.made outcome)
  | delete answers file => do
      TemporaryFiles.delete answers file
      pure .deleted

/-- The request, and its reply in the history. -/
def followed (request : TemporaryRequest) :
    Process (Recorded TemporaryFiles (TemporaryRequest × TemporaryReply)) Unit := do
  let reply ← Recorded.lift request.perform
  Recorded.record [(request, reply)]

/-- Deleting a file works, and `Delete` is called on live files only. -/
def Admissible (recorded : Recorded TemporaryFiles (TemporaryRequest × TemporaryReply)) :
    TemporaryRequest → Prop
  | make answers _ => answers.deleteFile = none
  | delete answers file =>
      answers.deleteFile = none ∧ file ∈ TemporaryHistory.live recorded.events

end TemporaryRequest

/-! ## What the loop does -/

section

variable {answers : MakeAnswers} {fs : FileSystem} {fileSize : Int64}

/-- A new file: it has a random name that resolves to it, it was not there, and now
it is. -/
structure Made (fs : FileSystem) (file : TemporaryFile) (next : FileSystem) : Prop where
  named : ∃ randId, file.path = temporaryPath randId
  resolved : fs.resolve file.path = .ok file.tmFile
  absent : fs.files file.tmFile = none
  names : next.names = fs.names
  files : ∃ content, next.files = fs.files.put file.tmFile content

/-- The ends of the loop: it fails and leaves the files as they were, or it
makes one file. -/
inductive MakeStep (fs : FileSystem) : Except Result TemporaryFile × FileSystem → Prop
  | failed (result : Result) (next : FileSystem) (failure : result ≠ .success)
      (names : next.names = fs.names) (files : next.files = fs.files) :
      MakeStep fs (.error result, next)
  | made (file : TemporaryFile) (next : FileSystem) (made : Made fs file next) :
      MakeStep fs (.ok file, next)

/-- A file that has been created is opened, or deleted again. -/
theorem openCreated_step {path : Text} {file : FsPath} (deletes : answers.deleteFile = none)
    (named : ∃ randId, path = temporaryPath randId) (resolved : fs.resolve path = .ok file)
    (absent : fs.files file = none) (attempt : Nat) (content : List UInt8) :
    MakeStep fs
      (match (fs.store file content).openFile (answers.openFile attempt) path with
      | .error _ =>
          (.error internalAlbumTemporaryFileCreateRetryCountLimit.result,
            ((fs.store file content).deleteFile answers.deleteFile path).2)
      | .ok tmFile => (.ok ⟨tmFile, path⟩, fs.store file content)) := by
  have stored : (fs.store file content).resolve path = .ok file := by
    rw [FileSystem.resolve_congr (FileSystem.store_names file content), resolved]
  have found : ((fs.store file content).files file).isSome := by
    rw [FileSystem.store_files, FileStore.put_same]
    rfl
  rw [FileSystem.openFile_of_resolve stored, if_pos found]
  by_cases opened : answers.openFile attempt = none
  · rw [if_pos opened]
    exact .made ⟨file, path⟩ _ ⟨named, resolved, absent, rfl, content, rfl⟩
  · rw [if_neg opened]
    refine .failed _ _ (by decide) ?_ ?_
    · rw [FileSystem.deleteFile_of_resolve stored, if_pos ⟨deletes, found⟩]
      rfl
    · rw [FileSystem.deleteFile_of_resolve stored, if_pos ⟨deletes, found⟩,
        FileSystem.remove_files, FileSystem.store_files, FileStore.erase_put,
        FileStore.erase_of_absent absent]

/-- A path that is not resolved keeps the file system as it is. -/
theorem createFile_of_unresolved {path : Text} {result : Result}
    (unresolved : fs.resolve path = .error result) (fault : Fault) (size : Nat) :
    fs.createFile fault path size = (result, fs) := by
  simp only [FileSystem.createFile, unresolved]

theorem deleteFile_of_unresolved {path : Text} {result : Result}
    (unresolved : fs.resolve path = .error result) (fault : Fault) :
    fs.deleteFile fault path = (result, fs) := by
  simp only [FileSystem.deleteFile, unresolved]

theorem makeAttempts_step (deletes : answers.deleteFile = none) (rounds attempt : Nat) :
    MakeStep fs (makeAttempts answers fileSize rounds attempt fs) := by
  have retryLimit : internalAlbumTemporaryFileCreateRetryCountLimit.result ≠ .success := by decide
  have createError : internalAlbumTemporaryFileCreateError.result ≠ .success := by decide
  induction rounds generalizing attempt with
  | zero => exact .failed _ fs retryLimit rfl rfl
  | succ rounds induction =>
      rw [makeAttempts]
      cases resolved : fs.resolve (temporaryPath (answers.randId attempt)) with
      | error result =>
          simp only [createFile_of_unresolved resolved, deleteFile_of_unresolved resolved,
            FileSystem.openFile_of_error resolved, rTry]
          split
          · exact induction (attempt + 1)
          · split
            · exact .failed _ fs retryLimit rfl rfl
            · exact .failed _ fs createError rfl rfl
      | ok file =>
          rw [FileSystem.createFile_of_resolve resolved]
          cases fault : answers.createFile attempt with
          | some failure =>
              have failed : failure.result.isSuccess = false := by simpa using failure.failed
              simp only [reduceCtorEq, if_false, Fault.result, rTry, failed]
              split
              · exact induction (attempt + 1)
              · exact .failed _ fs createError rfl rfl
          | none =>
              by_cases absent : fs.files file = none
              · have created : Fs.pathAlreadyExists.includes .success = false := by decide
                simp only [if_true, absent, created, Bool.false_eq_true, if_false, rTry,
                  Result.isSuccess_success]
                exact openCreated_step deletes ⟨_, rfl⟩ resolved absent attempt _
              · have again : Fs.pathAlreadyExists.includes Fs.pathAlreadyExists.result = true := by
                  decide
                simp only [if_true, absent, if_false, again]
                exact induction (attempt + 1)

end

/-! ## The invariant -/

namespace TemporaryFiles

/-- The count is that of the live files, each of them is a file of its own that was
not there at the start, and beside them nothing has changed. -/
structure CountsLive (before : FileSystem) (live : List TemporaryFile) (files : TemporaryFiles) :
    Prop where
  counted : files.totalCount.toNat = live.length
  few : live.length ≤ 31
  named : ∀ file ∈ live, ∃ randId, file.path = temporaryPath randId
  found : ∀ file ∈ live, files.fs.resolve file.path = .ok file.tmFile ∧
    (files.fs.files file.tmFile).isSome
  new : ∀ file ∈ live, before.files file.tmFile = none
  distinct : (live.map (·.tmFile)).Nodup
  others : ∀ path, path ∉ live.map (·.tmFile) → files.fs.files path = before.files path

theorem countsLive_start (fs : FileSystem) (isQuest : Bool) :
    CountsLive fs [] (start fs isQuest) where
  counted := rfl
  few := Nat.zero_le 31
  named _ member := by cases member
  found _ member := by cases member
  new _ member := by cases member
  distinct := List.nodup_nil
  others _ _ := rfl

section

variable {before : FileSystem} {live : List TemporaryFile} {files : TemporaryFiles}

/-- Two live files do not have the same path. -/
theorem CountsLive.paths_nodup (counts : CountsLive before live files) :
    (live.map (·.path)).Nodup := by
  refine List.Nodup.map_on ?_ (counts.distinct.of_map _)
  intro file member other otherMember same
  have resolved := (counts.found file member).1
  rw [same, (counts.found other otherMember).1] at resolved
  exact List.inj_on_of_nodup_map counts.distinct member otherMember (Except.ok.inj resolved).symm

/-! ## Making -/

/-- A failed `make` changes neither the count nor the files; a successful one
counts the file it has made. -/
inductive MakeOutcome (files : TemporaryFiles) :
    Option (Except Result TemporaryFile) × TemporaryFiles → Prop
  | failed (result : Result) (fs : FileSystem) (failure : result ≠ .success)
      (names : fs.names = files.fs.names) (unchanged : fs.files = files.fs.files) :
      MakeOutcome files (some (.error result), { files with fs })
  | made (file : TemporaryFile) (fs : FileSystem) (made : Made files.fs file fs)
      (room : files.totalCount + 1 < 0x20) :
      MakeOutcome files (some (.ok file), { files with fs, totalCount := files.totalCount + 1 })

theorem make_outcome {answers : MakeAnswers} (deletes : answers.deleteFile = none)
    (fileSize : Int64) : MakeOutcome files (make answers fileSize files) := by
  have full : albumIsFull.result ≠ .success := by decide
  have limit : internalAlbumTemporaryFileCountLimit.result ≠ .success := by decide
  have back : files.totalCount + 1 - 1 = files.totalCount := UInt32.add_sub_cancel _ _
  unfold make rUnless
  by_cases quest : files.isQuest
  · rw [if_pos quest]
    exact .failed _ files.fs full rfl rfl
  · rw [if_neg quest]
    by_cases room : files.totalCount + 1 < 0x20
    · simp only [if_pos room, back]
      have step : MakeStep files.fs (makeAttempts answers fileSize 0x100 0 files.fs) :=
        makeAttempts_step deletes 0x100 0
      revert step
      generalize makeAttempts answers fileSize 0x100 0 files.fs = attempts
      intro step
      cases step with
      | failed result fs failure names unchanged => exact .failed result fs failure names unchanged
      | made file fs made => exact .made file fs made room
    · simp only [if_neg room, back]
      exact .failed _ files.fs limit rfl rfl

theorem CountsLive.failed (counts : CountsLive before live files) {fs : FileSystem}
    (names : fs.names = files.fs.names) (unchanged : fs.files = files.fs.files) :
    CountsLive before live { files with fs } := by
  refine ⟨counts.counted, counts.few, counts.named, fun file member => ?_, counts.new,
    counts.distinct, ?_⟩
  · rcases counts.found file member with ⟨resolved, found⟩
    rw [FileSystem.resolve_congr names, unchanged]
    exact ⟨resolved, found⟩
  · rw [unchanged]
    exact counts.others

theorem CountsLive.made (counts : CountsLive before live files) {file : TemporaryFile}
    {fs : FileSystem} (made : Made files.fs file fs) (room : files.totalCount + 1 < 0x20) :
    CountsLive before (live ++ [file])
      { files with fs, totalCount := files.totalCount + 1 } := by
  rcases made with ⟨named, resolved, absent, names, content, stored⟩
  have different : ∀ other ∈ live, other.tmFile ≠ file.tmFile := by
    intro other member same
    have found := (counts.found other member).2
    rw [same, absent] at found
    cases found
  have small : (files.totalCount + 1).toNat < 0x20 := UInt32.lt_iff_toNat_lt.mp room
  have bound := counts.few
  have next : (files.totalCount + 1).toNat = files.totalCount.toNat + 1 := by
    have counted := counts.counted
    rw [UInt32.toNat_add, UInt32.toNat_one]
    omega
  have fresh : file.tmFile ∉ live.map (·.tmFile) := by
    intro member
    rcases List.mem_map.mp member with ⟨other, otherMember, same⟩
    exact different other otherMember same
  constructor
  case counted => rw [next, counts.counted, List.length_append, List.length_singleton]
  case few =>
    rw [List.length_append, List.length_singleton, ← counts.counted]
    omega
  case named =>
    exact List.forall_mem_append.mpr ⟨counts.named, List.forall_mem_singleton.mpr named⟩
  case found =>
    rw [stored, List.forall_mem_append, List.forall_mem_singleton, FileStore.put_same,
      FileSystem.resolve_congr names]
    refine ⟨fun other member => ?_, resolved, rfl⟩
    rw [FileSystem.resolve_congr names, FileStore.put_of_ne _ _ (different other member)]
    exact counts.found other member
  case new =>
    rw [List.forall_mem_append, List.forall_mem_singleton, ← counts.others _ fresh]
    exact ⟨counts.new, absent⟩
  case distinct =>
    rw [List.map_append, List.map_singleton]
    apply List.Nodup.append counts.distinct (List.nodup_singleton _)
    intro tmFile earlier last
    rw [List.mem_singleton.mp last] at earlier
    exact fresh earlier
  case others =>
    intro path unnamed
    rw [List.map_append, List.map_singleton, List.mem_append, List.mem_singleton, not_or] at unnamed
    rw [stored, FileStore.put_of_ne _ _ unnamed.2]
    exact counts.others path unnamed.1

/-! ## Deleting -/

/-- What deleting a live file leaves. -/
theorem delete_eq (counts : CountsLive before live files) {file : TemporaryFile}
    (member : file ∈ live) {answers : DeleteAnswers} (deletes : answers.deleteFile = none) :
    delete answers file files = (some (),
      { files with
        fs := files.fs.remove file.tmFile
        totalCount := files.totalCount - 1 }) := by
  rcases counts.found file member with ⟨resolved, found⟩
  have positive : 0 < files.totalCount := by
    have counted := counts.counted
    have length := List.length_pos_of_mem member
    exact UInt32.lt_iff_toNat_lt.mpr (by rw [counted]; exact length)
  unfold delete
  simp only [FileSystem.flushFile, if_pos positive,
    FileSystem.deleteFile_of_resolve resolved, deletes, found, and_self, if_true]

theorem CountsLive.deleted (counts : CountsLive before live files) {file : TemporaryFile}
    (member : file ∈ live) :
    CountsLive before (live.erase file)
      { files with
        fs := files.fs.remove file.tmFile
        totalCount := files.totalCount - 1 } := by
  have length := List.length_erase_of_mem member
  have positive := List.length_pos_of_mem member
  have counted := counts.counted
  have few := counts.few
  have nodup : live.Nodup := counts.distinct.of_map _
  constructor
  case counted =>
    have below : (1 : UInt32) ≤ files.totalCount := UInt32.le_iff_toNat_le.mpr (by
      rw [UInt32.toNat_one]
      omega)
    rw [UInt32.toNat_sub_of_le _ _ below, UInt32.toNat_one, length, counted]
  case few =>
    rw [length]
    omega
  case named => exact fun other kept => counts.named other (List.mem_of_mem_erase kept)
  case found =>
    intro other kept
    rcases nodup.mem_erase_iff.mp kept with ⟨different, inLive⟩
    rcases counts.found other inLive with ⟨resolved, found⟩
    have distinct : other.tmFile ≠ file.tmFile := fun same =>
      different (List.inj_on_of_nodup_map counts.distinct inLive member same)
    rw [FileSystem.remove_files, FileStore.erase_of_ne _ distinct]
    exact ⟨resolved, found⟩
  case new => exact fun other kept => counts.new other (List.mem_of_mem_erase kept)
  case distinct => exact counts.distinct.sublist (List.erase_sublist.map _)
  case others =>
    intro path unnamed
    rw [FileSystem.remove_files]
    by_cases same : path = file.tmFile
    · rw [same, FileStore.erase_same, counts.new file member]
    · rw [FileStore.erase_of_ne _ same]
      apply counts.others
      intro named
      rcases List.mem_map.mp named with ⟨other, otherMember, rfl⟩
      have kept : other ∈ live.erase file :=
        (List.mem_erase_of_ne fun equal => same (by rw [equal])).mpr otherMember
      exact unnamed (List.mem_map.mpr ⟨other, kept, rfl⟩)

end

/-! ## Runs -/

/-- Every admissible request returns and keeps the count. -/
theorem followed_countsLive {before : FileSystem}
    (recorded : Recorded TemporaryFiles (TemporaryRequest × TemporaryReply))
    (request : TemporaryRequest)
    (counts : CountsLive before (TemporaryHistory.live recorded.events) recorded.state)
    (admissible : request.Admissible recorded) :
    (request.followed recorded).1.isSome ∧
      CountsLive before (TemporaryHistory.live (request.followed recorded).2.events)
        (request.followed recorded).2.state := by
  cases request with
  | make answers fileSize =>
      have outcome : MakeOutcome recorded.state (make answers fileSize recorded.state) :=
        make_outcome admissible fileSize
      cases made : make answers fileSize recorded.state with
      | mk value next =>
      rw [made] at outcome
      cases outcome with
      | failed result fs failure names unchanged =>
          have performed : (TemporaryRequest.make answers fileSize).perform recorded.state =
              (some (.made (.error result)), { recorded.state with fs }) :=
            Process.bind_of_eq_some made _
          simp only [TemporaryRequest.followed, Process.bind_apply, Recorded.lift, performed,
            Recorded.record, Process.modify_apply, TemporaryHistory.live_snoc]
          exact ⟨rfl, counts.failed names unchanged⟩
      | made file fs new room =>
          have performed : (TemporaryRequest.make answers fileSize).perform recorded.state =
              (some (.made (.ok file)),
                { recorded.state with fs, totalCount := recorded.state.totalCount + 1 }) :=
            Process.bind_of_eq_some made _
          simp only [TemporaryRequest.followed, Process.bind_apply, Recorded.lift, performed,
            Recorded.record, Process.modify_apply, TemporaryHistory.live_snoc]
          exact ⟨rfl, counts.made new room⟩
  | delete answers file =>
      rcases admissible with ⟨deletes, member⟩
      have performed : (TemporaryRequest.delete answers file).perform recorded.state =
          (some .deleted, _) :=
        Process.bind_of_eq_some (delete_eq counts member deletes) _
      simp only [TemporaryRequest.followed, Process.bind_apply, Recorded.lift, performed,
        Recorded.record, Process.modify_apply, TemporaryHistory.live_snoc]
      exact ⟨rfl, counts.deleted member⟩

/-- What the count and the files are like after a run of `Make` and `Delete`, beside
the files that its history leaves live. -/
structure AccountedFor (before : FileSystem)
    (outcome : Option Unit × Recorded TemporaryFiles (TemporaryRequest × TemporaryReply)) :
    Prop where
  returned : outcome.1 = some ()
  counted : outcome.2.state.totalCount.toNat = (TemporaryHistory.live outcome.2.events).length
  few : outcome.2.state.totalCount.toNat ≤ 31
  paths : ((TemporaryHistory.live outcome.2.events).map (·.path)).Nodup
  named : ∀ file ∈ TemporaryHistory.live outcome.2.events, ∃ randId : UInt64,
    file.path = ascii "TM:/" ++ Text.upperHex 16 randId.toNat
  present : ∀ file ∈ TemporaryHistory.live outcome.2.events,
    before.files file.tmFile = none ∧
      outcome.2.state.fs.resolve file.path = .ok file.tmFile ∧
      (outcome.2.state.fs.files file.tmFile).isSome
  others : ∀ path, (∀ file ∈ TemporaryHistory.live outcome.2.events, file.tmFile ≠ path) →
    outcome.2.state.fs.files path = before.files path
  failed : ∀ (answers : MakeAnswers) (fileSize : Int64) (result : Result),
    answers.deleteFile = none →
    (make answers fileSize outcome.2.state).1 = some (.error result) →
    (make answers fileSize outcome.2.state).2.totalCount = outcome.2.state.totalCount ∧
      (make answers fileSize outcome.2.state).2.fs.files = outcome.2.state.fs.files

theorem temporaryFiles_accountedFor (fs : FileSystem) (isQuest : Bool)
    (requests : List TemporaryRequest)
    (admissible : Process.Meets TemporaryRequest.followed
      (fun recorded request => request.Admissible recorded) requests ⟨start fs isQuest, []⟩) :
    AccountedFor fs
      (Process.run TemporaryRequest.followed requests ⟨start fs isQuest, []⟩) := by
  let invariant := fun recorded : Recorded TemporaryFiles (TemporaryRequest × TemporaryReply) =>
    CountsLive fs (TemporaryHistory.live recorded.events) recorded.state
  have begun : invariant ⟨start fs isQuest, []⟩ := countsLive_start fs isQuest
  have step : ∀ recorded request, invariant recorded → request.Admissible recorded →
      (TemporaryRequest.followed request recorded).1.isSome ∧
        invariant (TemporaryRequest.followed request recorded).2 := followed_countsLive
  have returned := Process.run_returns_of_meets step begun admissible
  have counts := Process.run_of_meets
    (fun recorded request counts admissible => (step recorded request counts admissible).2)
    begun admissible
  simp only [invariant] at counts
  constructor
  case returned => exact returned
  case counted => exact counts.counted
  case few =>
    rw [counts.counted]
    exact counts.few
  case paths => exact counts.paths_nodup
  case named =>
    intro file member
    rcases counts.named file member with ⟨randId, named⟩
    exact ⟨randId, named.trans (temporaryPath_eq randId)⟩
  case present =>
    intro file member
    exact ⟨counts.new file member, counts.found file member⟩
  case others =>
    intro path unnamed
    apply counts.others
    intro member
    rcases List.mem_map.mp member with ⟨file, inLive, same⟩
    exact unnamed file inLive same
  case failed =>
    intro answers fileSize result deletes failed
    generalize (Process.run TemporaryRequest.followed requests ⟨start fs isQuest, []⟩).2.state =
      files at failed ⊢
    have outcome : MakeOutcome files (make answers fileSize files) :=
      make_outcome deletes fileSize
    revert failed outcome
    generalize make answers fileSize files = made
    intro failed outcome
    cases outcome with
    | failed _ _ _ _ unchanged => exact ⟨rfl, unchanged⟩
    | made => cases failed

/-! ### Two files, one of them deleted -/

/-- The ids 1, 2, 3 and so on, and no fault. -/
def countingAnswers : MakeAnswers :=
  ⟨fun attempt => attempt.toUInt64 + 1, fun _ => none, fun _ => none, none⟩

def firstFile : TemporaryFile :=
  ⟨⟨ascii "TM", [Text.upperHex 16 1]⟩, temporaryPath 1⟩

/-- An empty save data file system. -/
def mountedTm : FileSystem :=
  ⟨{ascii "TM"}, [], fun _ => none, []⟩

theorem temporaryFiles_accountedFor_two :
    AccountedFor mountedTm (Process.run TemporaryRequest.followed
      [.make countingAnswers 8, .make countingAnswers 8, .delete ⟨none, none⟩ firstFile]
      ⟨start mountedTm false, []⟩) :=
  temporaryFiles_accountedFor mountedTm false
    [.make countingAnswers 8, .make countingAnswers 8, .delete ⟨none, none⟩ firstFile]
    ⟨rfl, fun _ => ⟨rfl, fun _ => ⟨⟨rfl, by decide +kernel⟩, fun _ => trivial⟩⟩⟩

end TemporaryFiles

end Capsrv
