import Capsrv.AlbumFileSteps

/-! # What deleting and copying leave alone

A failed copy leaves every file as it was unless it was copying over one, and a
reserved file is left alone unless its path is the one a request changes.
-/

namespace Capsrv

open Service

/-! ## Failed copies -/

/-- The checks of a copy have passed, its destination is an existing file that
is opened and resized, and a chunk meets a fault. -/
def CopyBreaksOff (cipher : PathCipher) (service : Service) (faults : CopyFaults)
    (sourceId : AlbumFileId) (destination : StorageId) : Prop :=
  ∃ content, CopyAdmitted cipher service faults sourceId destination content ∧
    Resizes service.isQuest faults.toCreateFaults (copyTarget cipher sourceId destination)
      service.fs.files ∧
    ¬ faults.Clear service.manager.workMemorySize content.length

/-- A failed copy has changed no file and no count, provided that its clean-up
works and that it has not broken off while overwriting. -/
theorem copyFile_failure_unchanged_iff (cipher : PathCipher) (faults : CopyFaults)
    (sourceId : AlbumFileId) (destination : StorageId) (service : Service)
    (mirrored : service.MountsMirrored) (cleanUp : faults.cleanUp = none) :
    let outcome := copyFile cipher faults sourceId destination service
    ((∃ result, result ≠ .success ∧ outcome.1 = some result) →
        outcome.2.fs.files = service.fs.files ∧
          outcome.2.manager.cache = service.manager.cache) ↔
      ¬ CopyBreaksOff cipher service faults sourceId destination := by
  intro outcome
  have step : CopyStep cipher service faults sourceId destination outcome :=
    copyFile_step cipher faults sourceId destination mirrored
  cases step with
  | untouched reason frame =>
      refine iff_of_true (fun _ => ⟨frame.files, frame.cache⟩) ?_
      rintro ⟨content, admitted, resizes, -⟩
      exact reason ⟨⟨content, admitted⟩, .inr resizes⟩
  | spoiled mutates content admitted incomplete mounted frame _ left touched result failed equal =>
      rcases touched.files with ⟨written, files⟩
      have erased : outcome.2.fs.files =
          service.fs.files.erase (copyTarget cipher sourceId destination) := by
        simp only [equal, if_pos cleanUp, FileSystem.remove_files, files, FileStore.erase_put,
          frame.files]
      have cache : outcome.2.manager.cache = service.manager.cache := by
        rw [equal]
        exact frame.cache
      rcases mutates.2 with creates | resizes
      · -- a new file is gone again
        have same := FileStore.erase_of_absent creates.absent
        refine iff_of_true (fun _ => ⟨erased.trans same, cache⟩) ?_
        rintro ⟨_, _, resizes, -⟩
        exact not_resizes_of_creates creates resizes
      · -- the file that was there is gone
        refine iff_of_false (fun unchanged => ?_) (not_not.mpr ?_)
        · have kept := (unchanged ⟨result, failed, by rw [equal]⟩).1
          have found := resizes.found
          rw [← kept, erased, FileStore.erase_same] at found
          cases found
        · exact ⟨content, admitted, resizes,
            fun clear => incomplete ⟨resizes.opened, clear⟩⟩
  | copied mutates content admitted complete mounted frame _ left touched equal =>
      refine iff_of_true ?_ ?_
      · rintro ⟨result, failed, reported⟩
        rw [equal] at reported
        exact absurd (Option.some.inj reported).symm failed
      · rintro ⟨other, otherAdmitted, -, unclear⟩
        rw [admitted.unique otherAdmitted] at unclear
        exact unclear complete.2

/-- A file system that answers every call of a copy. -/
def CopyFaults.absent : CopyFaults where
  ensureParent := none
  createFile := none
  openFile := none
  setFileSize := none
  cleanUp := none
  mountSource := none
  mountDestination := none
  openSource := none
  getFileSize := none
  readFile _ := none
  writeFile _ := none
  flushFile := none

/-- The first chunk cannot be read. -/
def CopyFaults.unreadable : CopyFaults :=
  { CopyFaults.absent with readFile := fun _ => some ⟨Fs.notMounted.result, by decide⟩ }

/-- The screenshot is on both storages, with different contents. -/
def savedTwice : FileStore FsPath (List UInt8) := fun path =>
  if path = albumFsPath (Equiv.refl Block) savedScreenshot then some [1, 2, 3]
  else if path = copyTarget (Equiv.refl Block) savedScreenshot .sd then some [9]
  else none

/-- Copying over the second with the first unreadable deletes the second. -/
theorem copyFile_failure_changes_savedTwice :
    ¬ (∀ (cipher : PathCipher) (faults : CopyFaults) (sourceId : AlbumFileId)
        (destination : StorageId) (service : Service), service.MountsMirrored →
      faults.cleanUp = none →
      let outcome := copyFile cipher faults sourceId destination service
      (∃ result, result ≠ .success ∧ outcome.1 = some result) →
        outcome.2.fs.files = service.fs.files ∧
          outcome.2.manager.cache = service.manager.cache) := by
  intro always
  obtain ⟨files, _⟩ := always (Equiv.refl Block) .unreadable savedScreenshot .sd
    (.announced savedTwice) (mirrored_announced _) rfl
    ⟨Fs.notMounted.result, by decide, by decide +kernel⟩
  have kept := congrFun files (copyTarget (Equiv.refl Block) savedScreenshot .sd)
  revert kept
  decide +kernel

/-- With the first alone, the same failure leaves everything as it was. -/
theorem copyFile_failure_unchanged_savedOnce :
    let service := Service.announced fun path =>
      if path = albumFsPath (Equiv.refl Block) savedScreenshot then some [1, 2, 3] else none
    let outcome := copyFile (Equiv.refl Block) .unreadable savedScreenshot .sd service
    outcome.1 = some Fs.notMounted.result ∧ outcome.2.fs.files = service.fs.files := by
  refine ⟨by decide +kernel, ?_⟩
  refine ((copyFile_failure_unchanged_iff (Equiv.refl Block) .unreadable savedScreenshot .sd _
    (mirrored_announced _) rfl).mpr ?_ ⟨Fs.notMounted.result, by decide, by decide +kernel⟩).1
  rintro ⟨_, _, resizes, _⟩
  exact absurd resizes.found (by decide +kernel)

/-! ## Reserved files -/

/-- An id in one of the two tables. -/
def AlbumManager.Reserved (manager : AlbumManager) (fileId : AlbumFileId) : Prop :=
  manager.readReserve.isReserved fileId = true ∨ manager.writeReserve.isReserved fileId = true

/-- The paths a request has created, resized, written or deleted. -/
def FileRequest.mutations (cipher : PathCipher) (service : Service) (request : FileRequest) :
    List FsPath :=
  (request.perform cipher service).2.fs.mutations.drop service.fs.mutations.length

/-- A request changes its target or nothing. -/
theorem FileRequest.mutations_eq (cipher : PathCipher) {service : Service}
    (mirrored : service.MountsMirrored) (request : FileRequest) :
    ∃ count, request.mutations cipher service = List.replicate count (request.target cipher) ∧
      (count ≠ 0 ↔ request.Mutates cipher service) := by
  have recorded : ∀ count, (request.perform cipher service).2.fs.mutations =
      service.fs.mutations ++ List.replicate count (request.target cipher) →
      request.mutations cipher service = List.replicate count (request.target cipher) := by
    intro count equal
    rw [mutations, equal, List.drop_left]
  cases request with
  | deleteFile faults fileId =>
      have step := deleteFile_step cipher faults fileId mirrored
      cases step with
      | refused reason frame =>
          refine ⟨0, recorded 0 ?_, iff_of_false (by simp) fun mutates => reason mutates.1⟩
          simpa [perform] using frame.mutations
      | deleted admitted mounted frame _ equal =>
          have files := frame.files
          by_cases removes : faults.deleteFile = none ∧
              (service.fs.files (albumFsPath cipher fileId)).isSome
          · refine ⟨1, recorded 1 ?_, iff_of_true (by simp) ⟨admitted, removes⟩⟩
            rw [perform, equal, Service.deleted, files, if_pos removes]
            exact congrArg (· ++ [albumFsPath cipher fileId]) frame.mutations
          · refine ⟨0, recorded 0 ?_, iff_of_false (by simp) fun mutates => removes mutates.2⟩
            rw [perform, equal, Service.deleted, files, if_neg removes]
            simpa using frame.mutations
  | copyFile faults sourceId destination =>
      have step := copyFile_step cipher faults sourceId destination mirrored
      cases step with
      | untouched reason frame =>
          refine ⟨0, recorded 0 ?_, iff_of_false (by simp) reason⟩
          simpa [perform] using frame.mutations
      | spoiled mutates _ _ _ mounted frame _ left touched _ _ equal =>
          rcases touched.mutations with ⟨count, changed⟩
          rw [frame.mutations] at changed
          by_cases cleanUp : faults.cleanUp = none
          · refine ⟨count + 2, recorded (count + 2) ?_, iff_of_true (by simp) mutates⟩
            simp only [perform, equal, if_pos cleanUp]
            rw [List.replicate_succ', ← List.append_assoc]
            exact congrArg (· ++ [copyTarget cipher sourceId destination]) changed
          · refine ⟨count + 1, recorded (count + 1) ?_, iff_of_true (by simp) mutates⟩
            simp only [perform, equal, if_neg cleanUp]
            exact changed
      | copied mutates _ _ _ mounted frame _ left touched equal =>
          rcases touched.mutations with ⟨count, changed⟩
          rw [frame.mutations] at changed
          refine ⟨count + 1, recorded (count + 1) ?_, iff_of_true (by simp) mutates⟩
          rw [perform, equal]
          exact changed

/-- Every reserved file is left alone, unless the request changes its target
and a reserved id leads to the same path. -/
theorem fileRequest_sparesReserved_iff (cipher : PathCipher) (service : Service)
    (mirrored : service.MountsMirrored) (request : FileRequest) :
    (∀ fileId : AlbumFileId, service.manager.Reserved fileId →
        fileId.Verified service.manager.settings →
        albumFsPath cipher fileId ∉ request.mutations cipher service) ↔
      ¬ (request.Mutates cipher service ∧
        ∃ fileId : AlbumFileId, service.manager.Reserved fileId ∧
          fileId.Verified service.manager.settings ∧
          albumFsPath cipher fileId = request.target cipher) := by
  rcases request.mutations_eq cipher mirrored with ⟨count, mutations, mutates⟩
  rw [mutations, ← mutates]
  constructor
  · rintro spared ⟨some, fileId, reserved, verified, same⟩
    exact spared fileId reserved verified (List.mem_replicate.mpr ⟨some, same⟩)
  · intro apart fileId reserved verified member
    rcases List.mem_replicate.mp member with ⟨some, same⟩
    exact apart ⟨some, fileId, reserved, verified, same⟩

/-- A recording that is about to be written to the SD card. -/
def recording : Service :=
  let service := Service.announced fun path =>
    if path = albumFsPath (Equiv.refl Block) savedScreenshot then some [1, 2, 3] else none
  { service with manager := { service.manager with
    writeReserve := ⟨fun slot =>
      if slot = 0 then some { savedScreenshot with storageId := .sd } else none⟩ } }

theorem mirrored_recording : recording.MountsMirrored :=
  mirrored_announced _

/-- Copying the same id from the NAND storage writes to the reserved file. -/
theorem fileRequest_sparesReserved_recording :
    ¬ (∀ (cipher : PathCipher) (service : Service), service.MountsMirrored →
      ∀ request : FileRequest, ∀ fileId : AlbumFileId, service.manager.Reserved fileId →
        fileId.Verified service.manager.settings →
        fileId.pad = .replicate 6 0 →
        albumFsPath cipher fileId ∉ request.mutations cipher service) := by
  intro always
  refine always (Equiv.refl Block) recording mirrored_recording
    (.copyFile .absent savedScreenshot .sd) { savedScreenshot with storageId := .sd }
    (.inr (by decide)) ((AlbumFileId.verify_eq_success_iff _ _).mp (by decide)) rfl ?_
  decide +kernel

/-- Deleting the screenshot on the NAND storage leaves the recording alone. -/
theorem fileRequest_sparesReserved_deletion :
    recording.manager.Reserved { savedScreenshot with storageId := .sd } ∧
      albumFsPath (Equiv.refl Block) { savedScreenshot with storageId := .sd } ∉
        (FileRequest.deleteFile ⟨none, none⟩ savedScreenshot).mutations (Equiv.refl Block)
          recording := by
  have reserved : recording.manager.Reserved { savedScreenshot with storageId := .sd } :=
    .inr (by decide)
  refine ⟨reserved, ?_⟩
  refine (fileRequest_sparesReserved_iff (Equiv.refl Block) recording mirrored_recording
    (.deleteFile ⟨none, none⟩ savedScreenshot)).mpr ?_ _ reserved
    ((AlbumFileId.verify_eq_success_iff _ _).mp (by decide))
  rintro ⟨-, fileId, reserved, -, same⟩
  rcases reserved with read | written
  · exact absurd read (by simp [recording, Service.announced, AlbumManager.constructed,
      AlbumReserve.isReserved, AlbumReserve.empty])
  · rcases AlbumReserve.isReserved_iff.mp written with ⟨slot, held⟩
    simp only [recording, Option.ite_none_right_eq_some, Option.some.injEq] at held
    rw [← held.2] at same
    exact absurd (congrArg FsPath.mountName same) (by decide)

end Capsrv
