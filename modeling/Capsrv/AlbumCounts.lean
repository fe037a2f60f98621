import Capsrv.AlbumFileSafety

/-! # The counts and the files

The counts of the cache over runs of deletions and copies. A request keeps them
right under a condition on its inputs and on the state it finds.
-/

namespace Capsrv

open Service

/-! ## Which paths are album files -/

/-- The paths of the album files of one type on one storage. -/
def albumFiles (cipher : PathCipher) (storageId : StorageId) (type : ContentType) : Set FsPath :=
  {path | ∃ (fileId : AlbumFileId) (settings : AlbumSettings), fileId.Verified settings ∧
    fileId.storageId = storageId ∧ fileId.type = type ∧ path = albumFsPath cipher fileId}

section

variable {cipher : PathCipher} {fileId other : AlbumFileId} {settings otherSettings : AlbumSettings}

theorem AlbumFileId.Verified.typeValid (verified : fileId.Verified settings) :
    contentTypeValid fileId.type = true :=
  AlbumSettings.contentTypeValid_of_isTypeSupported verified.type

theorem fileName_ne_nil : fileName cipher fileId.dateTime fileId.applicationId fileId.type ≠ [] := by
  simp [fileName, ascii]

/-- The last name of an album path is the file name. -/
theorem getLast_components : (albumFsPath cipher fileId).components.getLast? =
    some (fileName cipher fileId.dateTime fileId.applicationId fileId.type) := by
  have last : [fileName cipher fileId.dateTime fileId.applicationId fileId.type].filter (· ≠ []) =
      [fileName cipher fileId.dateTime fileId.applicationId fileId.type] := by
    simp [fileName_ne_nil]
  have split : albumNames cipher fileId = [extraFolder cipher fileId,
      Text.decimal 4 fileId.dateTime.year.toNat, Text.decimal 2 fileId.dateTime.month.toNat,
      Text.decimal 2 fileId.dateTime.day.toNat] ++
        [fileName cipher fileId.dateTime fileId.applicationId fileId.type] := rfl
  rw [albumFsPath, split, List.filter_append, last, List.getLast?_concat]

/-- A file name shows its type. -/
theorem type_of_fileName (verified : fileId.Verified settings)
    (otherVerified : other.Verified otherSettings)
    (same : fileName cipher fileId.dateTime fileId.applicationId fileId.type =
      fileName cipher other.dateTime other.applicationId other.type) :
    fileId.type = other.type := by
  have lengths := congrArg List.length same
  rw [length_fileName cipher verified, length_fileName cipher otherVerified] at lengths
  have extra : isExtra fileId.type = isExtra other.type := by
    cases first : isExtra fileId.type <;> cases second : isExtra other.type <;>
      simp_all
  have extension : (getFileExtension fileId.type).getD [] =
      (getFileExtension other.type).getD [] := by
    rw [fileName, fileName] at same
    apply List.append_inj_right' same
    rw [length_getFileExtension verified.typeValid, length_getFileExtension otherVerified.typeValid]
  have every : ∀ first ∈ [ContentType.screenshot, .movie, .extraScreenshot, .extraMovie],
      ∀ second ∈ [ContentType.screenshot, .movie, .extraScreenshot, .extraMovie],
      isExtra first = isExtra second →
      (getFileExtension first).getD [] = (getFileExtension second).getD [] →
      first = second := by decide
  have member : ∀ type, contentTypeValid type = true →
      type ∈ [ContentType.screenshot, .movie, .extraScreenshot, .extraMovie] := by
    intro type valid
    simpa only [List.mem_cons, List.not_mem_nil, or_false] using contentTypeValid_cases valid
  exact every _ (member _ verified.typeValid) _ (member _ otherVerified.typeValid) extra extension

variable (cipher) in
theorem albumFsPath_mem_albumFiles_iff (verified : fileId.Verified settings)
    {storageId : StorageId} (valid : storageValid storageId) (type : ContentType) :
    albumFsPath cipher fileId ∈ albumFiles cipher storageId type ↔
      storageId = fileId.storageId ∧ type = fileId.type := by
  constructor
  · rintro ⟨other, otherSettings, otherVerified, rfl, rfl, same⟩
    constructor
    · by_contra different
      exact mountName_ne verified.storage valid different (congrArg FsPath.mountName same).symm
    · apply type_of_fileName otherVerified verified
      have last := congrArg (fun path => path.components.getLast?) same
      simp only [getLast_components, Option.some.injEq] at last
      exact last.symm
  · rintro ⟨rfl, rfl⟩
    exact ⟨fileId, settings, verified, rfl, rfl, rfl⟩

end

/-! ## Counts that are right -/

/-- For both storages and all types the count is the number of album files. -/
def CountsTrack (cipher : PathCipher) (files : FileStore FsPath (List UInt8))
    (cache : AlbumManagerCache) : Prop :=
  ∀ storageId type, storageValid storageId → contentTypeValid type →
    (files.present (albumFiles cipher storageId type)).encard =
      (cache.getCount storageId type).toNat

section

variable {cipher : PathCipher} {fileId : AlbumFileId} {settings : AlbumSettings}
  {files : FileStore FsPath (List UInt8)} {cache cacheAfter : AlbumManagerCache} {count : UInt64}

/-- One file and its count change: what the new count has to be. -/
theorem countsTrack_update_iff (tracks : CountsTrack cipher files cache)
    (verified : fileId.Verified settings) (value : Option (List UInt8))
    (counted : ∀ storageId type, cacheAfter.getCount storageId type =
      if storageId = fileId.storageId ∧ type = fileId.type then count
      else cache.getCount storageId type) :
    CountsTrack cipher (Function.update files (albumFsPath cipher fileId) value) cacheAfter ↔
      count.toNat + (if (files (albumFsPath cipher fileId)).isSome then 1 else 0) =
        (cache.getCount fileId.storageId fileId.type).toNat + if value.isSome then 1 else 0 := by
  have member := (albumFsPath_mem_albumFiles_iff cipher verified verified.storage
    fileId.type).mpr ⟨rfl, rfl⟩
  have before := tracks fileId.storageId fileId.type verified.storage verified.typeValid
  have after := FileStore.encard_present_update files member value
  rw [before] at after
  constructor
  · intro tracksAfter
    have equal := tracksAfter fileId.storageId fileId.type verified.storage verified.typeValid
    rw [counted, if_pos ⟨rfl, rfl⟩] at equal
    rw [equal] at after
    exact_mod_cast after
  · intro equal storageId type valid typeValid
    rw [counted]
    by_cases same : storageId = fileId.storageId ∧ type = fileId.type
    · rcases same with ⟨rfl, rfl⟩
      rw [if_pos ⟨rfl, rfl⟩]
      have finite : (if (files (albumFsPath cipher fileId)).isSome then 1 else 0 : ℕ∞) ≠ ⊤ := by
        split <;> simp
      apply ENat.add_left_injective_of_ne_top finite
      simp only [after]
      exact_mod_cast equal.symm
    · rw [if_neg same, FileStore.present_update_of_notMem]
      · exact tracks storageId type valid typeValid
      · rwa [albumFsPath_mem_albumFiles_iff cipher verified valid]

theorem toNat_decrement_of_pos {count : UInt64} (positive : 0 < count.toNat) :
    (count - 1).toNat = count.toNat - 1 :=
  UInt64.toNat_sub_of_le _ _ (UInt64.le_iff_toNat_le.mpr positive)

theorem toNat_decrement_ne (count : UInt64) : (count - 1).toNat ≠ count.toNat := by
  have bound := count.toNat_lt
  simp only [UInt64.toNat_sub, UInt64.reduceToNat]
  omega

theorem toNat_increment_of_lt {count limit : UInt64} (below : count < limit) :
    (count + 1).toNat = count.toNat + 1 := by
  have bound := limit.toNat_lt
  have less := UInt64.lt_iff_toNat_lt.mp below
  rw [UInt64.toNat_add]
  exact Nat.mod_eq_of_lt (by simp only [UInt64.reduceToNat]; omega)

/-- A file that is there has been counted. -/
theorem CountsTrack.positive (tracks : CountsTrack cipher files cache)
    (verified : fileId.Verified settings)
    (found : (files (albumFsPath cipher fileId)).isSome) :
    0 < (cache.getCount fileId.storageId fileId.type).toNat := by
  have member := (albumFsPath_mem_albumFiles_iff cipher verified verified.storage
    fileId.type).mpr ⟨rfl, rfl⟩
  have equal := tracks fileId.storageId fileId.type verified.storage verified.typeValid
  rw [Nat.pos_iff_ne_zero]
  intro zero
  rw [zero, Nat.cast_zero, Set.encard_eq_zero] at equal
  have counted : albumFsPath cipher fileId ∈
      files.present (albumFiles cipher fileId.storageId fileId.type) := ⟨member, found⟩
  rw [equal] at counted
  exact counted

end

/-! ## What a request has to meet -/

/-- A deletion that passes its checks finds its file and deletes it. A copy that
passes its checks and creates its destination either completes or is undone; one
that resizes its destination neither completes nor is undone. -/
def FileRequest.KeepsCounts (cipher : PathCipher) (service : Service) : FileRequest → Prop
  | deleteFile faults fileId => DeleteAdmitted service faults fileId →
      faults.deleteFile = none ∧ (service.fs.files (albumFsPath cipher fileId)).isSome
  | copyFile faults sourceId destination => ∀ content,
      CopyAdmitted cipher service faults sourceId destination content →
      (Creates service.isQuest faults.toCreateFaults (copyTarget cipher sourceId destination)
          service.fs.files →
        CopyCompletes service faults content.length ∨ faults.cleanUp = none) ∧
      (Resizes service.isQuest faults.toCreateFaults (copyTarget cipher sourceId destination)
          service.fs.files →
        ¬ CopyCompletes service faults content.length ∧ faults.cleanUp ≠ none)

def Service.CountsTrack (service : Service) (cipher : PathCipher) : Prop :=
  Capsrv.CountsTrack cipher service.fs.files service.manager.cache

theorem deleteFile_countsTrack_iff {cipher : PathCipher} {service : Service}
    (mirrored : service.MountsMirrored) (tracks : service.CountsTrack cipher)
    (faults : DeleteFaults) (fileId : AlbumFileId) :
    (deleteFile cipher faults fileId service).2.CountsTrack cipher ↔
      (FileRequest.deleteFile faults fileId).KeepsCounts cipher service := by
  cases deleteFile_step cipher faults fileId mirrored with
  | refused reason frame =>
      refine iff_of_true ?_ fun admitted => absurd admitted reason
      rw [Service.CountsTrack, frame.files, frame.cache]
      exact tracks
  | deleted admitted mounted frame _ equal =>
      have verified := admitted.verified
      have counted := AlbumManagerCache.getCount_decrement service.manager.cache
        verified.storage verified.typeValid
      by_cases removes : faults.deleteFile = none ∧
          (service.fs.files (albumFsPath cipher fileId)).isSome
      · have positive := Capsrv.CountsTrack.positive tracks verified removes.2
        refine iff_of_true ?_ fun _ => removes
        have erased := (countsTrack_update_iff tracks verified none counted).mpr (by
          rw [toNat_decrement_of_pos positive, if_pos removes.2]
          simp only [Option.isSome_none, Bool.false_eq_true, if_false]
          omega)
        rw [equal]
        simpa only [Service.CountsTrack, Service.deleted, frame.files, frame.cache,
          if_pos removes, FileSystem.remove_files, FileStore.erase] using erased
      · refine iff_of_false (fun tracksAfter => ?_) fun keeps => removes (keeps admitted)
        have same := (countsTrack_update_iff tracks verified
          (service.fs.files (albumFsPath cipher fileId)) counted).mp (by
            rw [Function.update_eq_self]
            rw [equal] at tracksAfter
            simpa only [Service.CountsTrack, Service.deleted, frame.files, frame.cache,
              if_neg removes] using tracksAfter)
        exact toNat_decrement_ne _ (Nat.add_right_cancel same)

/-- The copy that has gone wrong: the count is as it was, and the destination is
there unless it has been cleaned up. -/
theorem countsTrack_spoiled_iff {cipher : PathCipher} {service : Service} {fileId : AlbumFileId}
    (tracks : service.CountsTrack cipher) (verified : fileId.Verified service.manager.settings)
    {faults : CopyFaults} {mounted : Service} (frame : MountFrame service mounted)
    {left : FileSystem} (touched : Touched (albumFsPath cipher fileId) mounted.fs left) :
    CountsTrack cipher
        (if faults.cleanUp = none then left.remove (albumFsPath cipher fileId) else left).files
        mounted.manager.cache ↔
      ((service.fs.files (albumFsPath cipher fileId)).isSome ↔ faults.cleanUp ≠ none) := by
  rcases touched.files with ⟨written, files⟩
  rw [frame.files] at files
  have counted : ∀ storageId type, service.manager.cache.getCount storageId type =
      if storageId = fileId.storageId ∧ type = fileId.type then
        service.manager.cache.getCount fileId.storageId fileId.type
      else service.manager.cache.getCount storageId type := by
    intro storageId type
    split
    case isTrue same => rw [same.1, same.2]
    case isFalse => rfl
  rw [frame.cache]
  by_cases cleanUp : faults.cleanUp = none
  · have update := countsTrack_update_iff tracks verified none counted
    simp only [if_pos cleanUp, FileSystem.remove_files, files, FileStore.erase_put]
    apply update.trans
    by_cases found : (service.fs.files (albumFsPath cipher fileId)).isSome <;>
      simp [cleanUp, found]
  · have update := countsTrack_update_iff tracks verified (some written) counted
    simp only [if_neg cleanUp, files]
    apply update.trans
    by_cases found : (service.fs.files (albumFsPath cipher fileId)).isSome <;>
      simp [cleanUp, found]

section

variable {cipher : PathCipher} {service : Service} {faults : CopyFaults}
  {sourceId : AlbumFileId} {destination : StorageId} {content : List UInt8}
  (admitted : CopyAdmitted cipher service faults sourceId destination content)

include admitted

theorem keepsCounts_of_creates
    (creates : Creates service.isQuest faults.toCreateFaults
      (copyTarget cipher sourceId destination) service.fs.files) :
    (FileRequest.copyFile faults sourceId destination).KeepsCounts cipher service ↔
      CopyCompletes service faults content.length ∨ faults.cleanUp = none := by
  constructor
  · intro keeps
    exact (keeps content admitted).1 creates
  · intro kept other otherAdmitted
    rw [admitted.unique otherAdmitted]
    exact ⟨fun _ => kept, fun resizes => absurd resizes (not_resizes_of_creates creates)⟩

theorem keepsCounts_of_resizes
    (resizes : Resizes service.isQuest faults.toCreateFaults
      (copyTarget cipher sourceId destination) service.fs.files) :
    (FileRequest.copyFile faults sourceId destination).KeepsCounts cipher service ↔
      ¬ CopyCompletes service faults content.length ∧ faults.cleanUp ≠ none := by
  constructor
  · intro keeps
    exact (keeps content admitted).2 resizes
  · intro kept other otherAdmitted
    rw [admitted.unique otherAdmitted]
    exact ⟨fun creates => absurd resizes (not_resizes_of_creates creates), fun _ => kept⟩

end

theorem copyFile_countsTrack_iff {cipher : PathCipher} {service : Service}
    (mirrored : service.MountsMirrored) (tracks : service.CountsTrack cipher)
    (faults : CopyFaults) (sourceId : AlbumFileId) (destination : StorageId) :
    (copyFile cipher faults sourceId destination service).2.CountsTrack cipher ↔
      (FileRequest.copyFile faults sourceId destination).KeepsCounts cipher service := by
  cases copyFile_step cipher faults sourceId destination mirrored with
  | untouched reason frame =>
      refine iff_of_true ?_ fun content admitted => ⟨fun creates => ?_, fun resizes => ?_⟩
      · rw [Service.CountsTrack, frame.files, frame.cache]
        exact tracks
      · exact absurd ⟨⟨content, admitted⟩, .inl creates⟩ reason
      · exact absurd ⟨⟨content, admitted⟩, .inr resizes⟩ reason
  | spoiled mutates content admitted incomplete mounted frame _ left touched result _ equal =>
      have verified := admitted.verified.withStorage admitted.valid
      rw [equal]
      apply (countsTrack_spoiled_iff tracks verified frame touched).trans
      rcases mutates.2 with creates | resizes
      · have absent : service.fs.files (albumFsPath cipher
            { sourceId with storageId := destination }) = none := creates.absent
        rw [keepsCounts_of_creates admitted creates, absent]
        simp [incomplete]
      · have found : (service.fs.files (albumFsPath cipher
            { sourceId with storageId := destination })).isSome := resizes.found
        rw [keepsCounts_of_resizes admitted resizes]
        simp [incomplete, found]
  | copied mutates content admitted complete mounted frame _ left touched equal =>
      have verified := admitted.verified.withStorage admitted.valid
      rcases touched.files with ⟨written, files⟩
      have counted := AlbumManagerCache.getCount_increment service.manager.cache
        admitted.valid admitted.verified.typeValid
      have update := countsTrack_update_iff tracks verified (some written) counted
      rw [toNat_increment_of_lt admitted.below] at update
      rw [equal]
      simp only [Service.CountsTrack, files, frame.files, frame.cache]
      apply update.trans
      rcases mutates.2 with creates | resizes
      · have absent : service.fs.files (albumFsPath cipher
            { sourceId with storageId := destination }) = none := creates.absent
        rw [keepsCounts_of_creates admitted creates, absent]
        exact iff_of_true (by simp) (.inl complete)
      · have found : (service.fs.files (albumFsPath cipher
            { sourceId with storageId := destination })).isSome := resizes.found
        rw [keepsCounts_of_resizes admitted resizes, if_pos found]
        exact iff_of_false (by simp) fun kept => kept.1 complete

/-! ## Runs -/

/-- One request keeps the counts right exactly when it meets the condition. -/
theorem FileRequest.countsTrack_iff {cipher : PathCipher} {service : Service}
    (mirrored : service.MountsMirrored) (tracks : service.CountsTrack cipher)
    (request : FileRequest) :
    (request.perform cipher service).2.CountsTrack cipher ↔
      request.KeepsCounts cipher service := by
  cases request with
  | deleteFile faults fileId => exact deleteFile_countsTrack_iff mirrored tracks faults fileId
  | copyFile faults sourceId destination =>
      exact copyFile_countsTrack_iff mirrored tracks faults sourceId destination

/-- The counts are right in every state of a run whose requests all meet the
condition. -/
theorem fileRequests_countsTrack (cipher : PathCipher) (service : Service)
    (mirrored : service.MountsMirrored) (tracks : service.CountsTrack cipher)
    (requests : List FileRequest)
    (meets : Process.Meets (FileRequest.perform cipher)
      (fun service request => request.KeepsCounts cipher service) requests service)
    (count : Nat) :
    (Process.run (FileRequest.perform cipher) (requests.take count) service).2.CountsTrack
      cipher := by
  have step : ∀ (service : Service) (request : FileRequest),
      service.MountsMirrored ∧ service.CountsTrack cipher → request.KeepsCounts cipher service →
      (request.perform cipher service).2.MountsMirrored ∧
        (request.perform cipher service).2.CountsTrack cipher := by
    rintro service request ⟨mirrored, tracks⟩ keeps
    exact ⟨request.preserves_mirrored cipher service mirrored,
      (request.countsTrack_iff mirrored tracks).mpr keeps⟩
  exact (Process.run_of_meets step ⟨mirrored, tracks⟩ (meets.take count)).2

theorem countsTrack_empty (cipher : PathCipher) :
    (Service.announced fun _ => none).CountsTrack cipher := by
  intro storageId type _ _
  simp [FileStore.present, Service.announced, AlbumManager.constructed,
    AlbumManagerCache.getCount]

/-- Deleting a file that is not there takes the count below zero. -/
theorem fileRequests_countsTrack_not_missing :
    ¬ (∀ (cipher : PathCipher) (service : Service), service.MountsMirrored →
      service.CountsTrack cipher → ∀ requests : List FileRequest,
        (Process.run (FileRequest.perform cipher) requests service).2.CountsTrack cipher) := by
  intro always
  have mirrored := mirrored_announced fun _ => none
  have tracks := always (Equiv.refl Block) (.announced fun _ => none) mirrored
    (countsTrack_empty _) [.deleteFile ⟨none, none⟩ savedScreenshot]
  rw [Process.run_singleton, FileRequest.countsTrack_iff mirrored (countsTrack_empty _)] at tracks
  have admitted : DeleteAdmitted (.announced fun _ => none) ⟨none, none⟩ savedScreenshot :=
    ⟨by decide, by decide, verified_savedScreenshot,
      .inr ⟨rfl, rfl, by rintro ⟨sd, -⟩; exact absurd sd (by decide)⟩⟩
  exact absurd (tracks admitted).2 (by decide)

/-- The screenshot is there and counted. -/
def countedScreenshot : Service :=
  let service := Service.announced
    (Function.update (fun _ => none) (albumFsPath (Equiv.refl Block) savedScreenshot)
      (some [1, 2, 3]))
  { service with manager := { service.manager with
    cache := service.manager.cache.increment .nand .screenshot } }

theorem countsTrack_countedScreenshot : countedScreenshot.CountsTrack (Equiv.refl Block) := by
  refine (countsTrack_update_iff (countsTrack_empty (Equiv.refl Block))
    verified_savedScreenshot (some [1, 2, 3]) (AlbumManagerCache.getCount_increment _ (by decide)
      (by decide))).mpr ?_
  decide

/-- Copying the screenshot and deleting it where it was. -/
theorem fileRequests_countsTrack_moved :
    (Process.run (FileRequest.perform (Equiv.refl Block))
      [.copyFile .absent savedScreenshot .sd, .deleteFile ⟨none, none⟩ savedScreenshot]
      countedScreenshot).2.CountsTrack (Equiv.refl Block) := by
  refine fileRequests_countsTrack (Equiv.refl Block) countedScreenshot
    ((mirrored_announced _).congr (fun _ => rfl) rfl) countsTrack_countedScreenshot
    [.copyFile .absent savedScreenshot .sd, .deleteFile ⟨none, none⟩ savedScreenshot] ?_ 2
  refine ⟨fun content admitted => ⟨fun _ => .inr rfl, fun resizes => ?_⟩,
    fun _ => ⟨fun admitted => ⟨rfl, ?_⟩, fun _ => trivial⟩⟩
  · exact absurd resizes.found (by decide +kernel)
  · decide +kernel

end Capsrv
