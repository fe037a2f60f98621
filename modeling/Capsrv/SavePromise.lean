import Capsrv.AlbumFileSuccess
import Capsrv.AlbumRequests
import Capsrv.Foundation.Quota

/-! # What `CanSave` promises

`CanSave` is asked about a number of files and looks at one. Its promise is kept
by the runs of `CopyFile` in which no more files can be copied than there is
room for.
-/

namespace Capsrv

open Service

/-! ## Copies whose calls succeed -/

/-- A call of `CopyFile` for an existing file of the type, with a new
destination, both storages mounted or to be mounted. -/
structure Copyable (cipher : PathCipher) (storageId : StorageId) (type : ContentType)
    (service : Service) (fileId : AlbumFileId) : Prop where
  type : fileId.type = type
  found : (service.fs.files (albumFsPath cipher fileId)).isSome
  absent : service.fs.files (copyTarget cipher fileId storageId) = none
  source : service.Mountable fileId.storageId none
  target : service.Mountable storageId none

/-- The call gets as far as the limit on the number of files, and past it. -/
structure Saveable (cipher : PathCipher) (storageId : StorageId) (type : ContentType)
    (service : Service) (fileId : AlbumFileId) : Prop where
  type : fileId.type = type
  opens : ∃ content, CopyOpens cipher service .absent fileId storageId content ∧
    content.length ≤ getAllowedFileSize fileId.type service.manager.settings
  absent : service.fs.files (copyTarget cipher fileId storageId) = none
  retail : service.isQuest = false

/-- The same files can be copied as far as the service is concerned. -/
structure SavesAlike (service next : Service) : Prop where
  mirrored : next.MountsMirrored
  settings : next.manager.settings = service.manager.settings
  writeReserve : next.manager.writeReserve = service.manager.writeReserve
  isQuest : next.isQuest = service.isQuest
  mountable : ∀ storageId, storageValid storageId →
    (next.Mountable storageId none ↔ service.Mountable storageId none)

theorem SavesAlike.refl {service : Service} (mirrored : service.MountsMirrored) :
    SavesAlike service service :=
  ⟨mirrored, rfl, rfl, rfl, fun _ _ => Iff.rfl⟩

theorem SavesAlike.trans {service next final : Service} (first : SavesAlike service next)
    (second : SavesAlike next final) : SavesAlike service final where
  mirrored := second.mirrored
  settings := second.settings.trans first.settings
  writeReserve := second.writeReserve.trans first.writeReserve
  isQuest := second.isQuest.trans first.isQuest
  mountable storageId valid :=
    (second.mountable storageId valid).trans (first.mountable storageId valid)

/-- The ways such a call can go. -/
inductive SaveStep (cipher : PathCipher) (storageId : StorageId) (type : ContentType)
    (service : Service) (fileId : AlbumFileId) (outcome : Option Result × Service) : Prop
  | passed (unsaveable : ¬ Saveable cipher storageId type service fileId)
      (other : outcome.1 ≠ some internalAlbumLimitationFileCountLimit.result)
      (alike : SavesAlike service outcome.2) (files : outcome.2.fs.files = service.fs.files)
      (cache : outcome.2.manager.cache = service.manager.cache)
  | full (saveable : service.isQuest = false → Saveable cipher storageId type service fileId)
      (noRoom : ¬ service.BelowLimit storageId type)
      (limited : outcome.1 = some internalAlbumLimitationFileCountLimit.result)
      (alike : SavesAlike service outcome.2) (files : outcome.2.fs.files = service.fs.files)
      (cache : outcome.2.manager.cache = service.manager.cache)
  | saved (saveable : Saveable cipher storageId type service fileId)
      (below : service.BelowLimit storageId type) (success : outcome.1 = some .success)
      (alike : SavesAlike service outcome.2) (content : List UInt8)
      (files : outcome.2.fs.files =
        service.fs.files.put (copyTarget cipher fileId storageId) content)
      (cache : outcome.2.manager.cache = service.manager.cache.increment storageId type)

theorem AlbumFileId.verify_ne_limit (fileId : AlbumFileId) (settings : AlbumSettings) :
    fileId.verify settings ≠ internalAlbumLimitationFileCountLimit.result := by
  unfold verify
  iterate 8 refine rUnless_ne (by decide) ?_
  by_cases valid : storageValid fileId.storageId
  · rw [verifyStorageId_eq_success_iff.mpr valid, rTry_success]
    exact rUnless_ne (by decide) (by decide)
  · rw [verifyStorageId_of_invalid valid]
    exact (by decide : albumInvalidStorage.result ≠ internalAlbumLimitationFileCountLimit.result)

section

variable {cipher : PathCipher} {storageId : StorageId} {type : ContentType} {service : Service}
  {fileId : AlbumFileId} {content : List UInt8}

/-- With both storages mounted, nothing has changed that a copy depends on. -/
theorem CopyOpens.savesAlike (opens : CopyOpens cipher service .absent fileId storageId content)
    {mounted next : Service} (frame : MountFrame service mounted)
    (state : ∀ storageId, storageValid storageId →
      (mounted.manager.mountStatus storageId).state = .mounted)
    (mirrored : next.MountsMirrored)
    (status : next.manager.mountStatus = mounted.manager.mountStatus)
    (settings : next.manager.settings = mounted.manager.settings)
    (writeReserve : next.manager.writeReserve = mounted.manager.writeReserve)
    (isQuest : next.isQuest = mounted.isQuest) : SavesAlike service next where
  mirrored := mirrored
  settings := settings.trans frame.settings
  writeReserve := writeReserve.trans frame.writeReserve
  isQuest := isQuest.trans frame.isQuest
  mountable other valid := by
    refine iff_of_true (.inl ?_) ?_
    · rw [status]
      exact state other valid
    · rcases eq_or_eq_of_storageValid opens.valid opens.verified.storage opens.different valid with
        same | same
      · exact same ▸ opens.target
      · exact same ▸ opens.source

/-- A kiosk unit has no room for copies. -/
theorem copyContent_of_isQuest {mounted : Service} (quest : mounted.isQuest = true)
    (faults : CopyFaults) (sourceFile : FsPath) (size : Nat) (path : Text) :
    copyContent faults sourceFile size path storageId type mounted =
      (some albumIsFull.result, mounted) := by
  simp only [copyContent, Process.bind_apply, Process.get_apply, callFs_apply,
    createAlbumFileImpl, rUnless]
  rw [if_neg (by simp [quest])]
  rfl

/-- The rest of a copy to a new file, every call of which succeeds. -/
theorem copyContent_of_absent {mounted : Service} {path : Text} {sourceFile file : FsPath}
    (resolved : mounted.fs.resolve path = .ok file) (different : sourceFile ≠ file)
    (found : mounted.fs.files sourceFile = some content)
    (absent : mounted.fs.files file = none) (retail : mounted.isQuest = false) :
    ∃ left, Touched file mounted.fs left ∧
      copyContent .absent sourceFile content.length path storageId type mounted =
        (some .success, { mounted with
          fs := left
          manager := { mounted.manager with
            cache := mounted.manager.cache.increment storageId type } }) := by
  have creates : Creates mounted.isQuest CopyFaults.absent.toCreateFaults file
      mounted.fs.files := ⟨retail, rfl, rfl, absent⟩
  cases copyContent_step .absent storageId type resolved different found with
  | refused uncreated => exact absurd creates uncreated
  | spoiled _ incomplete => exact absurd ⟨rfl, fun _ _ => ⟨rfl, rfl⟩⟩ incomplete
  | copied _ _ left touched equal => exact ⟨left, touched, equal⟩

/-- A call that is refused before the storages are looked at. -/
theorem saveStep_of_refused (mirrored : service.MountsMirrored)
    (unsaveable : ¬ Saveable cipher storageId type service fileId) {result : Result}
    (other : result ≠ internalAlbumLimitationFileCountLimit.result) :
    SaveStep cipher storageId type service fileId (some result, service) :=
  .passed unsaveable (fun limited => other (Option.some.inj limited)) (.refl mirrored) rfl rfl

/-- A call that gets to the source. -/
theorem saveStep_of_opens (mirrored : service.MountsMirrored)
    (opens : CopyOpens cipher service .absent fileId storageId content)
    (same : fileId.type = type)
    (absent : service.fs.files (copyTarget cipher fileId storageId) = none) :
    SaveStep cipher storageId type service fileId
      (copyFile cipher .absent fileId storageId service) := by
  have after := FileRequest.preserves_mirrored cipher (.copyFile .absent fileId storageId) service
    mirrored
  rw [FileRequest.perform] at after
  rcases copyFile_of_opens mirrored opens with ⟨mounted, frame, mountedMirrored, state, behind⟩
  have alike : SavesAlike service mounted :=
    opens.savesAlike frame state mountedMirrored rfl rfl rfl rfl
  rw [behind, rUnless, rUnless] at after ⊢
  by_cases small : content.length ≤ getAllowedFileSize fileId.type service.manager.settings
  case neg =>
    rw [if_neg small]
    refine .passed ?_ (by simp; decide) alike frame.files frame.cache
    rintro ⟨-, ⟨other, otherOpens, otherSmall⟩, -, -⟩
    rw [Option.some.inj (otherOpens.found.symm.trans opens.found)] at otherSmall
    exact small otherSmall
  by_cases below : service.BelowLimit storageId fileId.type
  case neg =>
    rw [if_pos small, if_neg below]
    exact .full (fun retail => ⟨same, ⟨content, opens, small⟩, absent, retail⟩) (same ▸ below) rfl
      alike frame.files frame.cache
  rw [if_pos small, if_pos below] at after ⊢
  by_cases retail : service.isQuest = false
  case neg =>
    rw [copyContent_of_isQuest (by simpa [frame.isQuest] using retail)]
    exact .passed (fun saveable => retail saveable.retail) (by simp; decide) alike frame.files
      frame.cache
  have found := (congrFun frame.files (albumFsPath cipher fileId)).trans opens.found
  have stillAbsent := (congrFun frame.files (copyTarget cipher fileId storageId)).trans absent
  rcases copyContent_of_absent (opens.resolved mountedMirrored state)
    (copyTarget_ne cipher opens.verified.storage opens.valid opens.different) found stillAbsent
    (frame.isQuest.trans retail) with ⟨left, touched, equal⟩
  rcases touched.files with ⟨copied, files⟩
  rw [equal] at after ⊢
  refine .saved ⟨same, ⟨content, opens, small⟩, absent, retail⟩ (same ▸ below) rfl
    (opens.savesAlike frame state after rfl rfl rfl rfl) copied ?_ ?_
  · rw [← frame.files, files]
  · rw [← frame.cache, same]

theorem saveStep (mirrored : service.MountsMirrored) (valid : storageValid storageId)
    (copyable : Copyable cipher storageId type service fileId) :
    SaveStep cipher storageId type service fileId
      (copyFile cipher .absent fileId storageId service) := by
  by_cases unwritten : service.manager.writeReserve.isReserved fileId = false
  case neg =>
    rw [copyFile_of_reserved unwritten]
    refine saveStep_of_refused mirrored (fun saveable => ?_) (by decide)
    rcases saveable.opens with ⟨_, opens, -⟩
    exact unwritten opens.unwritten
  by_cases accepted : fileId.verify service.manager.settings = .success
  case neg =>
    rw [copyFile_of_unverified unwritten accepted]
    refine saveStep_of_refused mirrored (fun saveable => ?_) (fileId.verify_ne_limit _)
    rcases saveable.opens with ⟨_, opens, -⟩
    exact accepted ((fileId.verify_eq_success_iff _).mpr opens.verified)
  have verified := (fileId.verify_eq_success_iff _).mp accepted
  rcases Option.isSome_iff_exists.mp copyable.found with ⟨content, found⟩
  have different : storageId ≠ fileId.storageId := by
    rintro rfl
    have absent := copyable.absent
    rw [copyTarget, found] at absent
    cases absent
  have opens : CopyOpens cipher service .absent fileId storageId content :=
    ⟨unwritten, verified, valid, different, copyable.source, copyable.target, rfl, found, rfl⟩
  exact saveStep_of_opens mirrored opens copyable.type copyable.absent

end

/-! ## Runs of copies -/

/-- The places a storage has left for files of a type. -/
def Service.room (service : Service) (storageId : StorageId) (type : ContentType) : Nat :=
  (service.manager.settings.getFileMaxCount storageId type).toNat -
    (service.manager.cache.getCount storageId type).toNat

/-- The service after copies of the files taken, and of others that failed. -/
structure SavedSince (cipher : PathCipher) (storageId : StorageId) (type : ContentType)
    (service : Service) (taken : List AlbumFileId) (current : Service) : Prop where
  alike : SavesAlike service current
  saveable : ∀ fileId ∈ taken, Saveable cipher storageId type service fileId
  distinct : (taken.map (copyTarget cipher · storageId)).Nodup
  stored : ∀ path ∈ taken.map (copyTarget cipher · storageId), (current.fs.files path).isSome
  files : ∀ path ∉ taken.map (copyTarget cipher · storageId),
    current.fs.files path = service.fs.files path
  counted : (current.manager.cache.getCount storageId type).toNat =
    (service.manager.cache.getCount storageId type).toNat + taken.length

section

variable {cipher : PathCipher} {storageId : StorageId} {type : ContentType} {service : Service}
  {fileId : AlbumFileId} {taken : List AlbumFileId} {current next : Service}

theorem copyOpens_iff_of_alike (alike : SavesAlike service current)
    (file : current.fs.files (albumFsPath cipher fileId) =
      service.fs.files (albumFsPath cipher fileId)) (content : List UInt8) :
    CopyOpens cipher current .absent fileId storageId content ↔
      CopyOpens cipher service .absent fileId storageId content := by
  constructor
  · intro opens
    have verified := opens.verified
    exact ⟨alike.writeReserve ▸ opens.unwritten, alike.settings ▸ verified, opens.valid,
      opens.different, (alike.mountable _ verified.storage).mp opens.source,
      (alike.mountable _ opens.valid).mp opens.target, rfl, file ▸ opens.found, rfl⟩
  · intro opens
    have verified := opens.verified
    exact ⟨alike.writeReserve ▸ opens.unwritten, alike.settings ▸ verified, opens.valid,
      opens.different, (alike.mountable _ verified.storage).mpr opens.source,
      (alike.mountable _ opens.valid).mpr opens.target, rfl, file ▸ opens.found, rfl⟩

/-- A file on another storage is no destination. -/
theorem albumFsPath_notMem_targets (valid : storageValid storageId)
    (sourceValid : storageValid fileId.storageId) (different : storageId ≠ fileId.storageId)
    (taken : List AlbumFileId) :
    albumFsPath cipher fileId ∉ taken.map (copyTarget cipher · storageId) := by
  intro member
  rcases List.mem_map.mp member with ⟨other, -, same⟩
  exact mountName_ne sourceValid valid different (congrArg FsPath.mountName same)

namespace SavedSince

theorem refl (mirrored : service.MountsMirrored) :
    SavedSince cipher storageId type service [] service :=
  ⟨.refl mirrored, by simp, List.nodup_nil, by simp, fun _ _ => rfl, rfl⟩

/-- What can still be copied. -/
theorem saveable_iff (since : SavedSince cipher storageId type service taken current) :
    Saveable cipher storageId type current fileId ↔
      Saveable cipher storageId type service fileId ∧
        copyTarget cipher fileId storageId ∉ taken.map (copyTarget cipher · storageId) := by
  have same : ∀ {content : List UInt8} {other : Service},
      CopyOpens cipher other .absent fileId storageId content →
      current.fs.files (albumFsPath cipher fileId) =
        service.fs.files (albumFsPath cipher fileId) :=
    fun opens => since.files _
      (albumFsPath_notMem_targets opens.valid opens.verified.storage opens.different taken)
  constructor
  · rintro ⟨sameType, ⟨content, opens, small⟩, absent, retail⟩
    have new : copyTarget cipher fileId storageId ∉ taken.map (copyTarget cipher · storageId) := by
      intro member
      have stored := since.stored _ member
      rw [absent] at stored
      cases stored
    refine ⟨⟨sameType, ⟨content, ?_, ?_⟩, ?_, ?_⟩, new⟩
    · exact (copyOpens_iff_of_alike since.alike (same opens) content).mp opens
    · exact since.alike.settings ▸ small
    · rw [← since.files _ new, absent]
    · rw [← since.alike.isQuest, retail]
  · rintro ⟨⟨sameType, ⟨content, opens, small⟩, absent, retail⟩, new⟩
    refine ⟨sameType, ⟨content, ?_, ?_⟩, ?_, ?_⟩
    · exact (copyOpens_iff_of_alike since.alike (same opens) content).mpr opens
    · exact since.alike.settings ▸ small
    · rw [since.files _ new, absent]
    · rw [since.alike.isQuest, retail]

theorem belowLimit_iff (since : SavedSince cipher storageId type service taken current) :
    current.BelowLimit storageId type ↔ taken.length < service.room storageId type := by
  rw [Service.BelowLimit, UInt64.lt_iff_toNat_lt, since.counted, since.alike.settings,
    Service.room]
  omega

/-- A call that changes no file and no count. -/
theorem passed (since : SavedSince cipher storageId type service taken current)
    (alike : SavesAlike current next) (files : next.fs.files = current.fs.files)
    (cache : next.manager.cache = current.manager.cache) :
    SavedSince cipher storageId type service taken next where
  alike := since.alike.trans alike
  saveable := since.saveable
  distinct := since.distinct
  stored := files ▸ since.stored
  files := files ▸ since.files
  counted := cache ▸ since.counted

/-- A call that copies. -/
theorem saved (since : SavedSince cipher storageId type service taken current)
    (typeValid : contentTypeValid type) (valid : storageValid storageId)
    (saveable : Saveable cipher storageId type current fileId)
    (below : current.BelowLimit storageId type) (alike : SavesAlike current next)
    {content : List UInt8}
    (files : next.fs.files = current.fs.files.put (copyTarget cipher fileId storageId) content)
    (cache : next.manager.cache = current.manager.cache.increment storageId type) :
    SavedSince cipher storageId type service (fileId :: taken) next := by
  rcases since.saveable_iff.mp saveable with ⟨saveableBefore, new⟩
  refine ⟨since.alike.trans alike, ?_, List.nodup_cons.mpr ⟨new, since.distinct⟩, ?_, ?_, ?_⟩
  · intro other member
    rcases List.mem_cons.mp member with rfl | member
    · exact saveableBefore
    · exact since.saveable other member
  · intro path member
    rw [files]
    by_cases same : path = copyTarget cipher fileId storageId
    · rw [same, FileStore.put_same]
      rfl
    · rw [FileStore.put_of_ne _ _ same]
      exact since.stored path ((List.mem_cons.mp member).resolve_left same)
  · intro path notMember
    rw [List.map_cons, List.mem_cons, not_or] at notMember
    rw [files, FileStore.put_of_ne _ _ notMember.1, since.files path notMember.2]
  · rw [cache, AlbumManagerCache.getCount_increment _ valid typeValid, if_pos ⟨rfl, rfl⟩,
      toNat_increment_of_lt below, since.counted, List.length_cons, Nat.add_assoc]

end SavedSince

theorem Copyable.of_saveable (saveable : Saveable cipher storageId type service fileId) :
    Copyable cipher storageId type service fileId := by
  rcases saveable.opens with ⟨content, opens, -⟩
  exact ⟨saveable.type, by rw [opens.found]; rfl, saveable.absent, opens.source, opens.target⟩

/-- The places of a storage, which has at least one, are taken by copies. -/
theorem quota_copyFile (valid : storageValid storageId)
    (typeValid : contentTypeValid type) (below : service.BelowLimit storageId type) :
    Quota (fun fileId => copyFile cipher .absent fileId storageId)
      (Copyable cipher storageId type)
      (fun current fileId => (copyFile cipher .absent fileId storageId current).1 =
        some internalAlbumLimitationFileCountLimit.result)
      (Saveable cipher storageId type service) (copyTarget cipher · storageId)
      (service.room storageId type) (SavedSince cipher storageId type service) where
  fit since := since.saveable
  distinct since := since.distinct
  offered since saveable new := .of_saveable (since.saveable_iff.mpr ⟨saveable, new⟩)
  passed {taken current fileId} since copyable ineligible := by
    have unsaveable : ¬ Saveable cipher storageId type current fileId := fun saveable =>
      ineligible (since.saveable_iff.mp saveable)
    cases saveStep since.alike.mirrored valid copyable with
    | passed _ other alike files cache => exact ⟨other, since.passed alike files cache⟩
    | full saveable noRoom =>
        -- there was a place, and it is gone: this is no kiosk unit
        have positive := UInt64.lt_iff_toNat_lt.mp below
        have filled : 0 < taken.length := by
          have left := since.belowLimit_iff.not.mp noRoom
          rw [Service.room] at left
          omega
        rcases List.exists_mem_of_length_pos filled with ⟨first, member⟩
        have retail := (since.saveable first member).retail
        exact absurd (saveable (since.alike.isQuest.trans retail)) unsaveable
    | saved saveable => exact absurd saveable unsaveable
  took {taken current fileId} since fits new left := by
    have saveable := since.saveable_iff.mpr ⟨fits, new⟩
    cases saveStep since.alike.mirrored valid (.of_saveable saveable) with
    | passed unsaveable => exact absurd saveable unsaveable
    | full _ noRoom => exact absurd (since.belowLimit_iff.mpr left) noRoom
    | saved _ below success alike content files cache =>
        refine ⟨?_, by rw [success]; rfl,
          since.saved typeValid valid saveable below alike files cache⟩
        rw [success]
        decide
  full {taken current fileId} since fits new noRoom := by
    have saveable := since.saveable_iff.mpr ⟨fits, new⟩
    cases saveStep since.alike.mirrored valid (.of_saveable saveable) with
    | passed unsaveable => exact absurd saveable unsaveable
    | full _ _ limited alike files cache => exact ⟨limited, since.passed alike files cache⟩
    | saved _ below => exact absurd (since.belowLimit_iff.mp below) (by omega)

end

/-! ## The promise -/

theorem canSave_success_iff {service : Service} {storageId : StorageId} {type : ContentType}
    {count : UInt64} :
    (canSave storageId type count service).1 = some .success ↔
      storageValid storageId = true ∧ service.manager.settings.isTypeSupported type = true ∧
        service.BelowLimit storageId type := by
  have invalid : albumInvalidStorage.result ≠ .success := by decide
  have unsupported : albumInvalidFileContents.result ≠ .success := by decide
  have limit : internalAlbumLimitationFileCountLimit.result ≠ .success := by decide
  simp only [canSave, Process.bind_apply, Process.get_apply, rTry, rUnless]
  by_cases valid : storageValid storageId
  case neg =>
    simp [verifyStorageId_of_invalid valid, valid, invalid]
  by_cases supported : service.manager.settings.isTypeSupported type
  case neg =>
    simp [verifyStorageId_eq_success_iff.mpr valid, verifyContentType, supported, unsupported]
  by_cases below : service.BelowLimit storageId type
  · have less := below
    rw [Service.BelowLimit] at less
    simp [verifyStorageId_eq_success_iff.mpr valid, verifyContentType, valid, supported, below,
      less]
  · have less := below
    rw [Service.BelowLimit] at less
    simp [verifyStorageId_eq_success_iff.mpr valid, verifyContentType, supported, below, less,
      limit]

/-- Where `CanSave` succeeds for a number of files, no run of so many copies has
one refused by the limit. -/
def SavePromise (cipher : PathCipher) (storageId : StorageId) (type : ContentType)
    (count : UInt64) (service : Service) : Prop :=
  (canSave storageId type count service).1 = some .success →
    ∀ fileIds : List AlbumFileId, fileIds.length = count.toNat →
      Process.Meets (fun fileId => copyFile cipher .absent fileId storageId)
        (Copyable cipher storageId type) fileIds service →
      Process.Meets (fun fileId => copyFile cipher .absent fileId storageId)
        (fun current fileId => (copyFile cipher .absent fileId storageId current).1 ≠
          some internalAlbumLimitationFileCountLimit.result) fileIds service

/-- The promise is kept exactly where at most as many of the files as there is
room for can be copied to different destinations. -/
theorem savePromise_iff (cipher : PathCipher) (storageId : StorageId) (type : ContentType)
    (count : UInt64) (service : Service) (mirrored : service.MountsMirrored) :
    SavePromise cipher storageId type count service ↔
      ((canSave storageId type count service).1 = some .success →
        ∀ fileIds : List AlbumFileId, fileIds.length ≤ count.toNat →
          (fileIds.map (copyTarget cipher · storageId)).Nodup →
          (∀ fileId ∈ fileIds, Saveable cipher storageId type service fileId) →
          fileIds.length ≤ service.room storageId type) := by
  refine imp_congr_right fun success => ?_
  rcases canSave_success_iff.mp success with ⟨valid, supported, below⟩
  have typeValid := AlbumSettings.contentTypeValid_of_isTypeSupported supported
  exact (quota_copyFile valid typeValid below).never_turnedAway_iff (.refl mirrored)
    count.toNat

/-- Three screenshots fit on an SD card with room for ten thousand. -/
theorem savePromise_announced :
    SavePromise (Equiv.refl Block) .sd .screenshot 3 (.announced fun path =>
      if path = albumFsPath (Equiv.refl Block) savedScreenshot then some [1, 2, 3] else none) := by
  refine (savePromise_iff (Equiv.refl Block) .sd .screenshot 3 _ (mirrored_announced _)).mpr ?_
  intro _ fileIds short _ _
  exact short.trans (by decide)

/-- Two screenshots, and an SD card with room for one more. -/
def nearLimit : Service :=
  let service := Service.announced fun path =>
    if path = albumFsPath (Equiv.refl Block) savedScreenshot then some [1, 2, 3]
    else if path = albumFsPath (Equiv.refl Block) { savedScreenshot with applicationId := 1 } then
      some [4, 5]
    else none
  { service with manager := { service.manager with
    cache := service.manager.cache.set .sd .screenshot 9999 } }

/-- `CanSave` promises to save both, and the second is refused. -/
theorem not_savePromise_nearLimit :
    ¬ SavePromise (Equiv.refl Block) .sd .screenshot 2 nearLimit := by
  intro promise
  have kept := promise (by decide +kernel)
    [savedScreenshot, { savedScreenshot with applicationId := 1 }] (by decide) ?_
  · have second := (kept.2 (by decide +kernel)).1
    exact second (by decide +kernel)
  · have first : Copyable (Equiv.refl Block) .sd .screenshot nearLimit savedScreenshot :=
      ⟨rfl, by decide +kernel, by decide +kernel,
        .inr ⟨by decide +kernel, rfl, by rintro ⟨sd, -⟩; exact absurd sd (by decide)⟩,
        .inr ⟨by decide +kernel, rfl, by rintro ⟨-, custom⟩; exact custom rfl⟩⟩
    refine ⟨first, fun _ => ⟨?_, fun _ => trivial⟩⟩
    exact ⟨rfl, by decide +kernel, by decide +kernel, .inl (by decide +kernel),
      .inl (by decide +kernel)⟩

end Capsrv
