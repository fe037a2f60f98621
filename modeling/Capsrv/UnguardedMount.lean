import Capsrv.Foundation.CriticalSection
import Capsrv.ServerAborts

/-! # Mounting without the lock

`GenerateCurrentAlbumFileId` mounts a storage without `g_AlbumMutex`: between the
check that the storage is available and the attempt to mount it, the other thread
can have any requests answered.
-/

namespace Capsrv

open Service Process

/-! ## An interrupted program -/

/-- The program, with another one after its first step. -/
def Steps.interrupted {σ α : Type} (steps : Steps σ α) (between : Process σ Unit) : Process σ α :=
  match steps with
  | .returns value => between >>= fun _ => pure value
  | .aborts => Process.abort
  | .step change next => fun state =>
      (between >>= fun _ => (next state).perform) (change state)

/-- `MountImageDirectory` in two steps, the check and the attempt. -/
def mountImageDirectorySteps (fault : Fault) (storageId : StorageId) : Steps Service Result :=
  .step id fun service =>
    let status := service.manager.mountStatus storageId
    rTry (verifyStorageId storageId) .returns <|
    rUnless (status.state = .available) (.returns status.lastError) <|
    .once (tryMount fault storageId)

theorem perform_mountImageDirectorySteps (fault : Fault) (storageId : StorageId) :
    (mountImageDirectorySteps fault storageId).perform = mountImageDirectory fault storageId := by
  funext service
  rw [mountImageDirectorySteps, Steps.perform, mountImageDirectory]
  unfold rTry rUnless
  dsimp only [id]
  split
  · rw [bind_apply, get_apply]
    dsimp only
    split
    · rw [Steps.perform_once]
    · rfl
  · rfl

/-! ## What the requests in between do -/

section

variable {service next : Service} {storageId : StorageId} {fault : Fault}

/-- The check of a storage that is available, the requests, and the attempt. -/
theorem interrupted_mountImageDirectorySteps (valid : storageValid storageId)
    (available : (service.manager.mountStatus storageId).state = .available)
    (between : Process Service Unit) :
    (mountImageDirectorySteps fault storageId).interrupted between service =
      (between >>= fun _ => tryMount fault storageId) service := by
  rw [mountImageDirectorySteps, Steps.interrupted]
  dsimp only [id]
  rw [rTry, verifyStorageId_eq_success_iff.mpr valid, if_pos (by decide), rUnless,
    if_pos available, Steps.perform_once]

/-- An attempt that the system answers mounts the storage, or ends the process. -/
theorem tryMount_of_answered (valid : storageValid storageId)
    (returned : ¬ (tryMount none storageId).Aborts service) :
    (tryMount none storageId service).1 = some .success ∧
      ((tryMount none storageId service).2.manager.mountStatus storageId).state = .mounted := by
  rw [aborts_tryMount valid, not_or, not_or, not_and] at returned
  have step := tryMount_step valid (returned.2.2 rfl) none
  generalize tryMount none storageId service = outcome at step
  cases step with
  | refused custom => exact absurd custom returned.1
  | aborted faulty => exact absurd rfl faulty
  | failed status faulty => exact absurd rfl faulty
  | mounted => exact ⟨rfl, by simp⟩

end

/-- Behind the requests, a fatal mount ends the process only if they leave the storage
available. With the requests between the check and the attempt, a fatal mount always
does, and any other one does if they have mounted the storage. If it does not and the
system answers, it succeeds, even if they have closed the storage. -/
theorem interruptedMount (cipher : PathCipher) (service : Service)
    (holds : MountInvariant service) (storageId : StorageId) (valid : storageValid storageId)
    (available : (service.manager.mountStatus storageId).state = .available) (fault : Fault)
    (requests : List AlbumRequest) :
    let between := Process.run (AlbumRequest.perform cipher) requests
    let steps := mountImageDirectorySteps fault storageId
    let outcome := steps.interrupted between service
    let state := ((between service).2.manager.mountStatus storageId).state
    let fatal := service.customDirectory storageId ∨ fault.Fatal
    ((between >>= fun _ => steps.perform).Aborts service ↔
        between.Aborts service ∨ state = .available ∧ fatal) ∧
      (outcome.1 = none ↔
        between.Aborts service ∨ fatal ∨ fault = none ∧ state = .mounted) ∧
      (outcome.1 ≠ none → fault = none → outcome.1 = some .success ∧
        (outcome.2.manager.mountStatus storageId).state = .mounted) := by
  dsimp only
  rw [interrupted_mountImageDirectorySteps valid available, perform_mountImageDirectorySteps]
  have after := preservedByFileSteps_mountInvariant.run cipher requests service holds
  have settings := (preservedBySteps_settings service.manager.settings).run cipher requests
    service rfl
  rcases ended : Process.run (AlbumRequest.perform cipher) requests service with
    ⟨_ | value, next⟩
  · rw [Aborts, bind_of_eq_none ended, bind_of_eq_none ended, Aborts, ended]
    exact ⟨by simp, by simp, fun returned => absurd rfl returned⟩
  rw [ended] at after settings
  have custom : next.customDirectory storageId ↔ service.customDirectory storageId := by
    rw [Service.customDirectory, settings, Service.customDirectory]
  have registered := (after.mirrored storageId valid).registered
  rw [Aborts, bind_of_eq_some ended, bind_of_eq_some ended, Aborts, ended]
  have running : (some value : Option Unit) ≠ none := by simp
  refine ⟨?_, ?_, fun returned answers => ?_⟩
  · change (mountImageDirectory fault storageId).Aborts next ↔ _
    rw [aborts_mountImageDirectory after.mirrored, or_iff_right running]
    constructor
    · exact fun fatal => ⟨fatal.available, fatal.cause.imp_left custom.mp⟩
    · exact fun fatal => ⟨valid, fatal.1, fatal.2.imp_left custom.mpr⟩
  · change (tryMount fault storageId).Aborts next ↔ _
    rw [aborts_tryMount valid, or_iff_right running, custom, ← registered, or_assoc]
  · subst answers
    exact tryMount_of_answered valid returned

/-- The SD card has been announced, and a client asks whether it is mounted. -/
theorem interruptedMount_sd :
    let between := Process.run (AlbumRequest.perform (Equiv.refl Block))
      [.mount (.mountImageDirectory none .sd)]
    let steps := mountImageDirectorySteps none .sd
    ¬ (between >>= fun _ => steps.perform).Aborts withSdCard ∧
      (steps.interrupted between withSdCard).1 = none := by
  have begun : albumManagerInitialize .unset none none (.constructed fun _ => none) =
      (some (), startedServer) := rfl
  have started : MountInvariant startedServer :=
    albumManagerInitialize_invariant (fun _ => Finset.notMem_empty _) (by rfl) begun
  have holds : MountInvariant withSdCard :=
    preservedByFileSteps_mountInvariant.run (Equiv.refl Block) announceSdCard startedServer started
  have mount := interruptedMount (Equiv.refl Block) withSdCard holds .sd (by decide) (by decide)
    none [.mount (.mountImageDirectory none .sd)]
  constructor
  · rw [mount.1]
    rintro (aborts | ⟨still, -⟩)
    · cases aborts
    · exact absurd still (by decide)
  · exact mount.2.1.mpr (.inr (.inr ⟨rfl, by decide⟩))

end Capsrv
