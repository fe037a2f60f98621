import Capsrv.RequestInvariants

/-! # The last errors of the storages

`MountImageDirectory` and `EnsureMountState` answer for a storage that is not
available in different ways: the one with the last error, the other by way of
a comparison of its raw value and a choice among three errors. Of the errors
that runs can leave none takes that way.
-/

namespace Capsrv

open Service Process

/-- What a mount status can hold as its last error. -/
inductive KnownError : Result → Prop
  | success : KnownError .success
  | pathNotFound : KnownError albumPathNotFound.result
  | isNotMounted : KnownError albumIsNotMounted.result

/-- The last error of both storages is a known one. -/
def Service.KnownErrors (service : Service) : Prop :=
  ∀ storageId, KnownError (service.manager.mountStatus storageId).lastError

/-- None of them is the value that `EnsureMountState` compares with. -/
theorem KnownError.value_ne {result : Result} (known : KnownError result) : result.value ≠ 206 := by
  cases known <;> decide

theorem KnownError.of_left {status : MountStatus} (left : LeftStatus status) :
    KnownError status.lastError := by
  cases left with
  | mounted => exact .success
  | pathNotFound => exact .pathNotFound
  | isNotMounted => exact .isNotMounted

theorem preservedBySteps_knownErrors : PreservedBySteps KnownErrors :=
  preservedBySteps_statuses fun _ => KnownError.of_left

/-! ## Runs -/

/-- `Initialize` that returns has reset both statuses. -/
theorem albumManagerInitialize_status {service started : Service} {settings : AlbumSettings}
    {createFault mountFault : Fault}
    (begun : albumManagerInitialize settings createFault mountFault service =
      (some (), started)) (storageId : StorageId) : started.manager.mountStatus storageId = {} := by
  rcases albumManagerInitialize_started begun with ⟨names, -, rfl⟩
  exact ite_self _

theorem knownErrors_reached {service started : Service} {settings : AlbumSettings}
    {createFault mountFault : Fault} (cipher : PathCipher)
    (begun : albumManagerInitialize settings createFault mountFault service =
      (some (), started)) (requests : List AlbumRequest) :
    (Process.run (AlbumRequest.perform cipher) requests started).2.KnownErrors := by
  refine preservedBySteps_knownErrors.run cipher requests started fun storageId => ?_
  rw [albumManagerInitialize_status begun]
  exact .isNotMounted

/-! ## The two entry points -/

/-- Over known errors the two requests are one. -/
theorem mountImageDirectory_eq_ensureMountState {service : Service}
    (known : service.KnownErrors) (fault : Fault) (storageId : StorageId)
    (mountState : MountState) :
    mountImageDirectory fault storageId service =
      ensureMountState fault storageId mountState service := by
  by_cases valid : storageValid storageId
  case neg =>
    rw [mountImageDirectory, ensureMountState, verifyStorageId_of_invalid valid]
    rfl
  have verified := verifyStorageId_eq_success_iff.mpr valid
  simp only [mountImageDirectory, ensureMountState, rTry, rUnless, verified,
    Result.isSuccess_success, if_true, Process.bind_apply, Process.get_apply]
  by_cases available : (service.manager.mountStatus storageId).state = .available
  · rw [if_pos available, if_neg (not_not.mpr available)]
  · rw [if_neg available, if_pos available]
    by_cases success : (service.manager.mountStatus storageId).lastError.isSuccess
    · rw [if_pos success, (Result.isSuccess_eq_true_iff _).mp success]
    · rw [if_neg success, if_pos (known storageId).value_ne]

/-- Whatever has been requested since `Initialize`: both requests return the
same result, or abort both, and leave the same service. -/
theorem mountEntryPoints_agree (cipher : PathCipher) (service : Service)
    (settings : AlbumSettings) (createFault mountFault : Fault) (started : Service)
    (begun : albumManagerInitialize settings createFault mountFault service =
      (some (), started)) (requests : List AlbumRequest) (fault : Fault) (storageId : StorageId)
    (mountState : MountState) :
    let reached := (Process.run (AlbumRequest.perform cipher) requests started).2
    mountImageDirectory fault storageId reached =
      ensureMountState fault storageId mountState reached :=
  mountImageDirectory_eq_ensureMountState (knownErrors_reached cipher begun requests) fault
    storageId mountState

/-- A storage that has been announced, mounted and closed. -/
theorem mountEntryPoints_agree_closed :
    let started := (albumManagerInitialize .unset none none (.constructed fun _ => none)).2
    let reached := (Process.run (AlbumRequest.perform (Equiv.refl Block))
      [.mount (.unmountImageDirectory .sd), .mount (.mountImageDirectory none .sd),
        .mount (.closeImageDirectory .sd)] started).2
    mountImageDirectory none .sd reached = ensureMountState none .sd .available reached :=
  mountEntryPoints_agree (Equiv.refl Block) (.constructed fun _ => none) .unset none none _ rfl
    _ none .sd .available

end Capsrv
