import Mathlib.Data.Fintype.Card
import Mathlib.Data.Finset.Card
import Capsrv.Application.Requests

/-! # Registrations over a run

Which slot answers, how many slots an applet can have, what unregistering leaves
behind and what becomes of a version that was set.
-/

namespace Capsrv

open ApplicationAlbumManager

/-! ## The slot that answers -/

section

variable {manager : ApplicationAlbumManager}

theorem ResourceId.value_eq_zero_of_owns_empty {resourceId : ResourceId}
    (owns : resourceId.owns .empty = true) : resourceId.value = 0 := by
  cases resourceId with
  | aruid value => exact (of_decide_eq_true owns).symm
  | applicationId value => exact (of_decide_eq_true owns).symm

theorem ResourceId.owns_empty {resourceId : ResourceId} (zero : resourceId.value = 0) :
    resourceId.owns .empty = true := by
  cases resourceId with
  | aruid value => exact decide_eq_true zero.symm
  | applicationId value => exact decide_eq_true zero.symm

/-- Only an id of zero can be answered by a slot that is not used. -/
theorem ownResource_used_iff (wellFormed : manager.WellFormed) (resourceId : ResourceId) :
    (∀ slot, manager.ownResource resourceId = some slot →
        (manager.resources slot).used = true) ↔
      resourceId.value ≠ 0 ∨
        (∃ slot, (manager.resources slot).used = true ∧
          resourceId.owns (manager.resources slot) = true) ∨
        manager.Full := by
  constructor
  · intro answered
    by_contra none
    push Not at none
    rcases none with ⟨zero, unowned, notFull⟩
    rw [Full, not_forall] at notFull
    rcases notFull with ⟨free, unused⟩
    rw [Bool.not_eq_true] at unused
    have owns : resourceId.owns (manager.resources free) = true := by
      rw [wellFormed.free free unused]
      exact ResourceId.owns_empty zero
    have some : (manager.ownResource resourceId).isSome :=
      Fin.isSome_find?_iff.mpr ⟨free, owns⟩
    rcases Option.isSome_iff_exists.mp some with ⟨slot, found⟩
    exact unowned slot (answered slot found) (Fin.find?_eq_some_iff.mp found).1
  · intro condition slot found
    rcases Fin.find?_eq_some_iff.mp found with ⟨owns, before⟩
    rcases condition with nonzero | ⟨owner, used, owned⟩ | full
    · by_contra unused
      rw [wellFormed.free slot (by simpa using unused)] at owns
      exact nonzero (ResourceId.value_eq_zero_of_owns_empty owns)
    · have first : slot ≤ owner := by
        by_contra later
        have skipped := before owner (not_le.mp later)
        rw [owned] at skipped
        cases skipped
      exact wellFormed.front owner slot first used
    · exact full slot

end

section

variable (ciphers : ApplicationCiphers) (settings : AlbumSettings)

/-- A lookup is decided by a slot that is used, unless nothing is open. -/
def DecidedByUsed (manager : ApplicationAlbumManager) (query : ApplicationLookup) : Prop :=
  query.result ciphers settings manager ≠ controlNotOpened.result →
    ∃ slot, query.decidedBy manager = some slot ∧ (manager.resources slot).used = true

/-- In every table of the server a lookup is decided by a registration, unless
it asks for zero, finds no registration of it and there is a free slot. -/
theorem lookup_decidedByUsed_iff (requests : List ApplicationRequest)
    (query : ApplicationLookup) :
    DecidedByUsed ciphers settings (after ciphers settings requests) query ↔
      query.resourceId.value ≠ 0 ∨
        (∃ slot, ((after ciphers settings requests).resources slot).used = true ∧
          query.resourceId.owns ((after ciphers settings requests).resources slot) = true) ∨
        (after ciphers settings requests).Full := by
  rw [← ownResource_used_iff (wellFormed_after ciphers settings requests), DecidedByUsed, ne_eq,
    ApplicationLookup.result_eq_notOpened_iff]
  change (¬ (after ciphers settings requests).ownResource query.resourceId = none → _) ↔ _
  constructor
  · intro decided slot found
    obtain ⟨same, foundSame, used⟩ := decided (by rw [found]; simp)
    cases found.symm.trans foundSame
    exact used
  · intro used found
    rcases Option.ne_none_iff_exists'.mp found with ⟨slot, found⟩
    exact ⟨slot, found, used slot found⟩

/-- A server nobody has registered at answers for the application zero. -/
theorem lookup_not_decidedByUsed_zero :
    ¬ (∀ (ciphers : ApplicationCiphers) (settings : AlbumSettings)
        (requests : List ApplicationRequest) (query : ApplicationLookup),
      DecidedByUsed ciphers settings (after ciphers settings requests) query) := by
  intro always
  obtain ⟨slot, _, used⟩ := always identityCiphers .unset [] (.checkApplicationIdRegistered 0)
    (by decide)
  cases used

end

/-! ## One registration for each applet -/

namespace ApplicationAlbumManager

def Registered (manager : ApplicationAlbumManager) (aruid : UInt64) : Prop :=
  ∃ slot, (manager.resources slot).used = true ∧ (manager.resources slot).aruid = aruid

/-- No two slots that are used hold the same applet. -/
def AtMostOnce (manager : ApplicationAlbumManager) : Prop :=
  ∀ slot other, (manager.resources slot).used = true → (manager.resources other).used = true →
    (manager.resources slot).aruid = (manager.resources other).aruid → slot = other

theorem Registered.ne_zero {manager : ApplicationAlbumManager} {aruid : UInt64}
    (wellFormed : manager.WellFormed) (registered : manager.Registered aruid) : aruid ≠ 0 := by
  rcases registered with ⟨slot, used, rfl⟩
  exact wellFormed.named slot used

theorem AtMostOnce.take {manager : ApplicationAlbumManager} (once : manager.AtMostOnce)
    {aruid : UInt64} (fresh : ¬ manager.Registered aruid) (slot : Fin 4) (key : DrawnKey)
    (applicationId : UInt64) : (manager.take slot key aruid applicationId).AtMostOnce := by
  intro first second firstUsed secondUsed same
  rcases eq_or_ne first slot with rfl | firstOther
  · rcases eq_or_ne second first with rfl | secondOther
    · rfl
    · rw [take_resources_of_ne secondOther] at secondUsed same
      rw [take_resources_same] at same
      exact absurd ⟨second, secondUsed, same.symm⟩ fresh
  · rw [take_resources_of_ne firstOther] at firstUsed same
    rcases eq_or_ne second slot with rfl | secondOther
    · rw [take_resources_same] at same
      exact absurd ⟨first, firstUsed, same⟩ fresh
    · rw [take_resources_of_ne secondOther] at secondUsed same
      exact once first second firstUsed secondUsed same

end ApplicationAlbumManager

section

variable (ciphers : ApplicationCiphers) (settings : AlbumSettings)

/-- A request that registers an applet which is registered already. -/
def RegistersAgain (manager : ApplicationAlbumManager) : ApplicationRequest → Prop
  | .register _ aruid _ => manager.Registered aruid
  | _ => False

/-- A request that leaves every applet with one slot, and that is refused if it
asks for a second one. -/
structure KeepsOneRegistration (manager : ApplicationAlbumManager)
    (request : ApplicationRequest) : Prop where
  once : (request.perform ciphers settings manager).2.AtMostOnce
  refused : RegistersAgain manager request →
    request.perform ciphers settings manager = (some controlAlreadyOpen.result, manager)

variable {manager : ApplicationAlbumManager}

theorem perform_atMostOnce (wellFormed : manager.WellFormed) (once : manager.AtMostOnce)
    {request : ApplicationRequest} (first : ¬ RegistersAgain manager request) :
    (request.perform ciphers settings manager).2.AtMostOnce := by
  cases request with
  | register key aruid applicationId =>
      rcases register_cases wellFormed key aruid applicationId with
        ⟨-, registered⟩ | ⟨-, -, registered⟩ | ⟨slot, -, -, registered⟩
      · simpa only [ApplicationRequest.perform, registered] using once
      · simpa only [ApplicationRequest.perform, registered] using once
      · simpa only [ApplicationRequest.perform, registered] using
          once.take first slot key applicationId
  | unregister aruid applicationId =>
      simpa only [ApplicationRequest.perform, unregisterAppletResourceUserId_eq] using once
  | lookup query =>
      simpa only [ApplicationRequest.perform, ApplicationLookup.manager_eq] using once
  | exit =>
      simp only [ApplicationRequest.perform, exit_eq_constructed wellFormed]
      intro slot other used
      cases used

/-- Registering again is never refused as such: the code looks for the applet in
the slots that are not used. -/
theorem keepsOneRegistration_iff (wellFormed : manager.WellFormed) (once : manager.AtMostOnce)
    (request : ApplicationRequest) :
    KeepsOneRegistration ciphers settings manager request ↔ ¬ RegistersAgain manager request := by
  constructor
  · intro keeps again
    have refused := keeps.refused again
    cases request with
    | register key aruid applicationId =>
        have limit : controlResourceLimit.result ≠ controlAlreadyOpen.result := by decide
        have success : Result.success ≠ controlAlreadyOpen.result := by decide
        simp only [ApplicationRequest.perform, Prod.mk.injEq, Option.some.injEq] at refused
        rcases register_cases wellFormed key aruid applicationId with
          ⟨-, registered⟩ | ⟨-, zero, -⟩ | ⟨slot, -, -, registered⟩
        · rw [registered] at refused
          exact limit refused.1
        · exact again.ne_zero wellFormed zero
        · rw [registered] at refused
          exact success refused.1
    | _ => exact again
  · intro first
    exact ⟨perform_atMostOnce ciphers settings wellFormed once first, fun again =>
      absurd again first⟩

/-- A run keeps to one registration for each applet exactly when no request of it
registers an applet again. -/
theorem register_keepsOne_iff (requests : List ApplicationRequest) :
    Process.Meets (ApplicationRequest.perform ciphers settings)
        (KeepsOneRegistration ciphers settings) requests constructed ↔
      Process.Meets (ApplicationRequest.perform ciphers settings)
        (fun manager request => ¬ RegistersAgain manager request) requests constructed := by
  have agree : ∀ manager request, manager.WellFormed ∧ manager.AtMostOnce →
      (KeepsOneRegistration ciphers settings manager request ↔
        ¬ RegistersAgain manager request) := by
    rintro manager request ⟨wellFormed, once⟩
    exact keepsOneRegistration_iff ciphers settings wellFormed once request
  have step : ∀ manager (request : ApplicationRequest), manager.WellFormed ∧ manager.AtMostOnce →
      ¬ RegistersAgain manager request →
      (request.perform ciphers settings manager).2.WellFormed ∧
        (request.perform ciphers settings manager).2.AtMostOnce := by
    rintro manager request ⟨wellFormed, once⟩ first
    exact ⟨perform_wellFormed ciphers settings request manager wellFormed,
      perform_atMostOnce ciphers settings wellFormed once first⟩
  exact Process.meets_iff_of_agree agree step
    ⟨wellFormed_constructed, fun _ _ used => by cases used⟩

end

/-- The second registration of an applet takes a second slot. -/
theorem register_not_keepsOne_twice :
    ¬ (∀ (ciphers : ApplicationCiphers) (settings : AlbumSettings)
        (requests : List ApplicationRequest),
      Process.Meets (ApplicationRequest.perform ciphers settings)
        (KeepsOneRegistration ciphers settings) requests constructed) := by
  intro always
  have meets := always identityCiphers .unset [.register drawnKey 5 6, .register drawnKey 5 6]
  have second := (meets.2 (by decide +kernel)).1
  have same := second.once 0 1 (by decide +kernel) (by decide +kernel) (by decide +kernel)
  exact absurd same (by decide)

/-! ## The version -/

namespace ApplicationAlbumManager

section

variable {manager : ApplicationAlbumManager}

/-- In a table of the server version 1 is always accepted. -/
theorem setShimLibraryVersion_accepted (wellFormed : manager.WellFormed) {aruid : UInt64}
    (opened : manager.ownResource (.aruid aruid) ≠ none) :
    (manager.setShimLibraryVersion 1 aruid).1 = .success := by
  rcases Option.ne_none_iff_exists'.mp opened with ⟨slot, found⟩
  simp only [setShimLibraryVersion, withOwnResource, found, rUnless, if_true,
    wellFormed.unversioned slot]
  split <;> rfl

/-- The applet is registered in this slot and in no other. -/
def RegisteredAt (manager : ApplicationAlbumManager) (aruid : UInt64) (slot : Fin 4) : Prop :=
  ∀ other, (manager.resources other).used = true ∧ (manager.resources other).aruid = aruid ↔
    other = slot

theorem ownResource_of_registeredAt (wellFormed : manager.WellFormed) {aruid : UInt64}
    {slot : Fin 4} (registered : manager.RegisteredAt aruid slot) :
    manager.ownResource (.aruid aruid) = some slot := by
  rcases (registered slot).mpr rfl with ⟨used, named⟩
  have owns : ResourceId.owns (.aruid aruid) (manager.resources slot) = true :=
    decide_eq_true named
  have some : (manager.ownResource (.aruid aruid)).isSome :=
    Fin.isSome_find?_iff.mpr ⟨slot, owns⟩
  rcases Option.isSome_iff_exists.mp some with ⟨first, found⟩
  have nonzero : ResourceId.value (.aruid aruid) ≠ 0 := by
    rw [← named]
    exact wellFormed.named slot used
  have usedFirst := (ownResource_used_iff wellFormed _).mpr (.inl nonzero) first found
  have namedFirst := of_decide_eq_true (Fin.find?_eq_some_iff.mp found).1
  rw [← (registered first).mp ⟨usedFirst, namedFirst⟩]
  exact found

end

end ApplicationAlbumManager

/-- The request ends what was agreed on with an applet. -/
def ApplicationRequest.Ends (aruid : UInt64) : ApplicationRequest → Prop
  | unregister other _ => other = aruid
  | exit => True
  | _ => False

/-- Every entry of the applet is encoded and decoded with version 1. -/
def UsesV1 (manager : ApplicationAlbumManager) (aruid : UInt64) : Prop :=
  ∀ query : ApplicationLookup, query.usesCodec = true →
    ∀ slot, query.decidedBy manager = some slot → (manager.resources slot).aruid = aruid →
      (manager.resources slot).codec = .v1

/-- Setting the version of an applet to 1 has an effect until the registration
ends, on its slot only, and no other version can be set. -/
structure VersionSticks (ciphers : ApplicationCiphers) (settings : AlbumSettings)
    (manager : ApplicationAlbumManager) (aruid : UInt64) (slot : Fin 4) : Prop where
  kept : (manager.setShimLibraryVersion 1 aruid).1 = .success →
    ∀ requests : List ApplicationRequest, (∀ request ∈ requests, ¬ request.Ends aruid) →
      UsesV1 (Process.run (ApplicationRequest.perform ciphers settings) requests
        (manager.setShimLibraryVersion 1 aruid).2).2 aruid
  others : ∀ other ≠ slot, ((manager.setShimLibraryVersion 1 aruid).2.resources other).version =
    (manager.resources other).version
  refused : ∀ version ≠ 1, (manager.setShimLibraryVersion version aruid).1 ≠ .success ∧
    (manager.setShimLibraryVersion version aruid).2 = manager

/-- The version is accepted and forgotten, for every applet in every table. -/
theorem setShimLibraryVersion_not_sticks (ciphers : ApplicationCiphers) (settings : AlbumSettings)
    (requests : List ApplicationRequest) (aruid : UInt64) (slot : Fin 4)
    (registered : (after ciphers settings requests).RegisteredAt aruid slot) :
    ¬ VersionSticks ciphers settings (after ciphers settings requests) aruid slot := by
  have wellFormed := wellFormed_after ciphers settings requests
  generalize after ciphers settings requests = manager at registered wellFormed ⊢
  have found := ownResource_of_registeredAt wellFormed registered
  intro sticks
  have accepted := setShimLibraryVersion_accepted wellFormed (by rw [found]; simp)
  have uses := sticks.kept accepted [] fun _ member => by cases member
  rw [setShimLibraryVersion_manager] at uses
  have codec : (manager.resources slot).codec = .v1 :=
    uses (.encryptAaeBuffer [] aruid) rfl slot found ((registered slot).mpr rfl).2
  rw [ApplicationResource.codec, wellFormed.unversioned slot, if_pos rfl] at codec
  cases codec

/-- The requests of an application that has registered. -/
def registeringRequests : List ApplicationRequest :=
  [.register drawnKey 5 savedScreenshot.applicationId]

theorem setShimLibraryVersion_not_sticks_registered :
    ¬ VersionSticks identityCiphers .unset (after identityCiphers .unset registeringRequests) 5
      0 :=
  setShimLibraryVersion_not_sticks identityCiphers .unset registeringRequests 5 0 (by
    unfold RegisteredAt
    decide +kernel)

theorem setShimLibraryVersion_not_always_sticks :
    ¬ (∀ (ciphers : ApplicationCiphers) (settings : AlbumSettings)
        (requests : List ApplicationRequest) (aruid : UInt64) (slot : Fin 4),
      (after ciphers settings requests).RegisteredAt aruid slot →
      VersionSticks ciphers settings (after ciphers settings requests) aruid slot) := by
  intro always
  have sticks := always identityCiphers .unset registeringRequests 5 0 (by
    unfold RegisteredAt
    decide +kernel)
  have codec := sticks.kept (by decide +kernel) [] (fun _ member => by cases member)
    (.encryptAaeBuffer [] 5) rfl 0 (by decide +kernel) (by decide +kernel)
  exact absurd codec (by decide +kernel)

/-! ## Unregistering -/

/-- The table, and beside it what the applets have asked for: those that are
registered, and those that have been unregistered since. -/
structure RegistrationHistory where
  manager : ApplicationAlbumManager
  live : Finset UInt64
  released : Finset UInt64

namespace RegistrationHistory

def initial : RegistrationHistory :=
  ⟨constructed, ∅, ∅⟩

/-- A request in the history. -/
def note (result : Option Result) (history : RegistrationHistory) :
    ApplicationRequest → RegistrationHistory
  | .register _ aruid _ =>
      if result = some .success then
        { history with
          live := insert aruid history.live
          released := history.released.erase aruid }
      else history
  | .unregister aruid _ =>
      { history with
        live := history.live.erase aruid
        released := insert aruid history.released }
  | .lookup _ => history
  | .exit => { history with live := ∅, released := ∅ }

end RegistrationHistory

def ApplicationRequest.track (ciphers : ApplicationCiphers) (settings : AlbumSettings)
    (request : ApplicationRequest) : Process RegistrationHistory Result := fun history =>
  let performed := request.perform ciphers settings history.manager
  (performed.1, { history.note performed.1 request with manager := performed.2 })

section

variable (ciphers : ApplicationCiphers) (settings : AlbumSettings)

/-- Who has unregistered gets no answer, and a registration runs out of slots
only if four applets are registered. -/
structure Releases (history : RegistrationHistory) : Prop where
  silent : ∀ aruid ∈ history.released, ∀ query : ApplicationLookup,
    query.resourceId = .aruid aruid → query.result ciphers settings history.manager ≠ .success
  room : ∀ key aruid applicationId, aruid ≠ 0 → aruid ∉ history.live →
    (history.manager.registerAppletResourceUserId key aruid applicationId).1 =
      controlResourceLimit.result →
    4 ≤ history.live.card

/-- A request that releases nothing there is to release, and that does not take
the last slot when an applet has a second one then. -/
def SparesSlots (manager : ApplicationAlbumManager) : ApplicationRequest → Prop
  | .unregister aruid _ => ∀ slot, (manager.resources slot).aruid ≠ aruid
  | .register _ aruid _ => aruid ≠ 0 → ∀ slot, (manager.resources slot).used = false →
      (∀ other ≠ slot, (manager.resources other).used = true) →
      Function.Injective
        (Function.update (fun other => (manager.resources other).aruid) slot aruid)
  | _ => True

/-- The history agrees with the table. -/
structure Accounted (history : RegistrationHistory) : Prop where
  wellFormed : history.manager.WellFormed
  live : ∀ aruid, aruid ∈ history.live ↔ history.manager.Registered aruid
  released : ∀ aruid ∈ history.released, ∀ slot, (history.manager.resources slot).aruid ≠ aruid
  different : history.manager.Full →
    Function.Injective fun slot => (history.manager.resources slot).aruid

theorem accounted_initial : Accounted .initial where
  wellFormed := wellFormed_constructed
  live aruid := by
    apply iff_of_false (Finset.notMem_empty aruid)
    rintro ⟨_, used, _⟩
    cases used
  released _ member := absurd member (Finset.notMem_empty _)
  different full := by cases full 0

variable {history : RegistrationHistory}

/-- The applets of a full table. -/
theorem live_eq_image {manager : ApplicationAlbumManager} {live : Finset UInt64}
    (agrees : ∀ aruid, aruid ∈ live ↔ manager.Registered aruid) (full : manager.Full) :
    live = Finset.univ.image fun slot => (manager.resources slot).aruid := by
  ext aruid
  rw [agrees, Finset.mem_image]
  constructor
  · rintro ⟨slot, -, named⟩
    exact ⟨slot, Finset.mem_univ slot, named⟩
  · rintro ⟨slot, -, named⟩
    exact ⟨slot, full slot, named⟩

theorem Accounted.releases (accounted : Accounted history) :
    Releases ciphers settings history where
  silent aruid member query named := by
    have closed : controlNotOpened.result ≠ .success := by decide
    have missing : query.decidedBy history.manager = none := by
      rw [ApplicationLookup.decidedBy, named]
      refine Fin.find?_eq_none_iff.mpr fun slot => ?_
      exact decide_eq_false (accounted.released aruid member slot)
    rw [(ApplicationLookup.result_eq_notOpened_iff ciphers settings _ query).mpr missing]
    exact closed
  room key aruid applicationId nonzero _ limited := by
    have success : Result.success ≠ controlResourceLimit.result := by decide
    rcases register_cases accounted.wellFormed key aruid applicationId with
      ⟨full, -⟩ | ⟨-, zero, -⟩ | ⟨slot, -, -, registered⟩
    · rw [live_eq_image accounted.live full,
        Finset.card_image_of_injective _ (accounted.different full)]
      exact le_of_eq (Finset.card_fin 4).symm
    · exact absurd zero nonzero
    · rw [registered] at limited
      exact absurd limited success

/-! ### What a request does to the history -/

section

variable {slot : Fin 4} {key : DrawnKey} {aruid applicationId : UInt64}

theorem registered_take_iff {manager : ApplicationAlbumManager} (first : manager.FirstFree slot)
    (other : UInt64) :
    (manager.take slot key aruid applicationId).Registered other ↔
      other = aruid ∨ manager.Registered other := by
  constructor
  · rintro ⟨holder, used, named⟩
    rcases eq_or_ne holder slot with rfl | different
    · rw [take_resources_same] at named
      exact .inl named.symm
    · rw [take_resources_of_ne different] at used named
      exact .inr ⟨holder, used, named⟩
  · rintro (rfl | ⟨holder, used, named⟩)
    · exact ⟨slot, by rw [take_resources_same], by rw [take_resources_same]⟩
    · have different : holder ≠ slot := by
        rintro rfl
        rw [first.free] at used
        cases used
      rw [← take_resources_of_ne different key aruid applicationId] at used named
      exact ⟨holder, used, named⟩

theorem aruid_take (manager : ApplicationAlbumManager) (slot : Fin 4) (key : DrawnKey)
    (aruid applicationId : UInt64) :
    (fun other => ((manager.take slot key aruid applicationId).resources other).aruid) =
      Function.update (fun other => (manager.resources other).aruid) slot aruid := by
  funext other
  rcases eq_or_ne other slot with rfl | different
  · rw [take_resources_same, Function.update_self]
  · rw [take_resources_of_ne different, Function.update_of_ne different]

theorem Full.of_take {manager : ApplicationAlbumManager}
    (full : (manager.take slot key aruid applicationId).Full) (other : Fin 4)
    (different : other ≠ slot) : (manager.resources other).used = true := by
  rw [← take_resources_of_ne different key aruid applicationId]
  exact full other

/-- The history of a registration that got a slot. -/
theorem track_register_taken
    (registered : history.manager.registerAppletResourceUserId key aruid applicationId =
      (.success, history.manager.take slot key aruid applicationId)) :
    (ApplicationRequest.track ciphers settings (.register key aruid applicationId) history).2 =
      { manager := history.manager.take slot key aruid applicationId
        live := insert aruid history.live
        released := history.released.erase aruid } := by
  simp only [ApplicationRequest.track, ApplicationRequest.perform, registered,
    RegistrationHistory.note, if_true]

/-- The history of a registration that got none. -/
theorem track_register_refused {result : Result} (failed : result ≠ .success)
    (registered : history.manager.registerAppletResourceUserId key aruid applicationId =
      (result, history.manager)) :
    (ApplicationRequest.track ciphers settings (.register key aruid applicationId) history).2 =
      history := by
  simp only [ApplicationRequest.track, ApplicationRequest.perform, registered,
    RegistrationHistory.note, Option.some.injEq, failed, if_false]

theorem track_unregister :
    (ApplicationRequest.track ciphers settings (.unregister aruid applicationId) history).2 =
      { history with
        live := history.live.erase aruid
        released := insert aruid history.released } := by
  simp only [ApplicationRequest.track, ApplicationRequest.perform,
    unregisterAppletResourceUserId_eq, RegistrationHistory.note]

theorem track_lookup (query : ApplicationLookup) :
    (ApplicationRequest.track ciphers settings (.lookup query) history).2 = history := by
  simp only [ApplicationRequest.track, ApplicationRequest.perform, ApplicationLookup.manager_eq,
    RegistrationHistory.note]

theorem track_exit (wellFormed : history.manager.WellFormed) :
    (ApplicationRequest.track ciphers settings .exit history).2 = .initial := by
  simp only [ApplicationRequest.track, ApplicationRequest.perform,
    exit_eq_constructed wellFormed, RegistrationHistory.note, RegistrationHistory.initial]

theorem Accounted.take (accounted : Accounted history)
    (first : history.manager.FirstFree slot) (nonzero : aruid ≠ 0)
    (spares : SparesSlots history.manager (.register key aruid applicationId)) :
    Accounted
      { manager := history.manager.take slot key aruid applicationId
        live := insert aruid history.live
        released := history.released.erase aruid } where
  wellFormed := accounted.wellFormed.take first key nonzero applicationId
  live other := by
    rw [Finset.mem_insert, accounted.live, registered_take_iff first]
  released other member holder := by
    rcases Finset.mem_erase.mp member with ⟨different, member⟩
    change ((history.manager.take slot key aruid applicationId).resources holder).aruid ≠ other
    rcases eq_or_ne holder slot with rfl | elsewhere
    · rw [take_resources_same]
      exact different.symm
    · rw [take_resources_of_ne elsewhere]
      exact accounted.released other member holder
  different full := by
    change Function.Injective
      fun other => ((history.manager.take slot key aruid applicationId).resources other).aruid
    rw [aruid_take history.manager]
    exact spares nonzero slot first.free (Full.of_take full)

theorem Accounted.release (accounted : Accounted history)
    (unheld : ∀ slot, (history.manager.resources slot).aruid ≠ aruid) :
    Accounted
      { history with
        live := history.live.erase aruid
        released := insert aruid history.released } where
  wellFormed := accounted.wellFormed
  live other := by
    rw [Finset.mem_erase, accounted.live, and_iff_right_iff_imp]
    rintro ⟨slot, -, named⟩ rfl
    exact unheld slot named
  released other member := by
    rcases Finset.mem_insert.mp member with rfl | member
    · exact unheld
    · exact accounted.released other member
  different := accounted.different

end

/-- A request that spares the slots keeps the history in agreement. -/
theorem accounted_track (accounted : Accounted history) {request : ApplicationRequest}
    (spares : SparesSlots history.manager request) :
    Accounted (request.track ciphers settings history).2 := by
  cases request with
  | register key aruid applicationId =>
      rcases register_cases accounted.wellFormed key aruid applicationId with
        ⟨-, registered⟩ | ⟨-, -, registered⟩ | ⟨slot, first, nonzero, registered⟩
      · rw [track_register_refused ciphers settings (by decide) registered]
        exact accounted
      · rw [track_register_refused ciphers settings (by decide) registered]
        exact accounted
      · rw [track_register_taken ciphers settings registered]
        exact accounted.take first nonzero spares
  | unregister aruid applicationId =>
      rw [track_unregister]
      exact accounted.release spares
  | lookup query =>
      rw [track_lookup]
      exact accounted
  | exit =>
      rw [track_exit ciphers settings accounted.wellFormed]
      exact accounted_initial

/-! ### What the history shows -/

/-- There is an applet that a full table does not hold. -/
theorem exists_unregistered {live : Finset UInt64} (few : live.card ≤ 4) :
    ∃ aruid, aruid ≠ 0 ∧ aruid ∉ live := by
  have more : (insert 0 live).card < ({0, 1, 2, 3, 4, 5} : Finset UInt64).card := by
    have bound := Finset.card_insert_le 0 live
    have six : ({0, 1, 2, 3, 4, 5} : Finset UInt64).card = 6 := by decide
    omega
  rcases Finset.exists_mem_notMem_of_card_lt_card more with ⟨aruid, -, fresh⟩
  rw [Finset.mem_insert, not_or] at fresh
  exact ⟨aruid, fresh⟩

/-- A full table with room for four applets holds four. -/
theorem injective_of_room {history : RegistrationHistory}
    (wellFormed : history.manager.WellFormed)
    (agrees : ∀ aruid, aruid ∈ history.live ↔ history.manager.Registered aruid)
    (full : history.manager.Full) (releases : Releases ciphers settings history) :
    Function.Injective fun slot => (history.manager.resources slot).aruid := by
  have image := live_eq_image agrees full
  have few : history.live.card ≤ 4 := by
    rw [image]
    exact Finset.card_image_le
  rcases exists_unregistered few with ⟨fresh, nonzero, unregistered⟩
  have limited : (history.manager.registerAppletResourceUserId drawnKey fresh 0).1 =
      controlResourceLimit.result := by
    rcases register_cases wellFormed drawnKey fresh 0 with
      ⟨-, registered⟩ | ⟨notFull, -, -⟩ | ⟨slot, first, -, -⟩
    · rw [registered]
    · exact absurd full notFull
    · have used := full slot
      rw [first.free] at used
      cases used
  have four := releases.room drawnKey fresh 0 nonzero unregistered limited
  rw [image] at four
  have injective := Finset.injOn_of_card_image_eq
    (le_antisymm Finset.card_image_le (le_of_eq_of_le (Finset.card_fin 4) four))
  rwa [Finset.coe_univ, Set.injOn_univ] at injective

theorem sparesSlots_of_releases (accounted : Accounted history) {request : ApplicationRequest}
    (releases : Releases ciphers settings (request.track ciphers settings history).2) :
    SparesSlots history.manager request := by
  cases request with
  | register key aruid applicationId =>
      intro nonzero slot free others
      rcases register_cases accounted.wellFormed key aruid applicationId with
        ⟨full, -⟩ | ⟨-, zero, -⟩ | ⟨taken, first, -, registered⟩
      · have used := full slot
        rw [free] at used
        cases used
      · exact absurd zero nonzero
      · have same : taken = slot := by
          by_contra different
          have used := others taken different
          rw [first.free] at used
          cases used
        subst same
        rw [track_register_taken ciphers settings registered] at releases
        have full : (history.manager.take taken key aruid applicationId).Full := by
          intro other
          rcases eq_or_ne other taken with rfl | different
          · rw [take_resources_same]
          · rw [take_resources_of_ne different]
            exact others other different
        rw [← aruid_take history.manager taken key aruid applicationId]
        refine injective_of_room ciphers settings
          (accounted.wellFormed.take first key nonzero applicationId) (fun other => ?_) full
          releases
        rw [Finset.mem_insert, accounted.live, registered_take_iff first]
  | unregister aruid applicationId =>
      intro slot named
      rw [track_unregister] at releases
      refine releases.silent aruid (Finset.mem_insert_self aruid _)
        (.getApplicationIdFromAruid 0 aruid) rfl ?_
      have owns : ResourceId.owns (.aruid aruid) (history.manager.resources slot) = true :=
        decide_eq_true named
      have some : (history.manager.ownResource (.aruid aruid)).isSome :=
        Fin.isSome_find?_iff.mpr ⟨slot, owns⟩
      rcases Option.isSome_iff_exists.mp some with ⟨first, found⟩
      simp only [ApplicationLookup.result, getApplicationIdFromAruid, withOwnResource, found]
  | lookup query => trivial
  | exit => trivial

/-- Unregistering releases a slot in every state of a run exactly when it never
has one to release and no applet gets hold of the last slot twice: the code
clears a copy of the slot. -/
theorem unregister_releases_iff (requests : List ApplicationRequest) :
    (∀ count, Releases ciphers settings
        (Process.run (ApplicationRequest.track ciphers settings) (requests.take count)
          .initial).2) ↔
      Process.Meets (ApplicationRequest.track ciphers settings)
        (fun history request => SparesSlots history.manager request) requests .initial := by
  have agree : ∀ history (request : ApplicationRequest), Accounted history →
      (Releases ciphers settings (request.track ciphers settings history).2 ↔
        SparesSlots history.manager request) := by
    intro history request accounted
    constructor
    · exact sparesSlots_of_releases ciphers settings accounted
    · intro spares
      exact (accounted_track ciphers settings accounted spares).releases ciphers settings
  have step : ∀ history (request : ApplicationRequest), Accounted history →
      SparesSlots history.manager request →
      Accounted (request.track ciphers settings history).2 := by
    intro history request accounted spares
    exact accounted_track ciphers settings accounted spares
  rw [Process.forall_run_take_iff, Process.meets_iff_of_agree agree step accounted_initial,
    and_iff_right (accounted_initial.releases ciphers settings)]

end

/-- An applet that has unregistered still gets an answer. -/
theorem unregister_not_releases_answered :
    ¬ (∀ (ciphers : ApplicationCiphers) (settings : AlbumSettings)
        (requests : List ApplicationRequest) (count : Nat), Releases ciphers settings
      (Process.run (ApplicationRequest.track ciphers settings) (requests.take count)
        .initial).2) := by
  intro always
  have releases := always identityCiphers .unset [.register drawnKey 5 6, .unregister 5 6] 2
  refine releases.silent 5 ?_ (.getApplicationIdFromAruid 0 5) rfl ?_
  · decide +kernel
  · decide +kernel

end Capsrv
