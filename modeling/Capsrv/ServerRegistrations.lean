import Capsrv.Application.Registration
import Capsrv.ServerObjects

/-! # The registrations of a server

Seen from its clients, the table of applications is a list of at most four
registrations that only grows: nothing takes a registration out, and all entries are
those of version 0.
-/

namespace Capsrv

open Server Process ApplicationAlbumManager

/-! ## Lists of registrations -/

structure Registration where
  key : DrawnKey
  aruid : UInt64
  applicationId : UInt64

def Registration.resource (registration : Registration) : ApplicationResource :=
  ⟨true, registration.aruid, registration.applicationId, 0, registration.key.key⟩

/-- The applications that have been let in, the first one first. -/
structure RegistrationList where
  entries : List Registration
  few : entries.length ≤ 4
  named : ∀ entry ∈ entries, entry.aruid ≠ 0

namespace RegistrationList

def empty : RegistrationList :=
  ⟨[], Nat.zero_le 4, nofun⟩

/-- Who has a name is let in as long as there is room. -/
def register (registration : Registration) (list : RegistrationList) :
    Result × RegistrationList :=
  if room : list.entries.length < 4 then
    if name : registration.aruid ≠ 0 then
      (.success, {
        entries := list.entries ++ [registration]
        few := by
          rw [List.length_append]
          exact room
        named := by
          intro entry member
          rcases List.mem_append.mp member with earlier | last
          · exact list.named entry earlier
          · rwa [List.mem_singleton.mp last] })
    else (controlAlreadyOpen.result, list)
  else (controlResourceLimit.result, list)

/-- The first registration with an id. As long as there is room, somebody without a
name or a key has the id zero. -/
def owner (resourceId : ResourceId) (list : RegistrationList) : Option ApplicationResource :=
  match list.entries.find? fun entry => resourceId.owns entry.resource with
  | some entry => some entry.resource
  | none => if resourceId.value = 0 ∧ list.entries.length < 4 then some .empty else none

/-- The table with these registrations. -/
def table (list : RegistrationList) : ApplicationAlbumManager :=
  ⟨fun slot => (list.entries[slot.val]?).elim .empty Registration.resource⟩

/-! ## The table of a list -/

section

variable (list : RegistrationList) (slot : Fin 4)

theorem table_resources :
    list.table.resources slot = (list.entries[slot.val]?).elim .empty Registration.resource := rfl

theorem table_resources_of_lt (inside : slot.val < list.entries.length) :
    list.table.resources slot = list.entries[slot.val].resource := by
  rw [table_resources, List.getElem?_eq_getElem inside]
  rfl

theorem table_resources_of_ge (outside : list.entries.length ≤ slot.val) :
    list.table.resources slot = .empty := by
  rw [table_resources, List.getElem?_eq_none outside]
  rfl

theorem table_used_iff :
    (list.table.resources slot).used = true ↔ slot.val < list.entries.length := by
  rcases Nat.lt_or_ge slot.val list.entries.length with inside | outside
  · rw [table_resources_of_lt list slot inside]
    exact iff_of_true rfl inside
  · rw [table_resources_of_ge list slot outside]
    exact iff_of_false nofun (Nat.not_lt.mpr outside)

theorem wellFormed_table : list.table.WellFormed where
  free slot free := by
    apply table_resources_of_ge
    apply Nat.not_lt.mp
    rw [← table_used_iff, free]
    decide
  named slot used := by
    have inside := (table_used_iff list slot).mp used
    rw [table_resources_of_lt list slot inside]
    exact list.named _ (List.getElem_mem inside)
  front slot other smaller used := by
    rw [table_used_iff] at used ⊢
    exact Nat.lt_of_le_of_lt smaller used
  unversioned slot := by
    rcases Nat.lt_or_ge slot.val list.entries.length with inside | outside
    · rw [table_resources_of_lt list slot inside]
      rfl
    · rw [table_resources_of_ge list slot outside]
      rfl

theorem full_table_iff : list.table.Full ↔ ¬ list.entries.length < 4 := by
  constructor
  · intro full room
    exact Nat.lt_irrefl _ ((table_used_iff list ⟨list.entries.length, room⟩).mp (full _))
  · intro noRoom slot
    have := slot.isLt
    rw [table_used_iff]
    omega

/-- A list that has grown. -/
theorem take_table {longer : RegistrationList} {registration : Registration}
    (grown : longer.entries = list.entries ++ [registration]) {slot : Fin 4}
    (first : list.table.FirstFree slot) :
    list.table.take slot registration.key registration.aruid registration.applicationId =
      longer.table := by
  have free : list.entries.length ≤ slot.val := by
    apply Nat.not_lt.mp
    rw [← table_used_iff, first.free]
    decide
  have last : slot.val = list.entries.length := by
    by_contra different
    have smaller : list.entries.length < slot.val := by omega
    have used := first.before ⟨list.entries.length, smaller.trans slot.isLt⟩ smaller
    rw [table_used_iff] at used
    exact Nat.lt_irrefl _ used
  apply congrArg ApplicationAlbumManager.mk
  funext other
  change (list.table.take slot _ _ _).resources other = longer.table.resources other
  rw [table_resources, grown]
  by_cases same : other = slot
  · rw [same, take_resources_same, last, List.getElem?_concat_length]
    rfl
  · have different : other.val ≠ slot.val := fun equal => same (Fin.ext equal)
    rw [take_resources_of_ne same, table_resources, List.getElem?_append]
    split
    · rfl
    · have short : [registration].length ≤ other.val - list.entries.length := by
        rw [List.length_singleton]
        omega
      rw [List.getElem?_eq_none (by omega), List.getElem?_eq_none short]

end

/-! ## The table does what the list does -/

/-- Registering. -/
theorem register_table (registration : Registration) (list : RegistrationList) :
    list.table.registerAppletResourceUserId registration.key registration.aruid
        registration.applicationId =
      ((list.register registration).1, (list.register registration).2.table) := by
  rw [register]
  rcases register_cases (wellFormed_table list) registration.key registration.aruid
    registration.applicationId with
    ⟨full, registered⟩ | ⟨notFull, zero, registered⟩ | ⟨slot, first, named, registered⟩
  · rw [dif_neg ((full_table_iff list).mp full)]
    exact registered
  · rw [full_table_iff, not_not] at notFull
    rw [dif_pos notFull, dif_neg (not_not.mpr zero)]
    exact registered
  · have notFull : ¬ list.table.Full := by
      intro full
      have used := full slot
      rw [first.free] at used
      cases used
    rw [full_table_iff, not_not] at notFull
    rw [dif_pos notFull, dif_pos named, registered]
    exact Prod.ext rfl (take_table list rfl first)

/-- Looking up. -/
theorem withOwnResource_table {α : Type} (list : RegistrationList) (resourceId : ResourceId)
    (notOpened : α) (body : ApplicationResource → α) :
    list.table.withOwnResource resourceId notOpened body =
      (list.owner resourceId).elim notOpened body := by
  rw [withOwnResource, owner]
  cases found : list.entries.find? fun entry => resourceId.owns entry.resource with
  | some entry =>
      rcases List.find?_eq_some_iff_getElem.mp found with ⟨owns, index, inside, same, before⟩
      let slot : Fin 4 := ⟨index, Nat.lt_of_lt_of_le inside list.few⟩
      have resource : list.table.resources slot = entry.resource := by
        rw [table_resources_of_lt list slot inside, same]
      have own : list.table.ownResource resourceId = some slot := by
        apply Fin.find?_eq_some_iff.mpr
        rw [resource]
        refine ⟨owns, fun other smaller => ?_⟩
        have earlier := before other.val smaller
        rw [table_resources_of_lt list other (Nat.lt_trans smaller inside)]
        simpa using earlier
      simp only [own, resource, Option.elim_some]
  | none =>
      have unowned := List.find?_eq_none.mp found
      have used : ∀ slot : Fin 4, slot.val < list.entries.length →
          resourceId.owns (list.table.resources slot) = false := by
        intro slot inside
        rw [table_resources_of_lt list slot inside]
        simpa using unowned _ (List.getElem_mem inside)
      by_cases unnamed : resourceId.value = 0 ∧ list.entries.length < 4
      · let slot : Fin 4 := ⟨list.entries.length, unnamed.2⟩
        have resource : list.table.resources slot = .empty :=
          table_resources_of_ge list slot (Nat.le_refl _)
        have own : list.table.ownResource resourceId = some slot := by
          apply Fin.find?_eq_some_iff.mpr
          rw [resource]
          exact ⟨ResourceId.owns_empty unnamed.1, fun other smaller => used other smaller⟩
        simp only [own, resource, if_pos unnamed, Option.elim_some]
      · have own : list.table.ownResource resourceId = none := by
          apply Fin.find?_eq_none_iff.mpr
          intro slot
          rcases Nat.lt_or_ge slot.val list.entries.length with inside | outside
          · exact used slot inside
          · rw [table_resources_of_ge list slot outside, Bool.eq_false_iff]
            intro owns
            have bound := slot.isLt
            exact unnamed ⟨ResourceId.value_eq_zero_of_owns_empty owns, by omega⟩
        simp only [own, if_neg unnamed, Option.elim_none]

end RegistrationList

/-! ## What clients are answered -/

/-- An entry is read with the key of a registration, and has to be one of its
application. -/
def ApplicationResource.readEntry (ciphers : ApplicationCiphers) (appEntry : ApplicationAlbumEntry)
    (res : ApplicationResource) : Reply :=
  let entry := decryptV0 (ciphers.aes256 res.key) appEntry
  if entry.fileId.applicationId = res.applicationId then .ok (.entry entry)
  else .error albumInvalidApplicationId.result

namespace RegistrationList

/-- The reply of whom an id belongs to. -/
def reply (resourceId : ResourceId) (list : RegistrationList)
    (body : ApplicationResource → Reply) : Reply :=
  (list.owner resourceId).elim (.error controlNotOpened.result) body

def setShimLibraryVersion (version aruid : UInt64) (list : RegistrationList) : Reply :=
  list.reply (.aruid aruid) fun _ =>
    if version = 1 then .ok .nothing else .error albumOutOfRange.result

/-- What the list answers to a command, if it is one about registrations, and the
list behind it. -/
def serve (ciphers : ApplicationCiphers) (list : RegistrationList) :
    ServerCommand → Option Reply × RegistrationList
  | .control (.registerAppletResourceUserId key aruid applicationId) =>
      let registered := list.register ⟨key, aruid, applicationId⟩
      (some (rTry registered.1 .error (.ok .nothing)), registered.2)
  | .control (.unregisterAppletResourceUserId _ _) => (some (.ok .nothing), list)
  | .control (.getApplicationIdFromAruid aruid) =>
      (some (list.reply (.aruid aruid) fun res => .ok (.number res.applicationId)), list)
  | .control (.checkApplicationIdRegistered applicationId) =>
      (some (list.reply (.applicationId applicationId) fun _ => .ok .nothing), list)
  | .control (.setShimLibraryVersion version aruid) =>
      (some (list.setShimLibraryVersion version aruid), list)
  | .application (.setShimLibraryVersion version aruid) =>
      (some (list.setShimLibraryVersion version aruid), list)
  | .control (.generateApplicationAlbumEntry _ _ entry applicationId) =>
      (some (list.reply (.applicationId applicationId) fun res =>
        .ok (.applicationEntry (encryptV0 (ciphers.aes256 res.key) entry))), list)
  | .accessor (.getAlbumEntryFromApplicationAlbumEntry _ _ appEntry applicationId) =>
      (some (list.reply (.applicationId applicationId) (·.readEntry ciphers appEntry)), list)
  | .accessor (.getAlbumEntryFromApplicationAlbumEntryAruid _ _ appEntry aruid) =>
      (some (list.reply (.aruid aruid) (·.readEntry ciphers appEntry)), list)
  | _ => (none, list)

/-- The same of a message. -/
def serveMessage (environment : Environment) (list : RegistrationList) (message : ServerMessage) :
    Option Reply × RegistrationList :=
  match message.dispatch environment with
  | .refused _ => (none, list)
  | .malformed _ => (none, list)
  | .called command => list.serve environment.ciphers command

/-- The list behind some messages. -/
def after (environment : Environment) (messages : List ServerMessage) (list : RegistrationList) :
    RegistrationList :=
  messages.foldl (fun list message => (list.serveMessage environment message).2) list

end RegistrationList

/-! ## The server answers what the list answers -/

section

variable {α : Type} (server : Server)

/-- A call on the table of applications whose outputs are written. -/
theorem answer_applications (output : α → Output)
    (call : ApplicationAlbumManager → (Result × α) × ApplicationAlbumManager) :
    (applicationsPart.focus (Process.returning call) >>= answer output) server =
      (some (rTry (call server.applications).1.1 .error
        (.ok (output (call server.applications).1.2))),
        { server with applications := (call server.applications).2 }) := by
  rw [funext (answer_eq output)]
  rfl

/-- A call on the table of applications without outputs. -/
theorem answerResult_applications
    (call : ApplicationAlbumManager → Result × ApplicationAlbumManager) :
    (applicationsPart.focus (Process.returning call) >>= answerResult) server =
      (some (rTry (call server.applications).1 .error (.ok .nothing)),
        { server with applications := (call server.applications).2 }) := by
  have replies : answerResult = fun rc => pure (rTry rc .error (.ok .nothing)) :=
    funext fun rc => answer_eq _ (rc, ())
  rw [replies]
  rfl

end

namespace RegistrationList

theorem version_of_owner {list : RegistrationList} {resourceId : ResourceId}
    {res : ApplicationResource} (owned : list.owner resourceId = some res) : res.version = 0 := by
  rw [owner] at owned
  split at owned
  · cases owned
    rfl
  · split at owned
    · cases owned
      rfl
    · cases owned

/-- A lookup in the table is answered like one in the list. -/
theorem toReply_lookup {α : Type} (list : RegistrationList) (resourceId : ResourceId)
    (toReply : α → Reply) {notOpened : α} {body : ApplicationResource → α}
    {expected : ApplicationResource → Reply}
    (refused : toReply notOpened = .error controlNotOpened.result)
    (found : ∀ res, res.version = 0 → toReply (body res) = expected res) :
    toReply (list.table.withOwnResource resourceId notOpened body) =
      list.reply resourceId expected := by
  rw [withOwnResource_table, reply]
  cases owned : list.owner resourceId with
  | none => exact refused
  | some res => exact found res (version_of_owner owned)

theorem toReply_setShimLibraryVersion (list : RegistrationList) (version aruid : UInt64) :
    rTry (list.table.setShimLibraryVersion version aruid).1 .error (.ok .nothing) =
      list.setShimLibraryVersion version aruid := by
  apply list.toReply_lookup (.aruid aruid) fun outcome : Result × ApplicationAlbumManager =>
    rTry outcome.1 .error (.ok .nothing)
  · rfl
  · intro res unversioned
    by_cases one : version = 1
    · subst one
      rw [unversioned]
      rfl
    · rw [rUnless, if_neg one, if_neg one]
      rfl

theorem toReply_getAlbumEntryImpl (ciphers : ApplicationCiphers) (settings : AlbumSettings)
    (temporary out : AlbumEntry) (appEntry : ApplicationAlbumEntry) {res : ApplicationResource}
    (unversioned : res.version = 0) :
    rTry (getAlbumEntryImpl ciphers settings temporary out appEntry res).1 .error
        (.ok (.entry (getAlbumEntryImpl ciphers settings temporary out appEntry res).2)) =
      res.readEntry ciphers appEntry := by
  have codec : res.codec = .v0 := if_pos unversioned
  simp only [getAlbumEntryImpl, codec, getAlbumEntryFromApplicationAlbumEntryV0Impl, rUnless,
    ApplicationResource.readEntry]
  split
  · rfl
  · rfl

theorem toReply_getApplicationIdFromAruid (list : RegistrationList) (out aruid : UInt64) :
    rTry (list.table.getApplicationIdFromAruid out aruid).1 .error
        (.ok (.number (list.table.getApplicationIdFromAruid out aruid).2)) =
      list.reply (.aruid aruid) fun res => .ok (.number res.applicationId) :=
  list.toReply_lookup (.aruid aruid) (fun outcome : Result × UInt64 =>
    rTry outcome.1 .error (.ok (.number outcome.2))) rfl fun _ _ => rfl

theorem toReply_checkApplicationIdRegistered (list : RegistrationList) (applicationId : UInt64) :
    rTry (list.table.checkApplicationIdRegistered applicationId) .error (.ok .nothing) =
      list.reply (.applicationId applicationId) fun _ => .ok .nothing :=
  list.toReply_lookup (.applicationId applicationId)
    (fun rc : Result => rTry rc .error (.ok .nothing)) rfl fun _ _ => rfl

theorem toReply_generateApplicationAlbumEntry (list : RegistrationList)
    (ciphers : ApplicationCiphers) (temporary out : ApplicationAlbumEntry) (entry : AlbumEntry)
    (applicationId : UInt64) :
    let outcome := list.table.generateApplicationAlbumEntry ciphers temporary out entry
      applicationId
    rTry outcome.1 .error (.ok (.applicationEntry outcome.2)) =
      list.reply (.applicationId applicationId) fun res =>
        .ok (.applicationEntry (encryptV0 (ciphers.aes256 res.key) entry)) := by
  apply list.toReply_lookup (.applicationId applicationId)
    (fun outcome : Result × ApplicationAlbumEntry =>
      rTry outcome.1 .error (.ok (.applicationEntry outcome.2)))
  · rfl
  · intro res unversioned
    have codec : res.codec = .v0 := if_pos unversioned
    rw [codec]
    rfl

theorem toReply_getAlbumEntryFromApplicationAlbumEntry (list : RegistrationList)
    (ciphers : ApplicationCiphers) (settings : AlbumSettings) (temporary out : AlbumEntry)
    (appEntry : ApplicationAlbumEntry) (applicationId : UInt64) :
    let outcome := list.table.getAlbumEntryFromApplicationAlbumEntry ciphers settings temporary out
      appEntry applicationId
    rTry outcome.1 .error (.ok (.entry outcome.2)) =
      list.reply (.applicationId applicationId) (·.readEntry ciphers appEntry) :=
  list.toReply_lookup (.applicationId applicationId)
    (fun outcome : Result × AlbumEntry => rTry outcome.1 .error (.ok (.entry outcome.2))) rfl
    fun _ unversioned => toReply_getAlbumEntryImpl _ _ _ _ _ unversioned

theorem toReply_getAlbumEntryFromApplicationAlbumEntryAruid (list : RegistrationList)
    (ciphers : ApplicationCiphers) (settings : AlbumSettings) (temporary out : AlbumEntry)
    (appEntry : ApplicationAlbumEntry) (aruid : UInt64) :
    let outcome := list.table.getAlbumEntryFromApplicationAlbumEntryAruid ciphers settings
      temporary out appEntry aruid
    rTry outcome.1 .error (.ok (.entry outcome.2)) =
      list.reply (.aruid aruid) (·.readEntry ciphers appEntry) :=
  list.toReply_lookup (.aruid aruid)
    (fun outcome : Result × AlbumEntry => rTry outcome.1 .error (.ok (.entry outcome.2))) rfl
    fun _ unversioned => toReply_getAlbumEntryImpl _ _ _ _ _ unversioned

end RegistrationList

section

variable {environment : Environment} {list later : RegistrationList} {server next : Server}
  {command : ServerCommand} {expected reply : Reply}

/-- A lookup whose outputs are written. -/
theorem answer_reading {α : Type} (same : server.applications = list.table) {output : α → Output}
    {read : ApplicationAlbumManager → Result × α}
    (answered : rTry (read list.table).1 .error (.ok (output (read list.table).2)) = reply) :
    (applicationsPart.focus (Process.returning fun manager => (read manager, manager)) >>=
      answer output) server = (some reply, { server with applications := list.table }) := by
  rw [answer_applications, same, answered]

theorem perform_setShimLibraryVersion (same : server.applications = list.table)
    (version aruid : UInt64) :
    AlbumControlService.setShimLibraryVersion version aruid server =
      (some (list.setShimLibraryVersion version aruid),
        { server with applications := list.table }) := by
  apply (answerResult_applications server _).trans
  rw [setShimLibraryVersion_manager, same, list.toReply_setShimLibraryVersion]

/-- Nothing is unregistered. -/
theorem perform_unregisterAppletResourceUserId (same : server.applications = list.table)
    (aruid applicationId : UInt64) :
    (ControlCommand.unregisterAppletResourceUserId aruid applicationId).perform environment
      server = (some (.ok .nothing), { server with applications := list.table }) := by
  have kept : (fun manager : ApplicationAlbumManager =>
      manager.unregisterAppletResourceUserId aruid applicationId) = id := by
    funext manager
    exact unregisterAppletResourceUserId_eq aruid applicationId manager
  change (applicationsPart.focus (Process.modify _) >>= fun _ => pure _) server = _
  rw [kept, ← same]
  rfl

theorem performControl_of_serve {command : ControlCommand}
    (same : server.applications = list.table)
    (served : list.serve environment.ciphers (.control command) = (some reply, later)) :
    command.perform environment server =
      (some reply, { server with applications := later.table }) := by
  cases command with
  | setShimLibraryVersion version aruid =>
      cases served
      exact perform_setShimLibraryVersion same version aruid
  | registerAppletResourceUserId key aruid applicationId =>
      cases served
      apply (answerResult_applications server _).trans
      rw [same, RegistrationList.register_table ⟨key, aruid, applicationId⟩ list]
  | unregisterAppletResourceUserId aruid applicationId =>
      cases served
      exact perform_unregisterAppletResourceUserId same aruid applicationId
  | getApplicationIdFromAruid aruid =>
      cases served
      exact answer_reading same (list.toReply_getApplicationIdFromAruid _ aruid)
  | checkApplicationIdRegistered applicationId =>
      cases served
      apply (answerResult_applications server _).trans
      rw [same, list.toReply_checkApplicationIdRegistered]
  | generateApplicationAlbumEntry temporary out entry applicationId =>
      cases served
      exact answer_reading same
        (list.toReply_generateApplicationAlbumEntry _ temporary out entry applicationId)
  | _ => cases served

theorem performAccessor_of_serve {command : AccessorCommand}
    (same : server.applications = list.table)
    (served : list.serve environment.ciphers (.accessor command) = (some reply, later)) :
    command.perform environment server =
      (some reply, { server with applications := later.table }) := by
  cases command with
  | getAlbumEntryFromApplicationAlbumEntry temporary out appEntry applicationId =>
      cases served
      exact answer_reading same (list.toReply_getAlbumEntryFromApplicationAlbumEntry _ _ temporary
        out appEntry applicationId)
  | getAlbumEntryFromApplicationAlbumEntryAruid temporary out appEntry aruid =>
      cases served
      exact answer_reading same (list.toReply_getAlbumEntryFromApplicationAlbumEntryAruid _ _
        temporary out appEntry aruid)
  | _ => cases served

/-- A command about registrations. -/
theorem perform_of_serve (same : server.applications = list.table)
    (served : list.serve environment.ciphers command = (some reply, later)) :
    command.perform environment server =
      (some reply, { server with applications := later.table }) := by
  cases command with
  | control command => exact performControl_of_serve same served
  | accessor command => exact performAccessor_of_serve same served
  | application command =>
      cases command with
      | setShimLibraryVersion version aruid =>
          cases served
          exact perform_setShimLibraryVersion same version aruid
      | _ => cases served

/-- A command about something else. -/
theorem serve_of_object (elsewhere : command.object environment ≠ .applications) :
    list.serve environment.ciphers command = (none, list) := by
  cases command with
  | control command =>
      cases command <;> first | rfl | exact absurd rfl elsewhere
  | accessor command =>
      cases command <;> first | rfl | exact absurd rfl elsewhere
  | application command =>
      cases command <;> first | rfl | exact absurd rfl elsewhere

theorem serve_isSome_of_object (here : command.object environment = .applications) :
    (list.serve environment.ciphers command).1.isSome := by
  have either : ∀ {condition : Prop} [Decidable condition] {first second : Footprint},
      first.region.object ≠ .applications → second.region.object ≠ .applications →
      (if condition then first else second).region.object ≠ .applications := by
    intro condition _ first second holds fails
    split
    · exact holds
    · exact fails
  cases command with
  | control command => cases command <;> first | rfl | cases here
  | accessor command =>
      cases command with
      | getLastOverlayScreenShotThumbnail => exact absurd here (either (by decide) (by decide))
      | getLastOverlayMovieThumbnail => exact absurd here (either (by decide) (by decide))
      | getAlbumCache => exact absurd here (either (by decide) (by decide))
      | loadMakerNoteInfoForDebug =>
          rw [ServerCommand.object, AccessorCommand.footprint] at here
          split at here <;> cases here
      | _ => first | rfl | cases here
  | application command => cases command <;> first | rfl | cases here

/-- A command keeps the table that of the list, and what the list answers to it, the
server answers. -/
theorem perform_table (same : server.applications = list.table)
    (answered : command.perform environment server = (some reply, next)) :
    next.applications = (list.serve environment.ciphers command).2.table ∧
      ∀ expected, (list.serve environment.ciphers command).1 = some expected →
        reply = expected := by
  by_cases here : command.object environment = .applications
  · have isServed : (list.serve environment.ciphers command).1.isSome :=
      serve_isSome_of_object here
    rcases Option.isSome_iff_exists.mp isServed with ⟨expected, served⟩
    have performed := perform_of_serve same (Prod.ext served rfl : list.serve environment.ciphers
      command = (some expected, (list.serve environment.ciphers command).2))
    rw [performed] at answered
    cases answered
    refine ⟨rfl, fun other again => ?_⟩
    exact Option.some.inj (served.symm.trans again)
  · rw [serve_of_object here]
    have frame := command.frame environment server here
    rw [answered] at frame
    refine ⟨frame.trans same, ?_⟩
    intro expected unknown
    cases unknown

/-- A message that is refused leaves the list as it is. -/
theorem performMessage_table {message : ServerMessage} (same : server.applications = list.table)
    (answered : message.perform environment server = (some reply, next)) :
    next.applications = (list.serveMessage environment message).2.table ∧
      ∀ expected, (list.serveMessage environment message).1 = some expected →
        reply = expected := by
  rw [ServerMessage.perform] at answered
  rw [RegistrationList.serveMessage]
  cases dispatched : message.dispatch environment with
  | refused rc =>
      rw [dispatched] at answered
      cases answered
      refine ⟨same, ?_⟩
      intro expected unknown
      cases unknown
  | malformed rc =>
      rw [dispatched] at answered
      cases answered
  | called command =>
      rw [dispatched] at answered
      exact perform_table same answered

end

/-! ## Runs -/

namespace RegistrationList

theorem after_append (environment : Environment) (messages others : List ServerMessage)
    (list : RegistrationList) :
    after environment (messages ++ others) list =
      after environment others (after environment messages list) :=
  List.foldl_append

/-- The registration that a message asks for. -/
def requested (environment : Environment) (message : ServerMessage) : Option Registration :=
  match message.dispatch environment with
  | .called (.control (.registerAppletResourceUserId key aruid applicationId)) =>
      some ⟨key, aruid, applicationId⟩
  | _ => none

theorem serveMessage_snd (environment : Environment) (message : ServerMessage)
    (list : RegistrationList) :
    (list.serveMessage environment message).2 =
      (requested environment message).elim list fun registration =>
        (list.register registration).2 := by
  rw [serveMessage, requested]
  cases message.dispatch environment with
  | refused rc => rfl
  | malformed rc => rfl
  | called command =>
      cases command with
      | control command => cases command <;> rfl
      | accessor command => cases command <;> rfl
      | application command => cases command <;> rfl

theorem register_entries (registration : Registration) (list : RegistrationList)
    (others : List Registration) :
    ((list.register registration).2.entries ++ others).take 4 =
      (list.entries ++ ([registration].filter (·.aruid ≠ 0) ++ others)).take 4 := by
  rw [register]
  split
  · split
    case isTrue named =>
      rw [List.filter_cons_of_pos (by simpa using named), List.append_assoc]
      rfl
    case isFalse unnamed =>
      rw [List.filter_cons_of_neg (by simpa using unnamed)]
      rfl
  case isFalse noRoom =>
    have four : list.entries.length = 4 := by
      have few := list.few
      omega
    rw [List.take_left' four, List.take_left' four]

/-- Those with a name are let in in their order, until there are four. -/
theorem after_entries (environment : Environment) (messages : List ServerMessage)
    (list : RegistrationList) :
    (after environment messages list).entries =
      (list.entries ++ (messages.filterMap (requested environment)).filter (·.aruid ≠ 0)).take
        4 := by
  induction messages generalizing list with
  | nil =>
      rw [List.filterMap_nil, List.filter_nil, List.append_nil, List.take_of_length_le list.few]
      rfl
  | cons message messages induction =>
      change (after environment messages (list.serveMessage environment message).2).entries = _
      rw [induction, serveMessage_snd]
      cases asked : requested environment message with
      | none => rw [List.filterMap_cons_none asked, Option.elim_none]
      | some registration =>
          rw [List.filterMap_cons_some asked, Option.elim_some, register_entries,
            ← List.filter_append, List.singleton_append]

end RegistrationList

section

variable {environment : Environment} {list : RegistrationList} {server reached : Server}
  {history : List (ServerMessage × Reply)}

theorem history_table (same : server.applications = list.table)
    (answered : Answered (ServerMessage.perform environment) server history reached) :
    reached.applications =
      (RegistrationList.after environment (history.map (·.1)) list).table := by
  induction answered with
  | nil => exact same
  | @snoc history before reached message reply earlier answered induction =>
      rw [List.map_append, RegistrationList.after_append]
      exact (performMessage_table induction answered).1

/-- From a table nobody is in: in whatever run, the table is that of the first four
registrations asked for in a name other than zero, and every reply about
registrations or entries is the one the list of them gives. -/
theorem serverRegistrations (fresh : server.applications = .constructed)
    (answered : Answered (ServerMessage.perform environment) server history reached) :
    let list := fun messages : List ServerMessage =>
      RegistrationList.after environment messages .empty
    reached.applications = (list (history.map (·.1))).table ∧
      (list (history.map (·.1))).entries =
        (((history.map (·.1)).filterMap (RegistrationList.requested environment)).filter
          (·.aruid ≠ 0)).take 4 ∧
      ∀ earlier message reply later, history = earlier ++ (message, reply) :: later →
        ∀ expected, ((list (earlier.map (·.1))).serveMessage environment message).1 =
          some expected → reply = expected := by
  dsimp only
  refine ⟨history_table fresh answered, RegistrationList.after_entries environment _ .empty, ?_⟩
  intro earlier message reply later split
  rw [split] at answered
  rcases answered.at_entry with ⟨before, next, first, step⟩
  exact (performMessage_table (history_table fresh first) step).2

/-- An application is let in, sets its version and is let go. -/
def letCommands : List ServerCommand :=
  [ .control (.registerAppletResourceUserId drawnKey 5 6),
    .application (.setShimLibraryVersion 1 5),
    .control (.unregisterAppletResourceUserId 5 6) ]

def registeredQuestion : ServerCommand :=
  .control (.getApplicationIdFromAruid 5)

theorem letCommands_return :
    (Process.run (ServerMessage.perform plainEnvironment)
      (letCommands.map ServerCommand.sent ++ [registeredQuestion.sent])
        (.around mountedService)).1 = some () := by
  decide +kernel

/-- Asked for after it has been let go, it is still there. -/
theorem serverRegistrations_let :
    ∃ history reply, ∃ reached : Server, history.map (·.1) = letCommands.map ServerCommand.sent ∧
      Answered (ServerMessage.perform plainEnvironment) (.around mountedService)
        (history ++ [(registeredQuestion.sent, reply)]) reached ∧
      reached.applications = (RegistrationList.after plainEnvironment
        (letCommands.map ServerCommand.sent ++ [registeredQuestion.sent]) .empty).table ∧
      (RegistrationList.after plainEnvironment
        (letCommands.map ServerCommand.sent ++ [registeredQuestion.sent]) .empty).entries =
          [⟨drawnKey, 5, 6⟩] ∧
      reply = .ok (.number 6) := by
  rcases Answered.exists_of_run letCommands_return with ⟨entries, sent, answered⟩
  rcases List.map_eq_append_iff.mp sent with ⟨history, last, rfl, earlier, asked⟩
  rcases List.map_eq_singleton_iff.mp asked with ⟨⟨message, reply⟩, rfl, same⟩
  subst same
  have list := serverRegistrations rfl answered
  rw [sent] at list
  refine ⟨history, reply, _, earlier, answered, list.1, list.2.1, ?_⟩
  have told := list.2.2 history registeredQuestion.sent reply [] rfl
  rw [earlier] at told
  exact told _ rfl

end

end Capsrv
