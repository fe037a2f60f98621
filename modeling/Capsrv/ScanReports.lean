import Capsrv.FileNameGrammar
import Capsrv.RequestInvariants
import Capsrv.ScannedFiles

/-! # What the requests make of a scan

`ListEntries`, `CountEntries` and `RefreshCache` in terms of the entries that a
scan delivers: what is written to the buffer, whether counting and listing
agree, what is counted, and what becomes of a scan that did not complete.
-/

namespace Capsrv

open Service

/-! ## The callbacks -/

section

variable (manager : AlbumManager) (contentTypeFlags : UInt8)

/-- The entries that are asked for. -/
def matching (entries : List AlbumEntry) : List AlbumEntry :=
  entries.filter (isListed manager contentTypeFlags)

variable {manager contentTypeFlags}

theorem matching_cons_of_listed {entry : AlbumEntry}
    (wanted : isListed manager contentTypeFlags entry = true) (entries : List AlbumEntry) :
    matching manager contentTypeFlags (entry :: entries) =
      entry :: matching manager contentTypeFlags entries :=
  List.filter_cons_of_pos wanted

theorem matching_cons_of_not_listed {entry : AlbumEntry}
    (unwanted : ¬ isListed manager contentTypeFlags entry = true) (entries : List AlbumEntry) :
    matching manager contentTypeFlags (entry :: entries) =
      matching manager contentTypeFlags entries :=
  List.filter_cons_of_neg unwanted

variable (manager contentTypeFlags)

/-- Where there is room, the matching entries are written until it is used up. -/
theorem forEach_listCallback (maxEntries : UInt64) (entries written : List AlbumEntry)
    (room : written.length < maxEntries.toNat) :
    (Flow.forEach (Flow.call (listCallback manager contentTypeFlags maxEntries)) entries
      written).state =
      written ++ (matching manager contentTypeFlags entries).take
        (maxEntries.toNat - written.length) := by
  induction entries generalizing written with
  | nil => simp [Flow.forEach, Flow.state, matching]
  | cons entry entries induction =>
      have bound := maxEntries.toNat_lt
      have full : ∀ length ≤ maxEntries.toNat,
          (maxEntries == UInt64.ofNat length) = decide (maxEntries.toNat = length) := by
        intro length fits
        rw [Bool.eq_iff_iff, beq_iff_eq, decide_eq_true_eq, ← UInt64.toNat_inj,
          UInt64.toNat_ofNat_of_lt' (Nat.lt_of_le_of_lt fits bound)]
      rw [Flow.forEach]
      by_cases wanted : isListed manager contentTypeFlags entry = true
      · have called : listCallback manager contentTypeFlags maxEntries entry written =
            (written ++ [entry], decide (maxEntries.toNat = written.length + 1)) := by
          rw [listCallback, if_pos wanted, List.length_append, List.length_singleton,
            full _ (by omega)]
        rw [Flow.call, called, matching_cons_of_listed wanted]
        by_cases last : maxEntries.toNat = written.length + 1
        · simp [last, Flow.state]
        · have left : maxEntries.toNat - written.length =
              maxEntries.toNat - (written.length + 1) + 1 := by omega
          have rest := induction (written ++ [entry]) (by simp; omega)
          simpa [last, left] using rest
      · have called : listCallback manager contentTypeFlags maxEntries entry written =
            (written, false) := by
          rw [listCallback, if_neg wanted, full _ (by omega), decide_eq_false (by omega)]
        rw [Flow.call, called, matching_cons_of_not_listed wanted]
        exact induction written room

/-- An empty buffer is left alone only by an entry that is not asked for. -/
theorem forEach_listCallback_zero (entries : List AlbumEntry) :
    (Flow.forEach (Flow.call (listCallback manager contentTypeFlags 0)) entries []).state = [] ↔
      ∀ entry, entries.head? = some entry → isListed manager contentTypeFlags entry = false := by
  cases entries with
  | nil => simp [Flow.forEach, Flow.state]
  | cons entry entries =>
      simp only [List.head?_cons, Option.some.injEq, forall_eq', Flow.forEach]
      by_cases wanted : isListed manager contentTypeFlags entry = true
      · -- the first entry does not end the loop, and nothing that is written is taken back
        have called : Flow.call (listCallback manager contentTypeFlags 0) entry [] =
            .next [entry] := by
          simp [Flow.call, listCallback, wanted]
        have kept : ∀ entry written, written ≠ [] →
            (Flow.call (listCallback manager contentTypeFlags 0) entry written).state ≠ [] := by
          intro entry written some
          unfold Flow.call listCallback
          dsimp only
          split
          · split <;> simp [Flow.state]
          · split <;> exact some
        rw [called]
        have rest := Flow.forEach_preserves kept entries [entry] (by simp)
        simp [rest, wanted]
      · have called : Flow.call (listCallback manager contentTypeFlags 0) entry [] =
            .leave () [] := by
          simp [Flow.call, listCallback, wanted]
        rw [called]
        simp [Flow.state, wanted]

theorem forEach_countCallback (entries : List AlbumEntry) (count : UInt64) :
    Flow.forEach (Flow.call (countCallback manager contentTypeFlags)) entries count =
      .next (count + UInt64.ofNat (matching manager contentTypeFlags entries).length) := by
  induction entries generalizing count with
  | nil => simp [Flow.forEach, matching]
  | cons entry entries induction =>
      rw [Flow.forEach, Flow.call_of_continue rfl, countCallback]
      dsimp only
      rw [induction]
      by_cases wanted : isListed manager contentTypeFlags entry = true
      · rw [if_pos wanted, matching_cons_of_listed wanted, List.length_cons, UInt64.ofNat_add,
          UInt64.add_assoc, UInt64.add_comm 1]
        rfl
      · rw [if_neg wanted, matching_cons_of_not_listed wanted]

end

/-- The entries of one type. -/
def ofType (type : ContentType) (entries : List AlbumEntry) : List AlbumEntry :=
  entries.filter fun entry => entry.fileId.type = type

theorem forEach_refreshCallback (entries : List AlbumEntry) (counts : ContentType → UInt64)
    {type : ContentType} (valid : contentTypeValid type) :
    (Flow.forEach (Flow.call refreshCallback) entries counts).state type =
      counts type + UInt64.ofNat (ofType type entries).length := by
  induction entries generalizing counts with
  | nil => simp [Flow.forEach, Flow.state, ofType]
  | cons entry entries induction =>
      rw [Flow.forEach, Flow.call_of_continue rfl]
      dsimp only
      rw [induction, refreshCallback]
      by_cases same : entry.fileId.type = type
      · have found : ofType type (entry :: entries) = entry :: ofType type entries :=
          List.filter_cons_of_pos (decide_eq_true same)
        rw [found, List.length_cons, UInt64.ofNat_add, same, if_pos valid]
        dsimp only
        rw [Function.update_self, UInt64.add_assoc, UInt64.add_comm 1]
        rfl
      · have skipped : ofType type (entry :: entries) = ofType type entries :=
          List.filter_cons_of_neg (by simpa using same)
        rw [skipped]
        dsimp only
        split
        · rw [Function.update_of_ne (Ne.symm same)]
        · rfl

/-! ## Flags -/

theorem two_pow_and_two_pow_of_ne {first second : Nat} (different : first ≠ second) :
    2 ^ first &&& 2 ^ second = 0 := by
  apply Nat.eq_of_testBit_eq
  intro index
  rw [Nat.testBit_and, Nat.testBit_two_pow, Nat.testBit_two_pow, Nat.zero_testBit]
  simp only [Bool.and_eq_false_iff, decide_eq_false_iff_not]
  omega

/-- The flag of a type is that of no other byte. -/
theorem isTypeFlag_iff {type : ContentType} (valid : contentTypeValid type)
    (other : ContentType) :
    ((1 <<< other.value.toNat) &&& ((1 : UInt8) <<< type.value).toNat != 0) =
      decide (other = type) := by
  have flag : ((1 : UInt8) <<< type.value).toNat = 2 ^ type.value.toNat := by
    rcases contentTypeValid_cases valid with rfl | rfl | rfl | rfl
    all_goals rfl
  rw [flag, Nat.one_shiftLeft]
  by_cases equal : other = type
  · rw [equal, Nat.and_self, decide_eq_true rfl]
    simp
  · have different : other.value.toNat ≠ type.value.toNat := by
      intro same
      apply equal
      cases other
      cases type
      rw [ContentType.mk.injEq]
      exact UInt8.toNat_inj.mp same
    rw [two_pow_and_two_pow_of_ne different, decide_eq_false equal]
    rfl

theorem matching_typeFlag {manager : AlbumManager}
    (nothing : ∀ fileId, manager.writeReserve.isReserved fileId = false) {type : ContentType}
    (valid : contentTypeValid type) (entries : List AlbumEntry) :
    matching manager (1 <<< type.value) entries = ofType type entries := by
  unfold matching ofType
  congr 1
  funext entry
  rw [isListed, isTypeFlag_iff valid, nothing, Bool.not_false, Bool.and_true]

/-! ## Mounting first -/

theorem ensureMountState_tables (fault : Fault) (storageId : StorageId) (state : MountState)
    (service : Service) :
    (ensureMountState fault storageId state service).2.manager.writeReserve =
        service.manager.writeReserve ∧
      (ensureMountState fault storageId state service).2.manager.cache =
        service.manager.cache := by
  have mounting : PreservedByMounting fun next =>
      next.manager.writeReserve = service.manager.writeReserve ∧
        next.manager.cache = service.manager.cache := by
    apply preservedByMounting_of_manager fun manager =>
      manager.writeReserve = service.manager.writeReserve ∧
        manager.cache = service.manager.cache
    intro manager other status _ same
    rw [AlbumManager.setMountStatus_writeReserve, AlbumManager.setMountStatus_cache]
    exact same
  exact mounting.mounting (.ensureMountState fault storageId state) service ⟨rfl, rfl⟩

theorem isListed_congr {manager other : AlbumManager}
    (same : other.writeReserve = manager.writeReserve) (contentTypeFlags : UInt8) :
    isListed other contentTypeFlags = isListed manager contentTypeFlags := by
  funext entry
  rw [isListed, isListed, same]

section

variable {fault : Fault} {cipher : PathCipher} {reader : DirectoryReader} {stack : Nat → Block}
  {storageId : StorageId} {service mounted : Service}

theorem verifyStorageId_of_ensured {state : MountState}
    (ensured : ensureMountState fault storageId state service = (some .success, mounted)) :
    verifyStorageId storageId = .success := by
  unfold ensureMountState rTry at ensured
  split at ensured
  case isTrue verified => exact (Result.isSuccess_eq_true_iff _).mp verified
  case isFalse => exact congrArg (·.getD .success) (congrArg Prod.fst ensured)

/-- The entries that a scan of the storage delivers. -/
abbrev deliveredEntries (cipher : PathCipher) (reader : DirectoryReader) (stack : Nat → Block)
    (storageId : StorageId) : List AlbumEntry :=
  scannedEntries cipher storageId stack (metFiles reader storageId)

variable (ensured : ensureMountState fault storageId .mounted service = (some .success, mounted))

include ensured

theorem listEntries_of_ensured (maxEntries : UInt64) (contentTypeFlags : UInt8) :
    listEntries fault cipher reader stack maxEntries storageId contentTypeFlags service =
      (some (.success, (Flow.forEach (Flow.call
        (listCallback mounted.manager contentTypeFlags maxEntries))
        (deliveredEntries cipher reader stack storageId) []).state), mounted) := by
  rw [listEntries, Process.bind_of_eq_some ensured, rTry_success,
    ← processImageDirectory_eq_forEach]
  rfl

theorem countEntries_of_ensured (outCount : UInt64) (contentTypeFlags : UInt8) :
    countEntries fault cipher reader stack outCount storageId contentTypeFlags service =
      (some (.success, UInt64.ofNat (matching mounted.manager contentTypeFlags
        (deliveredEntries cipher reader stack storageId)).length), mounted) := by
  have counted := forEach_countCallback mounted.manager contentTypeFlags
    (deliveredEntries cipher reader stack storageId) 0
  rw [UInt64.zero_add] at counted
  have scanned := processImageDirectory_eq_forEach cipher reader storageId stack
    (countCallback mounted.manager contentTypeFlags) 0
  rw [counted] at scanned
  rw [countEntries, verifyStorageId_of_ensured ensured, rTry_success,
    Process.bind_of_eq_some ensured, rTry_success,
    Process.bind_of_eq_some (Process.get_apply mounted), scanned]
  rfl

theorem refreshCache_of_ensured (counts : ContentType → UInt64) :
    refreshCache fault cipher reader stack counts storageId service =
      (some .success, { mounted with
        manager := { mounted.manager with
          cache := mounted.manager.cache.setAll storageId
            (Flow.forEach (Flow.call refreshCallback)
              (deliveredEntries cipher reader stack storageId) counts).state } }) := by
  rw [refreshCache, verifyStorageId_of_ensured ensured, rTry_success,
    Process.bind_of_eq_some ensured, rTry_success, ← processImageDirectory_eq_forEach]
  rfl

end

/-- A storage that is ready stays so. -/
theorem ensureMountState_again {fault other : Fault} {storageId : StorageId}
    {service mounted next : Service}
    (ensured : ensureMountState fault storageId .mounted service = (some .success, mounted))
    (same : next.manager.mountStatus storageId = mounted.manager.mountStatus storageId) :
    ensureMountState other storageId .mounted next = (some .success, next) := by
  have verified := verifyStorageId_of_ensured ensured
  have status : (mounted.manager.mountStatus storageId).state ≠ .available ∧
      (mounted.manager.mountStatus storageId).lastError = .success := by
    rw [ensureMountState, verified, rTry_success,
      Process.bind_of_eq_some (Process.get_apply service)] at ensured
    split at ensured
    case isTrue left =>
      split at ensured
      case isTrue succeeded =>
        cases ensured
        exact ⟨left, (Result.isSuccess_eq_true_iff _).mp succeeded⟩
      case isFalse failed =>
        have different : (service.manager.mountStatus storageId).lastError ≠ .success :=
          fun equal => failed ((Result.isSuccess_eq_true_iff _).mpr equal)
        repeat' split at ensured
        all_goals
          first
          | exact absurd (Option.some.inj (congrArg Prod.fst ensured)) different
          | exact absurd (Option.some.inj (congrArg Prod.fst ensured)) (by decide)
    case isFalse available =>
      rcases tryMount_left ensured with ⟨left, success⟩
      rw [left.eq_of_success success]
      exact ⟨by decide, rfl⟩
  rw [ensureMountState, verified, rTry_success,
    Process.bind_of_eq_some (Process.get_apply next), same, if_pos status.1,
    if_pos (by rw [status.2]; rfl)]
  rfl
/-! ## Staying in the buffer -/

/-- What is written to the buffer and what is reported stay within its length. -/
def ListsWithin (maxEntries : UInt64) (outcome : Option (Result × List AlbumEntry)) : Prop :=
  ∀ result entries, outcome = some (result, entries) →
    entries.length ≤ maxEntries.toNat ∧ UInt64.ofNat entries.length ≤ maxEntries

theorem listsWithin_iff_length {maxEntries : UInt64} {result : Result}
    {entries : List AlbumEntry} :
    ListsWithin maxEntries (some (result, entries)) ↔ entries.length ≤ maxEntries.toNat := by
  constructor
  · exact fun within => (within result entries rfl).1
  · intro fits _ _ same
    cases same
    refine ⟨fits, UInt64.le_iff_toNat_le.mpr ?_⟩
    rwa [UInt64.toNat_ofNat_of_lt' (Nat.lt_of_le_of_lt fits maxEntries.toNat_lt)]

section

variable {fault : Fault} {cipher : PathCipher} {reader : DirectoryReader} {stack : Nat → Block}
  {storageId : StorageId} {service : Service}

theorem listEntries_of_not_ensured {maxEntries : UInt64} {contentTypeFlags : UInt8}
    (refused : (ensureMountState fault storageId .mounted service).1 ≠ some .success) {result}
    {entries : List AlbumEntry}
    (returned : (listEntries fault cipher reader stack maxEntries storageId contentTypeFlags
      service).1 = some (result, entries)) :
    entries = [] := by
  rw [listEntries, Process.bind_apply] at returned
  cases ensured : ensureMountState fault storageId .mounted service with
  | mk value mounted =>
      rw [ensured] at returned refused
      cases value with
      | none => cases returned
      | some outcome =>
          have failed : outcome.isSuccess = false :=
            (Result.isSuccess_eq_false_iff outcome).mpr fun success => refused (success ▸ rfl)
          simp only [rTry, failed] at returned
          cases returned
          rfl

/-- `ListEntries` stays in its buffer exactly when there is room for one entry,
or it does not get to an entry that is asked for as the first one. -/
theorem listEntries_listsWithin_iff (fault : Fault) (cipher : PathCipher)
    (reader : DirectoryReader) (stack : Nat → Block) (maxEntries : UInt64)
    (storageId : StorageId) (contentTypeFlags : UInt8) (service : Service) :
    ListsWithin maxEntries (listEntries fault cipher reader stack maxEntries storageId
        contentTypeFlags service).1 ↔
      (maxEntries = 0 → (ensureMountState fault storageId .mounted service).1 = some .success →
        ∀ entry, (deliveredEntries cipher reader stack storageId).head? = some entry →
          isListed service.manager contentTypeFlags entry = false) := by
  by_cases success : (ensureMountState fault storageId .mounted service).1 = some .success
  · have ensured : ensureMountState fault storageId .mounted service =
        (some .success, (ensureMountState fault storageId .mounted service).2) :=
      Prod.ext success rfl
    have same := (ensureMountState_tables fault storageId .mounted service).1
    rw [listEntries_of_ensured ensured, listsWithin_iff_length]
    by_cases empty : maxEntries = 0
    · subst empty
      have nothing : ∀ entries : List AlbumEntry,
          entries.length ≤ (0 : UInt64).toNat ↔ entries = [] := by simp
      rw [nothing, forEach_listCallback_zero, isListed_congr same]
      simp [success]
    · have positive : 0 < maxEntries.toNat := by
        have different := UInt64.toNat_inj.not.mpr empty
        exact Nat.pos_of_ne_zero different
      have written := forEach_listCallback
        (ensureMountState fault storageId .mounted service).2.manager contentTypeFlags maxEntries
        (deliveredEntries cipher reader stack storageId) [] positive
      rw [written]
      exact iff_of_true (List.length_take_le _ _) fun zero => absurd zero empty
  · refine iff_of_true (fun result entries returned => ?_) fun _ ensured => absurd ensured success
    rw [listEntries_of_not_ensured success returned]
    exact ⟨Nat.zero_le _, UInt64.le_iff_toNat_le.mpr (Nat.zero_le _)⟩

end

/-- A storage with the directories `5/5/5` and one file in the last of them. -/
def singleFileReader (name : Text) : DirectoryReader where
  openDirectory _ mode :=
    match mode with
    | .directory => .ok [.ok ⟨ascii "5", 0⟩]
    | .file => .ok [.ok ⟨name, 3⟩]

/-- A screenshot is written to a buffer of no entries. -/
theorem not_listsWithin_empty :
    ¬ ListsWithin 0 (listEntries none (Equiv.refl Block)
      (singleFileReader (ascii "2021051720310400-00000000000000000000000000000000.jpg"))
      (fun _ _ => 0) 0 .nand 1 mountedService).1 := by
  intro within
  have listed : (listEntries none (Equiv.refl Block)
      (singleFileReader (ascii "2021051720310400-00000000000000000000000000000000.jpg"))
      (fun _ _ => 0) 0 .nand 1 mountedService).1 =
      some (.success,
        [⟨3, ⟨0, ⟨2021, 5, 17, 20, 31, 4, 0⟩, .nand, .screenshot, .replicate 6 0⟩⟩]) := by
    decide +kernel
  exact absurd (within _ _ listed).1 (by decide)

/-! ## Counting and listing -/

/-- The array of `ListEntries`, which is cleared before it is written to. -/
def entriesArray (entries : List AlbumEntry) (index : Nat) : AlbumEntry :=
  entries.getD index ⟨0, .zero⟩

/-- The array holds what has been listed, and zeros behind it. -/
theorem entriesArray_take (entries : List AlbumEntry) (count index : Nat) :
    entriesArray (entries.take count) index =
      if index < min entries.length count then entriesArray entries index else ⟨0, .zero⟩ := by
  simp only [entriesArray, List.getD_eq_getElem?_getD]
  split
  case isTrue inside => rw [List.getElem?_take_of_lt (by omega)]
  case isFalse outside =>
    rw [List.getElem?_eq_none (by rw [List.length_take]; omega), Option.getD_none]

section

variable (cipher : PathCipher) (reader : DirectoryReader) (storageId : StorageId)
  (contentTypeFlags : UInt8)

/-- The matching entries of a scan, in its order. -/
def foundEntries (manager : AlbumManager) (stack : Nat → Block) : List AlbumEntry :=
  matching manager contentTypeFlags (deliveredEntries cipher reader stack storageId)

/-- What the scan counts, it lists as far as there is room, whatever the scans
find in the buffer of the decoder. -/
def CountsAndListsAgree (service : Service) : Prop :=
  ∀ (countFault listFault growFault : Fault) (countStack listStack growStack : Nat → Block)
    (outCount count : UInt64) (counted : Service),
    countEntries countFault cipher reader countStack outCount storageId contentTypeFlags service =
      (some (.success, count), counted) →
    ∀ maxEntries, maxEntries ≠ 0 →
      ∃ entries,
        (listEntries listFault cipher reader listStack maxEntries storageId contentTypeFlags
          service).1 = some (.success, entries) ∧
        entries.length = min count.toNat maxEntries.toNat ∧
        (∀ index < maxEntries.toNat, entriesArray entries index =
          if index < min count.toNat maxEntries.toNat then
            entriesArray (foundEntries cipher reader storageId contentTypeFlags service.manager
              countStack) index
          else ⟨0, .zero⟩) ∧
        ∀ larger, maxEntries ≤ larger → ∃ more,
          (listEntries growFault cipher reader growStack larger storageId contentTypeFlags
            service).1 = some (.success, more) ∧ entries <+: more

/-- The matching entries, as many as a buffer can hold, do not depend on what
the decoder finds in its buffer, and their number is what a `size_t` makes of
it. -/
structure DeliversAlike (manager : AlbumManager) : Prop where
  entries : ∀ stack other : Nat → Block,
    (foundEntries cipher reader storageId contentTypeFlags manager stack).take
        (UInt64.size - 1) =
      (foundEntries cipher reader storageId contentTypeFlags manager other).take
        (UInt64.size - 1)
  number : ∀ stack : Nat → Block,
    (foundEntries cipher reader storageId contentTypeFlags manager stack).length % UInt64.size =
      min (foundEntries cipher reader storageId contentTypeFlags manager stack).length
        (UInt64.size - 1)

end

namespace DeliversAlike

variable {cipher : PathCipher} {reader : DirectoryReader} {storageId : StorageId}
  {contentTypeFlags : UInt8} {manager : AlbumManager}
  (alike : DeliversAlike cipher reader storageId contentTypeFlags manager)

include alike

/-- No buffer tells two scans apart. -/
theorem take_eq (stack other : Nat → Block) (maxEntries : UInt64) :
    (foundEntries cipher reader storageId contentTypeFlags manager stack).take
        maxEntries.toNat =
      (foundEntries cipher reader storageId contentTypeFlags manager other).take
        maxEntries.toNat := by
  have most : maxEntries.toNat ≤ UInt64.size - 1 := Nat.le_sub_one_of_lt maxEntries.toNat_lt
  have equal := congrArg (List.take maxEntries.toNat) (alike.entries stack other)
  rwa [List.take_take, List.take_take, Nat.min_eq_left most] at equal

/-- The count is right as far as a buffer goes. -/
theorem min_count (stack : Nat → Block) (maxEntries : UInt64) :
    min (UInt64.ofNat (foundEntries cipher reader storageId contentTypeFlags manager
        stack).length).toNat maxEntries.toNat =
      min (foundEntries cipher reader storageId contentTypeFlags manager stack).length
        maxEntries.toNat := by
  have most : maxEntries.toNat ≤ UInt64.size - 1 := Nat.le_sub_one_of_lt maxEntries.toNat_lt
  have number := alike.number stack
  rw [UInt64.toNat_ofNat']
  change min (_ % UInt64.size) _ = _
  omega

end DeliversAlike

section

variable {storageId : StorageId} {service : Service} (valid : storageValid storageId)
  (mounted : service.manager.mountStatus storageId = ⟨.mounted, .success⟩)

include valid mounted

theorem ensureMountState_of_mounted (fault : Fault) :
    ensureMountState fault storageId .mounted service = (some .success, service) := by
  simp [ensureMountState, rTry, verifyStorageId_eq_success_iff.mpr valid, Process.bind_apply,
    mounted]

theorem countEntries_of_mounted (cipher : PathCipher) (reader : DirectoryReader)
    (contentTypeFlags : UInt8) (fault : Fault) (stack : Nat → Block) (outCount : UInt64) :
    countEntries fault cipher reader stack outCount storageId contentTypeFlags service =
      (some (.success, UInt64.ofNat
        (foundEntries cipher reader storageId contentTypeFlags service.manager stack).length),
        service) :=
  countEntries_of_ensured (ensureMountState_of_mounted valid mounted fault) outCount
    contentTypeFlags

theorem listEntries_of_mounted (cipher : PathCipher) (reader : DirectoryReader)
    (contentTypeFlags : UInt8) (fault : Fault) (stack : Nat → Block) {maxEntries : UInt64}
    (room : maxEntries ≠ 0) :
    (listEntries fault cipher reader stack maxEntries storageId contentTypeFlags service).1 =
      some (.success, (foundEntries cipher reader storageId contentTypeFlags service.manager
        stack).take maxEntries.toNat) := by
  have positive : 0 < maxEntries.toNat :=
    Nat.pos_of_ne_zero (UInt64.toNat_inj.not.mpr room)
  have written := forEach_listCallback service.manager contentTypeFlags maxEntries
    (deliveredEntries cipher reader stack storageId) [] positive
  rw [listEntries_of_ensured (ensureMountState_of_mounted valid mounted fault), written]
  rfl

/-- The largest buffer shows what two scans of one directory deliver. -/
theorem CountsAndListsAgree.delivered {cipher : PathCipher} {reader : DirectoryReader}
    {contentTypeFlags : UInt8}
    (agree : CountsAndListsAgree cipher reader storageId contentTypeFlags service)
    (stack other : Nat → Block) :
    (foundEntries cipher reader storageId contentTypeFlags service.manager stack).length %
          UInt64.size =
        min (foundEntries cipher reader storageId contentTypeFlags service.manager
          stack).length (UInt64.size - 1) ∧
      (foundEntries cipher reader storageId contentTypeFlags service.manager stack).take
          (UInt64.size - 1) <+:
        (foundEntries cipher reader storageId contentTypeFlags service.manager other).take
          (UInt64.size - 1) := by
  have limit : ((0 : UInt64) - 1).toNat = UInt64.size - 1 := by decide
  have room : (0 : UInt64) - 1 ≠ 0 := by decide
  have lists := fun stack =>
    listEntries_of_mounted valid mounted cipher reader contentTypeFlags none stack room
  rw [limit] at lists
  have counts := countEntries_of_mounted valid mounted cipher reader contentTypeFlags none stack 0
  rcases agree none none none stack stack other 0 _ _ counts (0 - 1) room with
    ⟨entries, listed, length, -, grows⟩
  rcases grows (0 - 1) (UInt64.le_refl _) with ⟨more, listedMore, longer⟩
  rw [lists stack] at listed
  rw [lists other] at listedMore
  cases listed
  cases listedMore
  refine ⟨?_, longer⟩
  rw [limit, List.length_take, UInt64.toNat_ofNat'] at length
  have positive : 0 < UInt64.size := by decide
  have bound := Nat.mod_lt (foundEntries cipher reader storageId contentTypeFlags
    service.manager stack).length positive
  change min _ _ = min (_ % UInt64.size) _ at length
  omega

/-- Counting and listing agree exactly when the scan delivers alike. -/
theorem countsAndListsAgree_iff (cipher : PathCipher) (reader : DirectoryReader)
    (contentTypeFlags : UInt8) :
    CountsAndListsAgree cipher reader storageId contentTypeFlags service ↔
      DeliversAlike cipher reader storageId contentTypeFlags service.manager := by
  constructor
  · intro agree
    have delivered := agree.delivered valid mounted
    refine ⟨fun stack other => ?_, fun stack => (delivered stack stack).1⟩
    exact (delivered stack other).2.eq_of_length_le (delivered other stack).2.length_le
  · intro alike countFault listFault growFault countStack listStack growStack outCount count
      counted returned maxEntries room
    have lists := fun fault stack (maxEntries : UInt64) (room : maxEntries ≠ 0) =>
      listEntries_of_mounted valid mounted cipher reader contentTypeFlags fault stack room
    rw [countEntries_of_mounted valid mounted] at returned
    cases returned
    have total := alike.min_count countStack maxEntries
    refine ⟨_, lists listFault listStack maxEntries room, ?_, ?_, ?_⟩
    · rw [alike.take_eq listStack countStack, List.length_take, total, Nat.min_comm]
    · intro index inside
      rw [alike.take_eq listStack countStack, entriesArray_take, total]
    · intro larger grows
      have order := UInt64.le_iff_toNat_le.mp grows
      have growing : larger ≠ 0 := by
        rintro rfl
        exact room (UInt64.toNat_inj.mp (Nat.le_zero.mp order))
      refine ⟨_, lists growFault growStack larger growing, ?_⟩
      rw [alike.take_eq listStack growStack]
      exact List.take_prefix_take_left order

end

/-- The name of a screenshot. -/
def screenshotName : Text :=
  ascii "2021051720310400-00000000000000000000000000000000.jpg"

/-- It is found over any buffer. -/
theorem foundEntries_screenshotName (stack : Nat → Block) :
    foundEntries (Equiv.refl Block) (singleFileReader screenshotName) .nand 1
      mountedService.manager stack =
        [⟨3, ⟨0, ⟨2021, 5, 17, 20, 31, 4, 0⟩, .nand, .screenshot, .replicate 6 0⟩⟩] := by
  have regular : IsRegular screenshotName := by
    constructor
    case digits => decide +kernel
    case month => decide +kernel
    case day => decide +kernel
    case identifier => decide +kernel
  have read : AlbumFileId.fromString (Equiv.refl Block) .nand (fun _ => 0) .zero screenshotName =
      (.success, ⟨0, ⟨2021, 5, 17, 20, 31, 4, 0⟩, .nand, .screenshot, .replicate 6 0⟩) := by
    decide +kernel
  have met : metFiles (singleFileReader screenshotName) .nand = [⟨screenshotName, 3⟩] := by
    decide +kernel
  have entry := regular.fromString_eq read (stack 0)
  have delivered : deliveredEntries (Equiv.refl Block) (singleFileReader screenshotName) stack
      .nand = [⟨3, ⟨0, ⟨2021, 5, 17, 20, 31, 4, 0⟩, .nand, .screenshot, .replicate 6 0⟩⟩] := by
    rw [deliveredEntries, met, scannedEntries]
    simp only [List.zipIdx_cons, List.zipIdx_nil, List.filterMap_cons, List.filterMap_nil,
      scannedEntry, entry, Result.isSuccess_success, if_true]
  rw [foundEntries, delivered]
  decide +kernel

theorem countsAndListsAgree_screenshot :
    CountsAndListsAgree (Equiv.refl Block) (singleFileReader screenshotName) .nand 1
        mountedService ∧
      (listEntries none (Equiv.refl Block) (singleFileReader screenshotName) (fun _ _ => 0) 2 .nand
        1 mountedService).1 = some (.success,
          [⟨3, ⟨0, ⟨2021, 5, 17, 20, 31, 4, 0⟩, .nand, .screenshot, .replicate 6 0⟩⟩]) := by
  refine ⟨(countsAndListsAgree_iff (by decide) (by decide) _ _ _).mpr ⟨?_, ?_⟩, by decide +kernel⟩
  · intro stack other
    rw [foundEntries_screenshotName, foundEntries_screenshotName]
  · intro stack
    rw [foundEntries_screenshotName]
    decide

/-- A name with a pair `zz` is counted over a buffer of zeros, and not listed
over another one. -/
theorem not_countsAndListsAgree_buffer :
    ¬ CountsAndListsAgree (Equiv.refl Block)
      (singleFileReader (ascii "2021051720310400-000000000000000000000000000000zz.jpg")) .nand 1
      mountedService := by
  intro agree
  have one : (foundEntries (Equiv.refl Block)
      (singleFileReader (ascii "2021051720310400-000000000000000000000000000000zz.jpg")) .nand 1
      mountedService.manager fun _ _ => 0).length = 1 := by
    decide +kernel
  have valid : storageValid .nand := by decide
  have mounted : mountedService.manager.mountStatus .nand = ⟨.mounted, .success⟩ := by decide
  have counted := countEntries_of_mounted valid mounted (Equiv.refl Block)
    (singleFileReader (ascii "2021051720310400-000000000000000000000000000000zz.jpg")) 1 none
    (fun _ _ => 0) 0
  rw [one] at counted
  rcases agree none none none (fun _ _ => 0) (fun _ _ => 0xff) (fun _ _ => 0) 0 1 _ counted 5
    (by decide) with ⟨entries, listed, length, -, -⟩
  have nothing : (listEntries none (Equiv.refl Block)
      (singleFileReader (ascii "2021051720310400-000000000000000000000000000000zz.jpg"))
      (fun _ _ => 0xff) 5 .nand 1 mountedService).1 = some (.success, []) := by
    decide +kernel
  rw [nothing] at listed
  cases listed
  exact absurd length (by decide)

/-! ## Counting into the cache -/

namespace AlbumManagerCache

theorem getCount_setAll (cache : AlbumManagerCache) {storageId : StorageId}
    (valid : storageValid storageId) (counts : ContentType → UInt64) {type : ContentType}
    (typeValid : contentTypeValid type) :
    (cache.setAll storageId counts).getCount storageId type = counts type := by
  unfold setAll
  rw [getCount_set valid (by decide), getCount_set valid (by decide),
    getCount_set valid (by decide), getCount_set valid (by decide)]
  simp only [true_and]
  rcases contentTypeValid_cases typeValid with rfl | rfl | rfl | rfl
  all_goals rfl

theorem getCount_setAll_of_ne (cache : AlbumManagerCache) {storageId other : StorageId}
    (valid : storageValid storageId) (different : other ≠ storageId)
    (counts : ContentType → UInt64) (type : ContentType) :
    (cache.setAll storageId counts).getCount other type = cache.getCount other type := by
  unfold setAll
  rw [getCount_set valid (by decide), getCount_set valid (by decide),
    getCount_set valid (by decide), getCount_set valid (by decide)]
  simp only [different, false_and, if_false]

end AlbumManagerCache

/-- A successful `RefreshCache` leaves the number of entries of each type in
the cache, which is what `CountEntries` reports for the flag of the type, and
what was there for the other storage. -/
def CountsExactly (cipher : PathCipher) (reader : DirectoryReader) (stack : Nat → Block)
    (storageId : StorageId) (service : Service) (outcome : Option Result × Service) : Prop :=
  outcome.1 = some .success →
    (∀ type, contentTypeValid type →
      outcome.2.manager.cache.getCount storageId type =
          UInt64.ofNat (ofType type (deliveredEntries cipher reader stack storageId)).length ∧
      ((∀ fileId, service.manager.writeReserve.isReserved fileId = false) →
        ∀ fault outCount, (countEntries fault cipher reader stack outCount storageId
          (1 <<< type.value) outcome.2).1 =
            some (.success, outcome.2.manager.cache.getCount storageId type))) ∧
    ∀ other, storageValid other → other ≠ storageId → ∀ type,
      outcome.2.manager.cache.getCount other type = service.manager.cache.getCount other type

section

variable {fault : Fault} {cipher : PathCipher} {reader : DirectoryReader} {stack : Nat → Block}
  {storageId : StorageId} {service : Service}

theorem ensured_of_refreshCache {counts : ContentType → UInt64}
    (returned : (refreshCache fault cipher reader stack counts storageId service).1 =
      some .success) :
    (ensureMountState fault storageId .mounted service).1 = some .success := by
  unfold refreshCache rTry at returned
  split at returned
  case isTrue =>
    rw [Process.bind_apply] at returned
    cases ensured : ensureMountState fault storageId .mounted service with
    | mk value mounted =>
        rw [ensured] at returned
        cases value with
        | none => cases returned
        | some outcome =>
            by_cases success : outcome.isSuccess = true
            · rw [(Result.isSuccess_eq_true_iff outcome).mp success]
            · simp only [if_neg success] at returned
              exact returned
  case isFalse failed =>
    rw [Option.some.inj returned] at failed
    exact absurd rfl failed

/-- `RefreshCache` counts exactly when its array starts out with zeros, or the
storage cannot be scanned. -/
theorem refreshCache_countsExactly_iff (fault : Fault) (cipher : PathCipher)
    (reader : DirectoryReader) (stack : Nat → Block) (counts : ContentType → UInt64)
    (storageId : StorageId) (service : Service) :
    CountsExactly cipher reader stack storageId service
        (refreshCache fault cipher reader stack counts storageId service) ↔
      ((ensureMountState fault storageId .mounted service).1 = some .success →
        ∀ type, contentTypeValid type → counts type = 0) := by
  by_cases success : (ensureMountState fault storageId .mounted service).1 = some .success
  · have ensured : ensureMountState fault storageId .mounted service =
        (some .success, (ensureMountState fault storageId .mounted service).2) :=
      Prod.ext success rfl
    have valid := verifyStorageId_eq_success_iff.mp (verifyStorageId_of_ensured ensured)
    rcases ensureMountState_tables fault storageId .mounted service with ⟨reserve, cache⟩
    have counted : ∀ type, contentTypeValid type → ∀ manager : AlbumManager,
        (manager.cache.setAll storageId (Flow.forEach (Flow.call refreshCallback)
          (deliveredEntries cipher reader stack storageId) counts).state).getCount storageId
            type =
          counts type + UInt64.ofNat (ofType type
            (deliveredEntries cipher reader stack storageId)).length := by
      intro type typeValid manager
      rw [AlbumManagerCache.getCount_setAll _ valid _ typeValid,
        forEach_refreshCallback _ _ typeValid]
    rw [refreshCache_of_ensured ensured, CountsExactly]
    simp only [success, forall_const]
    constructor
    · rintro ⟨exactly, -⟩ type typeValid
      have equal := (exactly type typeValid).1
      rw [counted type typeValid] at equal
      exact UInt64.add_eq_right.mp equal
    · intro zero
      refine ⟨fun type typeValid => ?_, fun other _ different type => ?_⟩
      · rw [counted type typeValid, zero type typeValid, UInt64.zero_add]
        refine ⟨rfl, fun nothing again outCount => ?_⟩
        refine (congrArg Prod.fst (countEntries_of_ensured
          (ensureMountState_again ensured ?_) outCount (1 <<< type.value))).trans ?_
        · rfl
        · rw [matching_typeFlag _ typeValid]
          intro fileId
          dsimp only
          rw [reserve]
          exact nothing fileId
      · rw [AlbumManagerCache.getCount_setAll_of_ne _ valid different, cache]
  · refine iff_of_true (fun returned => ?_) fun ensured => absurd ensured success
    exact absurd (ensured_of_refreshCache returned) success

end

/-- An album without entries, counted over an array of sevens. -/
theorem not_countsExactly_uninitialised :
    ¬ CountsExactly (Equiv.refl Block) (singleFileReader (ascii "readme")) (fun _ _ => 0) .nand
      mountedService
      (refreshCache none (Equiv.refl Block) (singleFileReader (ascii "readme")) (fun _ _ => 0)
        (fun _ => 7) .nand mountedService) := by
  intro exactly
  have counted := ((exactly (by decide +kernel)).1 .screenshot (by decide)).1
  have different : (refreshCache none (Equiv.refl Block) (singleFileReader (ascii "readme"))
      (fun _ _ => 0) (fun _ => 7) .nand mountedService).2.manager.cache.getCount .nand
        .screenshot ≠
      UInt64.ofNat (ofType .screenshot (deliveredEntries (Equiv.refl Block)
        (singleFileReader (ascii "readme")) (fun _ _ => 0) .nand)).length := by
    decide +kernel
  exact different counted

end Capsrv
