import Capsrv.AlbumPath
import Capsrv.AlbumTables
import Capsrv.Foundation.Process
import Capsrv.Foundation.SlotTable

/-! # Reservations

`AlbumReserve` with its slots as they are in memory. What the table keeps is a
multiset of at most ten ids; what it does not keep is one reservation for each
file, for ids of one file can differ in their padding.
-/

namespace Capsrv

/-- The slots of an `AlbumReserve`. A freed slot keeps its id. -/
structure ReserveTable where
  reserve : List (Slot AlbumFileId)
  length : reserve.length = 10

namespace ReserveTable

/-- `AlbumReserve::AlbumReserve`, over the ids that the memory happens to hold. -/
def fresh (memory : Fin 10 → AlbumFileId) : ReserveTable where
  reserve := List.ofFn fun slot => ⟨false, memory slot⟩
  length := List.length_ofFn

/-- `AlbumReserve::Reserve`. -/
def reserveFile (fileId : AlbumFileId) : Process ReserveTable Result := fun table =>
  let inserted := SlotTable.insert fileId table.reserve
  (some (if inserted.1 then .success else internalError.result),
    ⟨inserted.2, (SlotTable.length_insert fileId table.reserve).trans table.length⟩)

/-- `AlbumReserve::Unreserve`. -/
def unreserve (fileId : AlbumFileId) : Process ReserveTable Result := fun table =>
  let erased := SlotTable.erase fileId table.reserve
  (some (if erased.1 then .success else internalError.result),
    ⟨erased.2, (SlotTable.length_erase fileId table.reserve).trans table.length⟩)

/-- `AlbumReserve::IsReserved`. -/
def isReserved (table : ReserveTable) (fileId : AlbumFileId) : Bool :=
  SlotTable.contains fileId table.reserve

/-! ## The table as a multiset -/

/-- The ids that are reserved, each as often as it is. -/
def outstanding (table : ReserveTable) : Multiset AlbumFileId :=
  SlotTable.contents table.reserve

theorem outstanding_fresh (memory : Fin 10 → AlbumFileId) : (fresh memory).outstanding = 0 := by
  apply SlotTable.contents_of_free
  intro slot member
  rcases List.mem_ofFn.mp member with ⟨index, rfl⟩
  rfl

section

variable {table : ReserveTable} {fileId : AlbumFileId}

theorem isReserved_iff : table.isReserved fileId = true ↔ fileId ∈ table.outstanding :=
  SlotTable.contains_iff

theorem reserveFile_of_full (fileId : AlbumFileId) (full : table.outstanding.card = 10) :
    reserveFile fileId table = (some internalError.result, table) := by
  have failed : (SlotTable.insert fileId table.reserve).1 = false :=
    SlotTable.insert_eq_false_iff.mpr (full.trans table.length.symm)
  simp only [reserveFile, failed, SlotTable.insert_of_full failed, Bool.false_eq_true, if_false]

theorem reserveFile_of_room (fileId : AlbumFileId) (room : table.outstanding.card ≠ 10) :
    ∃ next, reserveFile fileId table = (some .success, next) ∧
      next.outstanding = fileId ::ₘ table.outstanding := by
  have inserted : (SlotTable.insert fileId table.reserve).1 = true := by
    rw [← Bool.not_eq_false, SlotTable.insert_eq_false_iff, table.length]
    exact room
  refine ⟨(reserveFile fileId table).2, Prod.ext ?_ rfl, SlotTable.contents_insert inserted⟩
  simp only [reserveFile, inserted, if_true]

theorem unreserve_of_notMem (absent : fileId ∉ table.outstanding) :
    unreserve fileId table = (some internalError.result, table) := by
  have failed : (SlotTable.erase fileId table.reserve).1 = false := by
    rw [← Bool.not_eq_true, SlotTable.erase_eq_true_iff]
    exact absent
  simp only [unreserve, failed, SlotTable.erase_of_failed failed, Bool.false_eq_true, if_false]

theorem unreserve_of_mem (member : fileId ∈ table.outstanding) :
    ∃ next, unreserve fileId table = (some .success, next) ∧
      next.outstanding = table.outstanding.erase fileId := by
  have erased : (SlotTable.erase fileId table.reserve).1 = true :=
    SlotTable.erase_eq_true_iff.mpr member
  refine ⟨(unreserve fileId table).2, Prod.ext ?_ rfl, SlotTable.contents_erase table.reserve⟩
  simp only [unreserve, erased, if_true]

theorem internalError_ne_success : some internalError.result ≠ some Result.success := by
  decide

variable (table fileId) in
theorem unreserve_success_iff :
    (unreserve fileId table).1 = some .success ↔ fileId ∈ table.outstanding := by
  by_cases member : fileId ∈ table.outstanding
  · rcases unreserve_of_mem member with ⟨next, unreserved, -⟩
    exact iff_of_true (by rw [unreserved]) member
  · rw [unreserve_of_notMem member]
    exact iff_of_false internalError_ne_success member

/-- A reservation can be given up under an id that was there already, or is the
one that it was made under. -/
theorem unreserve_reserveFile_iff {other : AlbumFileId} :
    ((reserveFile fileId table).1 = some .success →
        (unreserve other (reserveFile fileId table).2).1 = some .success) ↔
      table.outstanding.card = 10 ∨ other = fileId ∨ other ∈ table.outstanding := by
  by_cases full : table.outstanding.card = 10
  · rw [reserveFile_of_full fileId full]
    exact iff_of_true (fun success => absurd success internalError_ne_success) (.inl full)
  · rcases reserveFile_of_room fileId full with ⟨next, reserved, after⟩
    simp only [reserved, true_imp_iff, unreserve_success_iff, after, Multiset.mem_cons, full,
      false_or]

end

end ReserveTable

/-! ## Runs -/

inductive ReserveCall where
  | reserve (fileId : AlbumFileId)
  | unreserve (fileId : AlbumFileId)
  | isReserved (fileId : AlbumFileId)

inductive ReserveAnswer where
  | result (result : Result)
  | reserved (reserved : Bool)
deriving DecidableEq

namespace ReserveCall

def perform : ReserveCall → Process ReserveTable ReserveAnswer
  | reserve fileId => do pure (.result (← ReserveTable.reserveFile fileId))
  | unreserve fileId => do pure (.result (← ReserveTable.unreserve fileId))
  | isReserved fileId => do pure (.reserved ((← Process.get).isReserved fileId))

/-- The calls on a multiset of at most ten ids. A call that fails changes nothing. -/
def performBounded : ReserveCall → Process (Multiset AlbumFileId) ReserveAnswer
  | reserve fileId => do
      let outstanding ← Process.get
      if outstanding.card = 10 then pure (.result internalError.result)
      else do
        Process.modify (fileId ::ₘ ·)
        pure (.result .success)
  | unreserve fileId => do
      let outstanding ← Process.get
      if fileId ∈ outstanding then do
        Process.modify (·.erase fileId)
        pure (.result .success)
      else pure (.result internalError.result)
  | isReserved fileId => do
      let outstanding ← Process.get
      pure (.reserved (decide (fileId ∈ outstanding)))

/-- One call on the table is one call on the multiset. -/
theorem perform_refines (call : ReserveCall) :
    Process.Refines (fun table outstanding => table.outstanding = outstanding) call.perform
      call.performBounded := by
  rintro table outstanding rfl
  cases call with
  | reserve fileId =>
      rw [perform, performBounded, Process.bind_of_eq_some (Process.get_apply _)]
      by_cases full : table.outstanding.card = 10
      · rw [Process.bind_of_eq_some (ReserveTable.reserveFile_of_full fileId full), if_pos full]
        exact ⟨rfl, rfl⟩
      · rcases ReserveTable.reserveFile_of_room fileId full with ⟨next, reserved, after⟩
        rw [Process.bind_of_eq_some reserved, if_neg full]
        exact ⟨rfl, after⟩
  | unreserve fileId =>
      rw [perform, performBounded, Process.bind_of_eq_some (Process.get_apply _)]
      by_cases member : fileId ∈ table.outstanding
      · rcases ReserveTable.unreserve_of_mem member with ⟨next, unreserved, after⟩
        rw [Process.bind_of_eq_some unreserved, if_pos member]
        exact ⟨rfl, after⟩
      · rw [Process.bind_of_eq_some (ReserveTable.unreserve_of_notMem member), if_neg member]
        exact ⟨rfl, rfl⟩
  | isReserved fileId =>
      have same : table.isReserved fileId = decide (fileId ∈ table.outstanding) := by
        rw [Bool.eq_iff_iff, ReserveTable.isReserved_iff, decide_eq_true_iff]
      rw [perform, performBounded, Process.bind_of_eq_some (Process.get_apply _),
        Process.bind_of_eq_some (Process.get_apply _), same]
      exact ⟨rfl, rfl⟩

/-- A call that does not take or give up a reservation changes no slot. -/
theorem perform_unchanged (call : ReserveCall) (table : ReserveTable)
    (unsuccessful : (call.perform table).1 ≠ some (.result .success)) :
    (call.perform table).2 = table := by
  cases call with
  | reserve fileId =>
      simp only [perform, Process.bind_apply] at unsuccessful ⊢
      by_cases full : table.outstanding.card = 10
      · simp only [ReserveTable.reserveFile_of_full fileId full, Process.pure_apply]
      · rcases ReserveTable.reserveFile_of_room fileId full with ⟨next, reserved, -⟩
        rw [reserved] at unsuccessful
        exact absurd rfl unsuccessful
  | unreserve fileId =>
      simp only [perform, Process.bind_apply] at unsuccessful ⊢
      by_cases member : fileId ∈ table.outstanding
      · rcases ReserveTable.unreserve_of_mem member with ⟨next, unreserved, -⟩
        rw [unreserved] at unsuccessful
        exact absurd rfl unsuccessful
      · simp only [ReserveTable.unreserve_of_notMem member, Process.pure_apply]
  | isReserved fileId => rfl

theorem isSome_perform (call : ReserveCall) (table : ReserveTable) :
    (call.perform table).1.isSome := by
  cases call <;> rfl

end ReserveCall

/-- Whatever is called on a fresh table in whatever order, it answers as the
multiset does, holds what the multiset holds, and changes with a successful
`Reserve` or `Unreserve` only. -/
theorem reserveTable_boundedMultiset (memory : Fin 10 → AlbumFileId) (calls : List ReserveCall) :
    let run := calls.mapM ReserveCall.perform (.fresh memory)
    let bounded := calls.mapM ReserveCall.performBounded 0
    (∃ answers, run.1 = some answers ∧ bounded.1 = some answers) ∧
      run.2.outstanding = bounded.2 ∧
      ∀ call : ReserveCall, (call.perform run.2).1 ≠ some (.result .success) →
        (call.perform run.2).2 = run.2 := by
  intro run bounded
  have refines := Process.refines_mapM ReserveCall.perform_refines calls (.fresh memory) 0
    (ReserveTable.outstanding_fresh memory)
  have answered := Process.isSome_mapM ReserveCall.isSome_perform calls (.fresh memory)
  rcases Option.isSome_iff_exists.mp answered with ⟨answers, answer⟩
  exact ⟨⟨answers, answer, refines.1 ▸ answer⟩, refines.2,
    fun call => call.perform_unchanged run.2⟩

/-! ## Ids of one file -/

/-- Two ids agree in all that a path is made of. -/
structure SameFile (first second : AlbumFileId) : Prop where
  applicationId : first.applicationId = second.applicationId
  dateTime : first.dateTime = second.dateTime
  storageId : first.storageId = second.storageId
  type : first.type = second.type

namespace SameFile

variable {first second : AlbumFileId}

/-- All that is left to tell them apart is the padding. -/
theorem eq_iff (same : SameFile first second) : first = second ↔ first.pad = second.pad := by
  constructor
  · exact fun equal => congrArg AlbumFileId.pad equal
  · rcases first with ⟨applicationId, dateTime, storageId, type, pad⟩
    rcases same with ⟨rfl, rfl, rfl, rfl⟩
    rintro rfl
    rfl

theorem makeAlbumPath_eq (same : SameFile first second) (cipher : PathCipher)
    (settings : AlbumSettings) :
    makeAlbumPath cipher settings first = makeAlbumPath cipher settings second := by
  rcases first with ⟨applicationId, dateTime, storageId, type, pad⟩
  rcases same with ⟨rfl, rfl, rfl, rfl⟩
  rfl

end SameFile

/-- Two ids of one path are one to the table. -/
structure ReservedAlike (table : ReserveTable) (first second : AlbumFileId) : Prop where
  path : ∀ (cipher : PathCipher) (settings : AlbumSettings),
    makeAlbumPath cipher settings first = makeAlbumPath cipher settings second
  isReserved : table.isReserved first = table.isReserved second
  unreserve : (ReserveTable.reserveFile first table).1 = some .success →
    (ReserveTable.unreserve second (ReserveTable.reserveFile first table).2).1 = some .success

/-- So it is when their padding is the same, when both are held, or when neither
is and there is no room for them. -/
theorem reservedAlike_iff (table : ReserveTable) (first second : AlbumFileId)
    (same : SameFile first second) :
    ReservedAlike table first second ↔
      first.pad = second.pad ∨
        (first ∈ table.outstanding ∧ second ∈ table.outstanding) ∨
        (first ∉ table.outstanding ∧ second ∉ table.outstanding ∧
          table.outstanding.card = 10) := by
  have members : table.isReserved first = table.isReserved second ↔
      (first ∈ table.outstanding ↔ second ∈ table.outstanding) := by
    rw [Bool.eq_iff_iff, ReserveTable.isReserved_iff, ReserveTable.isReserved_iff]
  have padding : second = first ↔ first.pad = second.pad := eq_comm.trans same.eq_iff
  constructor
  · intro alike
    have agree := members.mp alike.isReserved
    rcases ReserveTable.unreserve_reserveFile_iff.mp alike.unreserve with full | equal | held
    · by_cases firstHeld : first ∈ table.outstanding
      · exact .inr (.inl ⟨firstHeld, agree.mp firstHeld⟩)
      · exact .inr (.inr ⟨firstHeld, fun held => firstHeld (agree.mpr held), full⟩)
    · exact .inl (padding.mp equal)
    · exact .inr (.inl ⟨agree.mpr held, held⟩)
  · rintro (pad | ⟨firstHeld, held⟩ | ⟨firstFree, free, full⟩)
    · have equal := padding.mpr pad
      subst equal
      exact ⟨fun _ _ => rfl, rfl, ReserveTable.unreserve_reserveFile_iff.mpr (.inr (.inl rfl))⟩
    · exact ⟨same.makeAlbumPath_eq, members.mpr (iff_of_true firstHeld held),
        ReserveTable.unreserve_reserveFile_iff.mpr (.inr (.inr held))⟩
    · exact ⟨same.makeAlbumPath_eq, members.mpr (iff_of_false firstFree free),
        ReserveTable.unreserve_reserveFile_iff.mpr (.inl full)⟩

/-- The screenshot, from a client that fills the padding with ones. -/
def paddedScreenshot : AlbumFileId :=
  { savedScreenshot with pad := .replicate 6 1 }

/-- With the screenshot reserved under both paddings, either will do. -/
theorem reservedAlike_paddedScreenshot :
    let reserved := (ReserveTable.reserveFile savedScreenshot
      (ReserveTable.reserveFile paddedScreenshot (.fresh fun _ => .zero)).2).2
    ReservedAlike reserved savedScreenshot paddedScreenshot := by
  have same : SameFile savedScreenshot paddedScreenshot := ⟨rfl, rfl, rfl, rfl⟩
  refine (reservedAlike_iff _ _ _ same).mpr (.inr (.inl ⟨?_, ?_⟩))
  · exact ReserveTable.isReserved_iff.mp (by decide)
  · exact ReserveTable.isReserved_iff.mp (by decide)

/-- Reserved under one, it is free under the other. -/
theorem not_reservedAlike_paddedScreenshot :
    ¬ (∀ (table : ReserveTable) (first second : AlbumFileId), SameFile first second →
      ReservedAlike table first second) := by
  intro always
  have alike := always (.fresh fun _ => .zero) savedScreenshot paddedScreenshot
    ⟨rfl, rfl, rfl, rfl⟩
  exact absurd (alike.unreserve (by decide)) (by decide)

end Capsrv
