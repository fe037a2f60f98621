import Capsrv.Mount

/-! # File ids

`AlbumFileIdGenerator`: where a new file is saved, and the id it gets from the
clock and a counter of the ids of one second.
-/

namespace Capsrv

open Service

/-! ## Where to save -/

/-- `SetSysPrimaryAlbumStorage`. -/
inductive PrimaryAlbumStorage where
  | nand
  | sdCard
deriving DecidableEq, Repr

/-- What the system answers `GetAutoSavingStorage`. -/
structure SavingAnswers where
  primaryAlbumStorage : Except Failure PrimaryAlbumStorage
  mountSd : Fault
  mountNand : Fault

def AlbumSettings.allowSaveExtraMoviesOnNand (_settings : AlbumSettings) : Bool :=
  false

/-- A storage that can be mounted is the one to save on. -/
def trySavingOn (fault : Fault) (storageId : StorageId)
    (fallback : Process Service (Except Result StorageId)) :
    Process Service (Except Result StorageId) := do
  let mounted ← mountImageDirectory fault storageId
  if mounted.isSuccess then pure (.ok storageId) else fallback

def fallBackToNand (answers : SavingAnswers) : Process Service (Except Result StorageId) :=
  trySavingOn answers.mountNand .nand (pure (.error albumIsNotMounted.result))

/-- `GetAutoSavingStorage`. -/
def getAutoSavingStorage (answers : SavingAnswers) (type : ContentType) :
    Process Service (Except Result StorageId) :=
  if isNormal type then
    match answers.primaryAlbumStorage with
    | .error _ => Process.abort
    | .ok .sdCard => trySavingOn answers.mountSd .sd (fallBackToNand answers)
    | .ok .nand => fallBackToNand answers
  else
    trySavingOn answers.mountSd .sd do
      let settings := (← Process.get).manager.settings
      rUnless settings.allowSaveExtraMoviesOnNand (pure (.error albumIsNotMounted.result)) <|
      fallBackToNand answers

/-! ## The id -/

/-- `TimeCalendarTime`. -/
structure TimeCalendarTime where
  year : UInt16
  month : UInt8
  day : UInt8
  hour : UInt8
  minute : UInt8
  second : UInt8
deriving DecidableEq, Repr

/-- `timeToCalendarTimeWithMyRule`. -/
abbrev Calendar := UInt64 → Except Failure TimeCalendarTime

/-- Different timestamps are different dates. -/
def Calendar.Faithful (calendar : Calendar) : Prop :=
  ∀ timestamp other time, calendar timestamp = .ok time → calendar other = .ok time →
    timestamp = other

structure AlbumFileIdGenerator where
  lastTimestamp : UInt64
  counter : UInt32
deriving DecidableEq, Repr

namespace AlbumFileIdGenerator

/-- `Initialize`. -/
def initialized : AlbumFileIdGenerator :=
  ⟨0, 0⟩

/-- The step of the counter. It starts again at zero once it has two nines. -/
def advance (timestamp : UInt64) (generator : AlbumFileIdGenerator) : AlbumFileIdGenerator :=
  if generator.lastTimestamp = timestamp ∧ generator.counter < 99 then
    { generator with counter := generator.counter + 1 }
  else ⟨timestamp, 0⟩

/-- The date of an id. -/
def dateTime (time : TimeCalendarTime) (generator : AlbumFileIdGenerator) : AlbumDateTime where
  year := time.year
  month := time.month
  day := time.day
  hour := time.hour
  minute := time.minute
  second := time.second
  id := generator.counter.toUInt8

/-- `GenerateFileId`. -/
def generateFileId (calendar : Calendar) (answers : SavingAnswers)
    (clock : Except Failure UInt64) (out : AlbumFileId) (applicationId : UInt64)
    (type : ContentType) (generator : AlbumFileIdGenerator) :
    Process Service (Except Result AlbumFileId × AlbumFileIdGenerator) := do
  match ← getAutoSavingStorage answers type with
  | .error result => pure (.error result, generator)
  | .ok storageId =>
  match clock with
  | .error failure => pure (.error failure.result, generator)
  | .ok timestamp =>
  let generator := generator.advance timestamp
  match calendar timestamp with
  | .error failure => pure (.error failure.result, generator)
  | .ok time =>
      pure (.ok { out with applicationId, dateTime := generator.dateTime time, storageId, type },
        generator)

end AlbumFileIdGenerator

/-! ## Runs -/

/-- What one call finds: the answers of the system, the clock, and what was in
the output. -/
structure FileIdCall where
  answers : SavingAnswers
  clock : Except Failure UInt64
  out : AlbumFileId

/-- The generator, the service and the ids that were returned. -/
structure FileIdHistory where
  generator : AlbumFileIdGenerator
  service : Service
  returned : List AlbumFileId

def FileIdHistory.start (service : Service) : FileIdHistory :=
  ⟨.initialized, service, []⟩

def FileIdCall.perform (calendar : Calendar) (applicationId : UInt64) (type : ContentType)
    (call : FileIdCall) : Process FileIdHistory Unit := fun history =>
  match history.generator.generateFileId calendar call.answers call.clock call.out applicationId
      type history.service with
  | (none, service) => (none, { history with service })
  | (some (.error _, generator), service) => (some (), { history with generator, service })
  | (some (.ok fileId, generator), service) =>
      (some (), ⟨generator, service, history.returned ++ [fileId]⟩)

/-- What the call reads from the clock. -/
def FileIdCall.reading (call : FileIdCall) : Option UInt64 :=
  call.clock.toOption

def readings (calls : List FileIdCall) : List UInt64 :=
  calls.filterMap FileIdCall.reading

theorem readings_cons (call : FileIdCall) (calls : List FileIdCall) :
    readings (call :: calls) = call.reading.toList ++ readings calls := by
  cases read : call.reading with
  | none => exact List.filterMap_cons_none read
  | some timestamp => exact List.filterMap_cons_some read

/-- The counter is not exhausted within the second of the call. -/
def CounterLeft (history : FileIdHistory) (call : FileIdCall) : Prop :=
  call.reading = some history.generator.lastTimestamp → history.generator.counter < 99

/-- The ways a call can end. -/
inductive FileIdStep (calendar : Calendar) (history : FileIdHistory) (call : FileIdCall) :
    FileIdHistory → Prop
  | unread (service : Service) :
      FileIdStep calendar history call { history with service }
  | unconverted (service : Service) (timestamp : UInt64)
      (read : call.reading = some timestamp) :
      FileIdStep calendar history call
        { history with service, generator := history.generator.advance timestamp }
  | returned (service : Service) (timestamp : UInt64) (time : TimeCalendarTime)
      (fileId : AlbumFileId) (read : call.reading = some timestamp)
      (converted : calendar timestamp = .ok time)
      (dated : fileId.dateTime = (history.generator.advance timestamp).dateTime time) :
      FileIdStep calendar history call
        ⟨history.generator.advance timestamp, service, history.returned ++ [fileId]⟩

theorem FileIdCall.perform_step (calendar : Calendar) (applicationId : UInt64)
    (type : ContentType) (call : FileIdCall) (history : FileIdHistory) :
    FileIdStep calendar history call (call.perform calendar applicationId type history).2 := by
  rw [perform, AlbumFileIdGenerator.generateFileId, Process.bind_apply]
  rcases getAutoSavingStorage call.answers type history.service with
    ⟨_ | result | storageId, service⟩
  · exact .unread service
  · exact .unread service
  · cases read : call.clock with
    | error failure => exact .unread service
    | ok timestamp =>
        have reading : call.reading = some timestamp := by
          rw [FileIdCall.reading, read]
          rfl
        cases converted : calendar timestamp with
        | error failure =>
            simp only [converted]
            exact .unconverted service timestamp reading
        | ok time =>
            simp only [converted]
            exact .returned service timestamp time _ reading converted rfl

/-! ## Ids that were returned -/

/-- The date of an id comes from an earlier state of the generator. -/
structure IssuedBefore (calendar : Calendar) (generator : AlbumFileIdGenerator)
    (timestamp : UInt64) (count : UInt32) (time : TimeCalendarTime) : Prop where
  converted : calendar timestamp = .ok time
  twoDigits : count.toNat ≤ 99
  earlier : timestamp.toNat < generator.lastTimestamp.toNat ∨
    timestamp = generator.lastTimestamp ∧ count.toNat ≤ generator.counter.toNat

/-- Every id that was returned has been issued, with a date of its own. -/
structure IdsDistinct (calendar : Calendar) (history : FileIdHistory) : Prop where
  twoDigits : history.generator.counter.toNat ≤ 99
  issued : ∀ fileId ∈ history.returned, ∃ timestamp count time,
    fileId.dateTime = (AlbumFileIdGenerator.mk timestamp count).dateTime time ∧
      IssuedBefore calendar history.generator timestamp count time
  distinct : (history.returned.map (·.dateTime)).Nodup

theorem idsDistinct_start (calendar : Calendar) (service : Service) :
    IdsDistinct calendar (.start service) where
  twoDigits := Nat.zero_le 99
  issued _ member := by cases member
  distinct := List.nodup_nil

section

variable {generator : AlbumFileIdGenerator} {timestamp : UInt64}

@[simp] theorem lastTimestamp_advance :
    (generator.advance timestamp).lastTimestamp = timestamp := by
  unfold AlbumFileIdGenerator.advance
  split
  case isTrue same => exact same.1
  case isFalse => rfl

/-- A step with a counter that is not exhausted and a clock that does not go
back. -/
theorem advance_cases (increasing : generator.lastTimestamp ≤ timestamp)
    (left : generator.lastTimestamp = timestamp → generator.counter < 99) :
    (generator.lastTimestamp = timestamp ∧ generator.counter.toNat < 99 ∧
        (generator.advance timestamp).counter.toNat = generator.counter.toNat + 1) ∨
      (generator.lastTimestamp.toNat < timestamp.toNat ∧
        (generator.advance timestamp).counter.toNat = 0) := by
  by_cases same : generator.lastTimestamp = timestamp
  · left
    have small : generator.counter.toNat < 99 := UInt32.lt_iff_toNat_lt.mp (left same)
    have next : (generator.counter + 1).toNat = generator.counter.toNat + 1 := by
      rw [UInt32.toNat_add, UInt32.toNat_one]
      omega
    rw [AlbumFileIdGenerator.advance, if_pos ⟨same, left same⟩]
    exact ⟨same, small, next⟩
  · right
    have different : generator.lastTimestamp.toNat ≠ timestamp.toNat :=
      fun equal => same (UInt64.toNat_inj.mp equal)
    have below := UInt64.le_iff_toNat_le.mp increasing
    rw [AlbumFileIdGenerator.advance, if_neg fun both => same both.1]
    exact ⟨by omega, rfl⟩

theorem counter_advance_le (increasing : generator.lastTimestamp ≤ timestamp)
    (left : generator.lastTimestamp = timestamp → generator.counter < 99) :
    (generator.advance timestamp).counter.toNat ≤ 99 := by
  rcases advance_cases increasing left with ⟨-, small, next⟩ | ⟨-, next⟩
  · omega
  · omega

variable {calendar : Calendar} {issuedAt : UInt64} {count : UInt32} {time : TimeCalendarTime}

theorem IssuedBefore.advance (issued : IssuedBefore calendar generator issuedAt count time)
    (increasing : generator.lastTimestamp ≤ timestamp)
    (left : generator.lastTimestamp = timestamp → generator.counter < 99) :
    IssuedBefore calendar (generator.advance timestamp) issuedAt count time := by
  refine ⟨issued.converted, issued.twoDigits, ?_⟩
  rw [lastTimestamp_advance]
  rcases advance_cases increasing left with ⟨same, -, next⟩ | ⟨later, next⟩
  · rw [next, ← same]
    rcases issued.earlier with earlier | ⟨equal, below⟩
    · exact .inl earlier
    · exact .inr ⟨equal, by omega⟩
  · rcases issued.earlier with earlier | ⟨rfl, -⟩
    · exact .inl (earlier.trans later)
    · exact .inl later

/-- What was issued before has another date than what is issued next. -/
theorem IssuedBefore.dateTime_ne (faithful : calendar.Faithful)
    (issued : IssuedBefore calendar generator issuedAt count time)
    (increasing : generator.lastTimestamp ≤ timestamp)
    (left : generator.lastTimestamp = timestamp → generator.counter < 99)
    {next : TimeCalendarTime} (converted : calendar timestamp = .ok next) :
    (AlbumFileIdGenerator.mk issuedAt count).dateTime time ≠
      (generator.advance timestamp).dateTime next := by
  intro same
  simp only [AlbumFileIdGenerator.dateTime, AlbumDateTime.mk.injEq] at same
  rcases same with ⟨year, month, day, hour, minute, second, id⟩
  have times : time = next := by
    cases time
    cases next
    simp only [TimeCalendarTime.mk.injEq]
    exact ⟨year, month, day, hour, minute, second⟩
  subst times
  have timestamps := faithful issuedAt timestamp time issued.converted converted
  subst timestamps
  have counts : count.toNat = (generator.advance issuedAt).counter.toNat := by
    have bytes := congrArg UInt8.toNat id
    have small := issued.twoDigits
    have smallNext := counter_advance_le increasing left
    rw [UInt32.toNat_toUInt8, UInt32.toNat_toUInt8] at bytes
    omega
  rcases advance_cases increasing left with ⟨equal, -, next⟩ | ⟨later, -⟩
  · rcases issued.earlier with earlier | ⟨-, below⟩
    · rw [equal] at earlier
      omega
    · omega
  · rcases issued.earlier with earlier | ⟨equal, -⟩
    · omega
    · rw [equal] at later
      omega

end

section

variable {calendar : Calendar} {history next : FileIdHistory} {call : FileIdCall}

theorem IdsDistinct.advance (distinct : IdsDistinct calendar history) {timestamp : UInt64}
    (increasing : history.generator.lastTimestamp ≤ timestamp)
    (left : history.generator.lastTimestamp = timestamp → history.generator.counter < 99)
    (service : Service) :
    IdsDistinct calendar
      { history with service, generator := history.generator.advance timestamp } where
  twoDigits := counter_advance_le increasing left
  issued fileId member := by
    rcases distinct.issued fileId member with ⟨issuedAt, count, time, dated, issued⟩
    exact ⟨issuedAt, count, time, dated, issued.advance increasing left⟩
  distinct := distinct.distinct

/-- A call on a clock that does not go back and a counter that is not exhausted
returns an id with a new date. -/
theorem FileIdStep.idsDistinct (faithful : calendar.Faithful)
    (distinct : IdsDistinct calendar history)
    (increasing : ∀ timestamp, call.reading = some timestamp →
      history.generator.lastTimestamp ≤ timestamp)
    (left : CounterLeft history call) (step : FileIdStep calendar history call next) :
    IdsDistinct calendar next := by
  cases step with
  | unread service => exact ⟨distinct.twoDigits, distinct.issued, distinct.distinct⟩
  | unconverted service timestamp read =>
      refine distinct.advance (increasing timestamp read) (fun same => left ?_) service
      rw [read, same]
  | returned service timestamp time fileId read converted dated =>
      have increasing := increasing timestamp read
      have left : history.generator.lastTimestamp = timestamp →
          history.generator.counter < 99 := fun same => left (by rw [read, same])
      have advanced := distinct.advance increasing left service
      have fresh : ∀ other ∈ history.returned, other.dateTime ≠ fileId.dateTime := by
        intro other member
        rcases distinct.issued other member with ⟨issuedAt, count, issuedTime, otherDated, issued⟩
        rw [otherDated, dated]
        exact issued.dateTime_ne faithful increasing left converted
      refine ⟨advanced.twoDigits, fun other member => ?_, ?_⟩
      · rcases List.mem_append.mp member with earlier | last
        · exact advanced.issued other earlier
        · rw [List.mem_singleton.mp last]
          exact ⟨timestamp, (history.generator.advance timestamp).counter, time, dated, converted,
            advanced.twoDigits, .inr ⟨lastTimestamp_advance.symm, le_rfl⟩⟩
      · rw [List.map_append, List.map_singleton]
        apply List.Nodup.append distinct.distinct (List.nodup_singleton _)
        intro dateTime earlier last
        rcases List.mem_map.mp earlier with ⟨other, member, rfl⟩
        exact fresh other member (List.mem_singleton.mp last)

/-- The generator stands at no later second than the readings that follow. -/
theorem FileIdStep.lastTimestamp_le {later : UInt64}
    (step : FileIdStep calendar history call next)
    (before : history.generator.lastTimestamp ≤ later)
    (read : ∀ timestamp, call.reading = some timestamp → timestamp ≤ later) :
    next.generator.lastTimestamp ≤ later := by
  cases step with
  | unread => exact before
  | unconverted _ timestamp reading =>
      rw [lastTimestamp_advance]
      exact read timestamp reading
  | returned _ timestamp _ _ reading =>
      rw [lastTimestamp_advance]
      exact read timestamp reading

end

/-- What is known of the rest of a run from any of its states. -/
theorem idsDistinct_run {calendar : Calendar} (faithful : calendar.Faithful)
    (applicationId : UInt64) (type : ContentType) {calls : List FileIdCall}
    {history : FileIdHistory} (distinct : IdsDistinct calendar history)
    (after : ∀ reading ∈ readings calls, history.generator.lastTimestamp ≤ reading)
    (increasing : (readings calls).Pairwise (· ≤ ·))
    (left : Process.Meets (FileIdCall.perform calendar applicationId type) CounterLeft calls
      history) :
    IdsDistinct calendar
      (Process.run (FileIdCall.perform calendar applicationId type) calls history).2 := by
  induction calls generalizing history with
  | nil => exact distinct
  | cons call calls induction =>
      have step := call.perform_step calendar applicationId type history
      rw [readings_cons] at after increasing
      rcases List.pairwise_append.mp increasing with ⟨-, sorted, following⟩
      have first : ∀ timestamp, call.reading = some timestamp →
          history.generator.lastTimestamp ≤ timestamp := by
        intro timestamp read
        exact after timestamp (List.mem_append_left _ (by simp [read]))
      have next := step.idsDistinct faithful distinct first left.1
      have below : ∀ reading ∈ readings calls,
          (call.perform calendar applicationId type history).2.generator.lastTimestamp ≤
            reading := by
        intro reading member
        apply step.lastTimestamp_le (after reading (List.mem_append_right _ member))
        intro timestamp read
        exact following timestamp (by simp [read]) reading member
      have rest := fun returned => induction next below sorted (left.2 returned)
      rw [Process.run, Process.bind_apply]
      revert next rest
      rcases call.perform calendar applicationId type history with ⟨_ | value, after⟩
      · exact fun next _ => next
      · exact fun _ rest => rest rfl

/-- No two calls return the same id when the clock does not go back and no call
comes with the counter at 99 in the second of the call before it. -/
theorem generateFileId_distinct (calendar : Calendar) (faithful : calendar.Faithful)
    (applicationId : UInt64) (type : ContentType) (service : Service) (calls : List FileIdCall)
    (increasing : (readings calls).Pairwise (· ≤ ·))
    (left : Process.Meets (FileIdCall.perform calendar applicationId type) CounterLeft calls
      (.start service)) :
    (Process.run (FileIdCall.perform calendar applicationId type) calls
      (.start service)).2.returned.Nodup := by
  have first : ∀ reading ∈ readings calls, (0 : UInt64) ≤ reading :=
    fun reading _ => UInt64.le_iff_toNat_le.mpr (Nat.zero_le _)
  have distinct := idsDistinct_run faithful applicationId type
    (idsDistinct_start calendar service) first increasing left
  exact distinct.distinct.of_map _

/-! ## A second with too many calls -/

/-- A calendar of the seconds of one minute. -/
def minuteCalendar : Calendar := fun timestamp =>
  if timestamp < 60 then .ok ⟨2021, 5, 17, 20, 31, timestamp.toUInt8⟩
  else .error ⟨albumError.result, by decide⟩

theorem faithful_minuteCalendar : minuteCalendar.Faithful := by
  intro timestamp other time converted same
  unfold minuteCalendar at converted same
  split at converted <;> split at same
  case isTrue.isTrue small smallOther =>
    have seconds := congrArg TimeCalendarTime.second (Except.ok.inj (converted.trans same.symm))
    have bytes := congrArg UInt8.toNat seconds
    have below : timestamp.toNat < 60 := UInt64.lt_iff_toNat_lt.mp small
    have belowOther : other.toNat < 60 := UInt64.lt_iff_toNat_lt.mp smallOther
    rw [UInt64.toNat_toUInt8, UInt64.toNat_toUInt8] at bytes
    exact UInt64.toNat_inj.mp (by omega)
  case isTrue.isFalse => cases same
  case isFalse.isTrue => cases converted
  case isFalse.isFalse => cases converted

/-- A call that saves on the NAND storage. -/
def callAt (timestamp : UInt64) : FileIdCall :=
  ⟨⟨.ok .nand, none, none⟩, .ok timestamp, .zero⟩

theorem generateFileId_distinct_threeCalls :
    (Process.run (FileIdCall.perform minuteCalendar 5 .screenshot) [callAt 1, callAt 1, callAt 2]
      (.start (.announced fun _ => none))).2.returned.Nodup :=
  generateFileId_distinct minuteCalendar faithful_minuteCalendar 5 .screenshot _ _
    (by decide)
    ⟨fun _ => by decide +kernel, fun _ => ⟨fun _ => by decide +kernel, fun _ =>
      ⟨fun _ => by decide +kernel, fun _ => trivial⟩⟩⟩

/-- The call after a hundred in one second returns the id of the first one. -/
theorem generateFileId_not_distinct_burst :
    ¬ (∀ (calendar : Calendar) (applicationId : UInt64) (type : ContentType) (service : Service)
        (calls : List FileIdCall), calendar.Faithful → (readings calls).Pairwise (· ≤ ·) →
      (Process.run (FileIdCall.perform calendar applicationId type) calls
        (.start service)).2.returned.Nodup) := by
  intro always
  have increasing : (readings (List.replicate 101 (callAt 1))).Pairwise (· ≤ ·) := by
    have same : readings (List.replicate 101 (callAt 1)) = List.replicate 101 1 :=
      List.filterMap_replicate_of_some rfl
    rw [same]
    exact List.pairwise_replicate.mpr (.inr (UInt64.le_refl 1))
  have nodup := always minuteCalendar 5 .screenshot (.announced fun _ => none)
    (List.replicate 101 (callAt 1)) faithful_minuteCalendar increasing
  have same : (Process.run (FileIdCall.perform minuteCalendar 5 .screenshot)
      (List.replicate 101 (callAt 1)) (.start (.announced fun _ => none))).2.returned[0]? =
      (Process.run (FileIdCall.perform minuteCalendar 5 .screenshot)
        (List.replicate 101 (callAt 1)) (.start (.announced fun _ => none))).2.returned[100]? := by
    decide +kernel
  exact List.nodup_iff_getElem?_ne_getElem?.mp nodup 0 100 (by decide) (by decide +kernel) same

end Capsrv
