import Capsrv.Foundation.Numbering
import Capsrv.ServerObjects

/-! # The file ids of a server

All clients are handed out ids by one generator. Over any run of the server an id has
the number of the ids that were handed out before in the same second, up to a hundred.
-/

namespace Capsrv

open Server Process

/-! ## The generator in a row of seconds -/

/-- The second in which the generator is initialized has had its zero. -/
def firstNumber (second : UInt64) : Nat :=
  if second = 0 then 1 else 0

/-- Ids have been handed out in these seconds, none later than that of the
generator. -/
structure AlbumFileIdGenerator.Counts (seconds : List UInt64)
    (generator : AlbumFileIdGenerator) : Prop where
  latest : ∀ second ∈ seconds, second.toNat ≤ generator.lastTimestamp.toNat
  last : generator.lastTimestamp = 0 ∨ generator.lastTimestamp ∈ seconds
  small : generator.counter.toNat ≤ 99
  counted : (generator.counter.toNat + 1) % 100 =
    numberAfter firstNumber 100 seconds generator.lastTimestamp

namespace AlbumFileIdGenerator

variable {seconds : List UInt64} {generator : AlbumFileIdGenerator} {timestamp : UInt64}

theorem counts_initialized : Counts [] initialized :=
  ⟨nofun, .inl rfl, Nat.zero_le 99, rfl⟩

theorem counter_advance_of_eq (same : generator.lastTimestamp = timestamp)
    (small : generator.counter.toNat ≤ 99) :
    (generator.advance timestamp).counter.toNat = (generator.counter.toNat + 1) % 100 := by
  rw [advance]
  by_cases left : generator.counter < 99
  · have below : generator.counter.toNat < 99 := UInt32.lt_iff_toNat_lt.mp left
    rw [if_pos ⟨same, left⟩, UInt32.toNat_add, UInt32.toNat_one]
    omega
  · have above : ¬ generator.counter.toNat < 99 := fun below =>
      left (UInt32.lt_iff_toNat_lt.mpr below)
    have full : generator.counter.toNat = 99 := by omega
    rw [if_neg fun both => left both.2, full]
    rfl

theorem counter_advance_of_ne (different : generator.lastTimestamp ≠ timestamp) :
    (generator.advance timestamp).counter.toNat = 0 := by
  rw [advance, if_neg fun both => different both.1]
  rfl

/-- A second that comes after the one of the generator is a new one. -/
theorem Counts.number_of_ne (counts : Counts seconds generator)
    (following : ∀ second ∈ seconds, second.toNat ≤ timestamp.toNat)
    (different : generator.lastTimestamp ≠ timestamp) :
    numberAfter firstNumber 100 seconds timestamp = 0 := by
  have unequal : generator.lastTimestamp.toNat ≠ timestamp.toNat :=
    fun same => different (UInt64.toNat_inj.mp same)
  have before : generator.lastTimestamp.toNat ≤ timestamp.toNat := by
    rcases counts.last with zero | member
    · rw [zero]
      exact Nat.zero_le _
    · exact following _ member
  have new : timestamp ∉ seconds := by
    intro member
    have latest := counts.latest timestamp member
    omega
  have later : timestamp ≠ 0 := by
    intro zero
    rw [zero, UInt64.toNat_zero] at before unequal
    omega
  rw [numberAfter, firstNumber, if_neg later, List.count_eq_zero_of_not_mem new]

/-- The next id has the number of those before it in its second. -/
theorem Counts.advance (counts : Counts seconds generator)
    (following : ∀ second ∈ seconds, second.toNat ≤ timestamp.toNat) :
    (generator.advance timestamp).counter.toNat =
        numberAfter firstNumber 100 seconds timestamp ∧
      Counts (seconds ++ [timestamp]) (generator.advance timestamp) := by
  have number : (generator.advance timestamp).counter.toNat =
      numberAfter firstNumber 100 seconds timestamp := by
    by_cases same : generator.lastTimestamp = timestamp
    · rw [counter_advance_of_eq same counts.small, counts.counted, same]
    · rw [counter_advance_of_ne same, counts.number_of_ne following same]
  refine ⟨number, ⟨?_, ?_, ?_, ?_⟩⟩
  · intro second member
    rw [lastTimestamp_advance]
    rcases List.mem_append.mp member with earlier | last
    · exact following second earlier
    · rw [List.mem_singleton.mp last]
  · rw [lastTimestamp_advance]
    exact .inr (List.mem_append_right _ (List.mem_singleton_self timestamp))
  · rw [number, numberAfter]
    omega
  · rw [number, lastTimestamp_advance, numberAfter, numberAfter, List.count_append,
      List.count_singleton_self]
    omega

end AlbumFileIdGenerator

/-! ## A generated id -/

section

variable {service next : Service}

/-- Where nothing can be saved, nothing is mounted. -/
theorem getAutoSavingStorage_error {answers : SavingAnswers} {type : ContentType} {rc : Result}
    (returned : getAutoSavingStorage answers type service = (some (.error rc), next)) :
    rc = albumIsNotMounted.result := by
  have last : ∀ {fault : Fault} {storageId : StorageId} {before : Service},
      trySavingOn fault storageId (pure (.error albumIsNotMounted.result)) before =
        (some (.error rc), next) → rc = albumIsNotMounted.result := by
    intro fault storageId before failed
    rcases trySavingOn_cases failed with ⟨-, same⟩ | ⟨_, refused, -, told⟩
    · cases same
    · cases told
      rfl
  rcases getAutoSavingStorage_cases returned with ⟨-, nand | sd⟩ | ⟨-, sd⟩
  · exact last nand
  · rcases trySavingOn_cases sd with ⟨-, same⟩ | ⟨_, refused, -, nand⟩
    · cases same
    · exact last nand
  · exact last sd

end

/-- The ways a call of the generator ends. -/
inductive GeneratedOn (calendar : Calendar) (clock : Except Failure UInt64)
    (generator : AlbumFileIdGenerator) :
    Option (Except Result AlbumFileId) × (AlbumFileIdGenerator × Service) → Prop
  | aborted (service : Service) : GeneratedOn calendar clock generator (none, generator, service)
  | refused (service : Service) (rc : Result) (failed : rc ≠ .success) :
      GeneratedOn calendar clock generator (some (.error rc), generator, service)
  | unconverted (service : Service) (timestamp : UInt64) (failure : Failure)
      (read : clock = .ok timestamp) (failed : calendar timestamp = .error failure) :
      GeneratedOn calendar clock generator
        (some (.error failure.result), generator.advance timestamp, service)
  | returned (service : Service) (timestamp : UInt64) (time : TimeCalendarTime)
      (fileId : AlbumFileId) (read : clock = .ok timestamp)
      (converted : calendar timestamp = .ok time)
      (dated : fileId.dateTime = (generator.advance timestamp).dateTime time) :
      GeneratedOn calendar clock generator
        (some (.ok fileId), generator.advance timestamp, service)

theorem generateFileIdOn_generated (calendar : Calendar) (answers : SavingAnswers)
    (clock : Except Failure UInt64) (applicationId : UInt64) (type : ContentType)
    (pair : AlbumFileIdGenerator × Service) :
    GeneratedOn calendar clock pair.1
      (generateFileIdOn calendar answers clock applicationId type pair) := by
  rw [generateFileIdOn, AlbumFileIdGenerator.generateFileId, bind_apply]
  cases saving : getAutoSavingStorage answers type pair.2 with
  | mk found service =>
  cases found with
  | none => exact .aborted service
  | some storage =>
      cases storage with
      | error rc =>
          apply GeneratedOn.refused service rc
          rw [getAutoSavingStorage_error saving]
          decide
      | ok storageId =>
          cases read : clock with
          | error failure => exact .refused service failure.result failure.failed
          | ok timestamp =>
              cases converted : calendar timestamp with
              | error failure =>
                  simp only [converted]
                  exact .unconverted service timestamp failure rfl converted
              | ok time =>
                  simp only [converted]
                  exact .returned service timestamp time _ rfl converted rfl

/-! ## Messages -/

/-- What the clock shows a command that asks for a file id. -/
def ServerCommand.clockReading : ServerCommand → Option UInt64
  | control (.generateCurrentAlbumFileId _ (.ok timestamp) _ _) => some timestamp
  | _ => none

def ServerMessage.clockReading (environment : Environment) (message : ServerMessage) :
    Option UInt64 :=
  match message.dispatch environment with
  | .refused _ => none
  | .malformed _ => none
  | .called command => command.clockReading

/-- The file id that a client is handed out, and the second of it. -/
def handedOut (environment : Environment) (entry : ServerMessage × Reply) :
    Option (UInt64 × AlbumFileId) :=
  match entry.1.clockReading environment, entry.2 with
  | some timestamp, .ok (.fileId fileId) => some (timestamp, fileId)
  | _, _ => none

/-- The ways an answer leaves the generator, by what the clock showed. -/
inductive GeneratorStep (calendar : Calendar) (generator : AlbumFileIdGenerator)
    (reading : Option UInt64) : Reply → AlbumFileIdGenerator → Prop
  | elsewhere (reply : Reply) (unread : reading = none) :
      GeneratorStep calendar generator reading reply generator
  | refused (rc : Result) : GeneratorStep calendar generator reading (.error rc) generator
  | unconverted (rc : Result) (timestamp : UInt64) (failure : Failure)
      (read : reading = some timestamp) (failed : calendar timestamp = .error failure) :
      GeneratorStep calendar generator reading (.error rc) (generator.advance timestamp)
  | returned (timestamp : UInt64) (time : TimeCalendarTime) (fileId : AlbumFileId)
      (read : reading = some timestamp) (converted : calendar timestamp = .ok time)
      (dated : fileId.dateTime = (generator.advance timestamp).dateTime time) :
      GeneratorStep calendar generator reading (.ok (.fileId fileId))
        (generator.advance timestamp)

section

variable {environment : Environment} {server next reached : Server} {reply : Reply}

theorem generateCurrentAlbumFileId_step {answers : SavingAnswers} {clock : Except Failure UInt64}
    {applicationId : UInt64} {type : ContentType}
    (answered : AlbumControlService.generateCurrentAlbumFileId environment answers clock
      applicationId type server = (some reply, next)) :
    GeneratorStep environment.calendar server.fileIds clock.toOption reply next.fileIds := by
  have generated := generateFileIdOn_generated environment.calendar answers clock applicationId
    type (fileIdsPart.get server)
  rw [AlbumControlService.generateCurrentAlbumFileId, Process.bind_apply, Part.focus] at answered
  generalize generateFileIdOn environment.calendar answers clock applicationId type
    (fileIdsPart.get server) = outcome at generated answered
  cases generated with
  | aborted service => cases answered
  | refused service rc failed =>
      simp only [answer_eq, rTry, (Result.isSuccess_eq_false_iff rc).mpr failed,
        Bool.false_eq_true, if_false] at answered
      cases answered
      exact .refused rc
  | unconverted service timestamp failure read failed =>
      simp only [answer_eq, rTry, (Result.isSuccess_eq_false_iff _).mpr failure.failed,
        Bool.false_eq_true, if_false] at answered
      cases answered
      exact .unconverted _ timestamp failure (by rw [read]; rfl) failed
  | returned service timestamp time fileId read converted dated =>
      simp only [answer_eq, rTry_success] at answered
      cases answered
      exact .returned timestamp time fileId (by rw [read]; rfl) converted dated

/-- A handler under its locks is not one of the generator. -/
theorem fileIds_of_locked {command : ServerCommand} {footprint : Footprint}
    (locked : command.footprint environment = some footprint) (server : Server) :
    (command.perform environment server).2.fileIds = server.fileIds := by
  have elsewhere := (ServerCommand.fits locked).fileIds
  rcases confinedTo_command environment locked with ⟨body, focused⟩
  rw [← focused server rfl]
  exact (regionPart_independent _ .fileIds elsewhere).get_focus body server

theorem fileIds_of_object {command : ServerCommand}
    (different : command.object environment ≠ .files) (server : Server) :
    (command.perform environment server).2.fileIds = server.fileIds :=
  congrArg Prod.fst (command.frame environment server different)

theorem ServerCommand.generatorStep {command : ServerCommand}
    (answered : command.perform environment server = (some reply, next)) :
    GeneratorStep environment.calendar server.fileIds command.clockReading reply
      next.fileIds := by
  have unread : command.clockReading = none →
      (command.perform environment server).2.fileIds = server.fileIds →
      GeneratorStep environment.calendar server.fileIds command.clockReading reply
        next.fileIds := by
    intro unread same
    rw [answered] at same
    rw [same]
    exact .elsewhere reply unread
  have elsewhere : ServerObject.overlay ≠ .files := by decide
  cases command with
  | control command =>
      cases command with
      | generateCurrentAlbumFileId answers clock applicationId type =>
          have step := generateCurrentAlbumFileId_step answered
          cases clock with
          | error failure => exact step
          | ok timestamp => exact step
      | setOverlayScreenShotThumbnailData =>
          apply unread rfl
          apply fileIds_of_object
          exact elsewhere
      | setOverlayMovieThumbnailData =>
          apply unread rfl
          apply fileIds_of_object
          exact elsewhere
      | _ => exact unread rfl (fileIds_of_locked rfl server)
  | accessor command =>
      apply unread rfl
      cases locked : command.footprint environment with
      | some footprint =>
          have footprints : (ServerCommand.accessor command).footprint environment =
            some footprint := locked
          exact fileIds_of_locked footprints server
      | none =>
          apply fileIds_of_object
          rw [ServerCommand.object, locked]
          decide
  | application command => exact unread rfl (fileIds_of_locked rfl server)

theorem ServerMessage.generatorStep {message : ServerMessage}
    (answered : message.perform environment server = (some reply, next)) :
    GeneratorStep environment.calendar server.fileIds (message.clockReading environment) reply
      next.fileIds := by
  rw [ServerMessage.perform] at answered
  rw [ServerMessage.clockReading]
  cases dispatched : message.dispatch environment with
  | refused rc =>
      rw [dispatched] at answered
      cases answered
      exact .elsewhere _ rfl
  | malformed rc =>
      rw [dispatched] at answered
      cases answered
  | called command =>
      rw [dispatched] at answered
      exact ServerCommand.generatorStep answered

/-! ## Runs -/

/-- The ids of a run, each with the second it was read in. -/
def fileIdsOf (environment : Environment) (history : List (ServerMessage × Reply)) :
    List (UInt64 × AlbumFileId) :=
  history.filterMap (handedOut environment)

/-- The seconds that the clock showed in a run. -/
def readingsOf (environment : Environment) (history : List (ServerMessage × Reply)) :
    List UInt64 :=
  history.filterMap fun entry => entry.1.clockReading environment

/-- What the generator remembers of a run. The seconds that the calendar does not
convert have used up numbers too. -/
structure Numbers (environment : Environment) (history : List (ServerMessage × Reply))
    (generator : AlbumFileIdGenerator) (seconds : List UInt64) : Prop where
  counts : generator.Counts seconds
  seen : ∀ second ∈ seconds, second ∈ readingsOf environment history
  issued : ∀ second time, environment.calendar second = .ok time →
    seconds.count second = ((fileIdsOf environment history).map (·.1)).count second
  dated : ∀ entry ∈ fileIdsOf environment history, ∃ time generator,
    environment.calendar entry.1 = .ok time ∧
      entry.2.dateTime = AlbumFileIdGenerator.dateTime time generator
  numbered : (fileIdsOf environment history).map (fun entry =>
      (entry.1, entry.2.dateTime.id.toNat)) =
    numbered firstNumber 100 ((fileIdsOf environment history).map (·.1))

variable {history : List (ServerMessage × Reply)} {entry : ServerMessage × Reply}
  {generator following : AlbumFileIdGenerator} {seconds : List UInt64}

theorem fileIdsOf_snoc_of_none (unissued : handedOut environment entry = none) :
    fileIdsOf environment (history ++ [entry]) = fileIdsOf environment history := by
  rw [fileIdsOf, List.filterMap_append, List.filterMap_cons_none unissued, List.filterMap_nil,
    List.append_nil, fileIdsOf]

theorem fileIdsOf_snoc_of_some {issued : UInt64 × AlbumFileId}
    (handed : handedOut environment entry = some issued) :
    fileIdsOf environment (history ++ [entry]) = fileIdsOf environment history ++ [issued] := by
  rw [fileIdsOf, List.filterMap_append, List.filterMap_cons_some handed, List.filterMap_nil,
    fileIdsOf]

theorem mem_readingsOf_earlier {second : UInt64}
    (earlier : second ∈ readingsOf environment history) :
    second ∈ readingsOf environment (history ++ [entry]) := by
  rw [readingsOf, List.filterMap_append]
  exact List.mem_append_left _ earlier

theorem mem_readingsOf_last {timestamp : UInt64}
    (read : entry.1.clockReading environment = some timestamp) :
    timestamp ∈ readingsOf environment (history ++ [entry]) := by
  exact List.mem_filterMap.mpr ⟨entry, List.mem_append_right _ (List.mem_cons_self ..), read⟩

namespace Numbers

theorem started : Numbers environment [] .initialized [] where
  counts := AlbumFileIdGenerator.counts_initialized
  seen := nofun
  issued _ _ _ := rfl
  dated := nofun
  numbered := rfl

/-- Nothing is handed out. -/
theorem unissued (numbers : Numbers environment history generator seconds)
    (unissued : handedOut environment entry = none) {others : List UInt64}
    (counts : following.Counts others)
    (seen : ∀ second ∈ others, second ∈ readingsOf environment (history ++ [entry]))
    (same : ∀ second time, environment.calendar second = .ok time →
      others.count second = seconds.count second) :
    Numbers environment (history ++ [entry]) following others where
  counts := counts
  seen := seen
  issued second time converted := by
    rw [fileIdsOf_snoc_of_none unissued, same second time converted]
    exact numbers.issued second time converted
  dated := by
    rw [fileIdsOf_snoc_of_none unissued]
    exact numbers.dated
  numbered := by
    rw [fileIdsOf_snoc_of_none unissued]
    exact numbers.numbered

theorem seen_snoc (numbers : Numbers environment history generator seconds) {timestamp : UInt64}
    (read : entry.1.clockReading environment = some timestamp) :
    ∀ second ∈ seconds ++ [timestamp],
      second ∈ readingsOf environment (history ++ [entry]) := by
  intro second member
  rcases List.mem_append.mp member with earlier | last
  · exact mem_readingsOf_earlier (numbers.seen second earlier)
  · rw [List.mem_singleton.mp last]
    exact mem_readingsOf_last read

theorem returned (numbers : Numbers environment history generator seconds) {timestamp : UInt64}
    {time : TimeCalendarTime} {fileId : AlbumFileId}
    (read : entry.1.clockReading environment = some timestamp)
    (replied : entry.2 = .ok (.fileId fileId))
    (converted : environment.calendar timestamp = .ok time)
    (dated : fileId.dateTime = (generator.advance timestamp).dateTime time)
    (forward : ∀ second ∈ seconds, second.toNat ≤ timestamp.toNat) :
    Numbers environment (history ++ [entry]) (generator.advance timestamp)
      (seconds ++ [timestamp]) := by
  have advanced := numbers.counts.advance forward
  have handed : handedOut environment entry = some (timestamp, fileId) := by
    rw [handedOut, read, replied]
  have number : fileId.dateTime.id.toNat = numberAfter firstNumber 100
      ((fileIdsOf environment history).map (·.1)) timestamp := by
    have small := advanced.2.small
    rw [dated, AlbumFileIdGenerator.dateTime, UInt32.toNat_toUInt8]
    rw [numberAfter, ← numbers.issued timestamp time converted, ← numberAfter, ← advanced.1]
    omega
  constructor
  case counts => exact advanced.2
  case seen => exact numbers.seen_snoc read
  case issued =>
    intro second other convertedOther
    rw [fileIdsOf_snoc_of_some handed, List.map_append, List.count_append, List.count_append,
      numbers.issued second other convertedOther]
    rfl
  case dated =>
    intro issued member
    rw [fileIdsOf_snoc_of_some handed] at member
    rcases List.mem_append.mp member with earlier | last
    · exact numbers.dated issued earlier
    · rw [List.mem_singleton.mp last]
      exact ⟨time, generator.advance timestamp, converted, dated⟩
  case numbered =>
    rw [fileIdsOf_snoc_of_some handed, List.map_append, List.map_append, numbers.numbered,
      List.map_singleton, List.map_singleton, numbered_snoc, number]

/-- An answer keeps the count, if the clock has not gone back. -/
theorem step (numbers : Numbers environment history generator seconds)
    (answered : GeneratorStep environment.calendar generator (entry.1.clockReading environment)
      entry.2 following)
    (forward : ∀ timestamp, entry.1.clockReading environment = some timestamp →
      ∀ second ∈ readingsOf environment history, second.toNat ≤ timestamp.toNat) :
    ∃ others, Numbers environment (history ++ [entry]) following others := by
  rcases entry with ⟨message, reply⟩
  have earlier : ∀ second ∈ seconds,
      second ∈ readingsOf environment (history ++ [(message, reply)]) :=
    fun second member => mem_readingsOf_earlier (numbers.seen second member)
  cases answered with
  | elsewhere _ unread =>
      have unissued : handedOut environment (message, reply) = none := by
        rw [handedOut, unread]
      exact ⟨seconds, numbers.unissued unissued numbers.counts earlier fun _ _ _ => rfl⟩
  | refused rc =>
      have unissued : handedOut environment (message, .error rc) = none := by
        rw [handedOut]
        cases message.clockReading environment <;> rfl
      exact ⟨seconds, numbers.unissued unissued numbers.counts earlier fun _ _ _ => rfl⟩
  | unconverted rc timestamp failure read failed =>
      have unissued : handedOut environment (message, .error rc) = none := by
        rw [handedOut, read]
      have advanced := numbers.counts.advance fun second member =>
        forward timestamp read second (numbers.seen second member)
      refine ⟨seconds ++ [timestamp], numbers.unissued unissued advanced.2
        (numbers.seen_snoc read) ?_⟩
      intro second time converted
      have different : timestamp ≠ second := by
        intro same
        rw [same, converted] at failed
        cases failed
      rw [List.count_append, List.count_singleton, if_neg (by simpa using different),
        Nat.add_zero]
  | returned timestamp time fileId read converted dated =>
      have following := fun second (member : second ∈ seconds) =>
        forward timestamp read second (numbers.seen second member)
      exact ⟨_, numbers.returned read rfl converted dated following⟩

end Numbers

theorem numbers_of_answered (fresh : server.fileIds = .initialized)
    (answered : Answered (ServerMessage.perform environment) server history reached)
    (forward : (readingsOf environment history).Pairwise fun earlier later =>
      earlier.toNat ≤ later.toNat) :
    ∃ seconds, Numbers environment history reached.fileIds seconds := by
  induction answered with
  | nil =>
      rw [fresh]
      exact ⟨[], .started⟩
  | @snoc history before next message reply earlier answered induction =>
      rw [readingsOf, List.filterMap_append, List.pairwise_append] at forward
      rcases forward with ⟨earlierForward, -, last⟩
      rcases induction earlierForward with ⟨seconds, numbers⟩
      apply numbers.step (ServerMessage.generatorStep answered)
      intro timestamp read second member
      apply last second member timestamp
      exact List.mem_filterMap.mpr ⟨(message, reply), List.mem_cons_self .., read⟩

/-- Dates tell ids apart as their seconds and numbers do. -/
theorem dateTime_eq_iff {calendar : Calendar} (faithful : calendar.Faithful)
    {first second : UInt64} {time otherTime : TimeCalendarTime}
    (converted : calendar first = .ok time) (otherConverted : calendar second = .ok otherTime)
    (generator other : AlbumFileIdGenerator) :
    generator.dateTime time = other.dateTime otherTime ↔
      first = second ∧ (generator.dateTime time).id = (other.dateTime otherTime).id := by
  constructor
  · intro same
    have times : time = otherTime := by
      cases time
      cases otherTime
      simp only [AlbumFileIdGenerator.dateTime, AlbumDateTime.mk.injEq] at same
      simp only [TimeCalendarTime.mk.injEq]
      exact ⟨same.1, same.2.1, same.2.2.1, same.2.2.2.1, same.2.2.2.2.1, same.2.2.2.2.2.1⟩
    rw [← times] at otherConverted
    exact ⟨faithful first second time converted otherConverted, congrArg AlbumDateTime.id same⟩
  · rintro ⟨rfl, ids⟩
    cases converted.symm.trans otherConverted
    simp only [AlbumFileIdGenerator.dateTime] at ids ⊢
    rw [ids]

/-- The ids of a run have the number of those before them in their second, modulo a
hundred, if the clock does not go back. Where the calendar tells seconds apart, no
date is handed out twice exactly when no second has more than a hundred ids. -/
theorem fileIds_numbered (fresh : server.fileIds = .initialized)
    (answered : Answered (ServerMessage.perform environment) server history reached)
    (forward : (readingsOf environment history).Pairwise fun earlier later =>
      earlier.toNat ≤ later.toNat) :
    let issued := fileIdsOf environment history
    issued.map (fun entry => (entry.1, entry.2.dateTime.id.toNat)) =
        numbered firstNumber 100 (issued.map (·.1)) ∧
      (environment.calendar.Faithful →
        ((issued.map (·.2.dateTime)).Nodup ↔
          ∀ second, (issued.map (·.1)).count second ≤ 100)) := by
  intro issued
  rcases numbers_of_answered fresh answered forward with ⟨seconds, numbers⟩
  have numbering : issued.map (fun entry => (entry.1, entry.2.dateTime.id.toNat)) =
      numbered firstNumber 100 (issued.map (·.1)) := numbers.numbered
  refine ⟨numbering, fun faithful => ?_⟩
  rw [← nodup_numbered_iff firstNumber 100 (by decide) (issued.map (·.1)), ← numbering]
  apply nodup_map_congr
  intro entry member other otherMember
  rcases numbers.dated entry member with ⟨time, generator, converted, dated⟩
  rcases numbers.dated other otherMember with ⟨otherTime, following, otherConverted, otherDated⟩
  rw [dated, otherDated, dateTime_eq_iff faithful converted otherConverted, Prod.mk.injEq,
    UInt8.toNat_inj]

end

/-! ## Two screenshots of one second -/

/-- `GenerateCurrentAlbumFileId`, sent in the first second. -/
def generateCommand : ServerCommand :=
  .control (.generateCurrentAlbumFileId ⟨.ok .nand, none, none⟩ (.ok 1) 1 .screenshot)

/-- The ids of the first second on the calendar. -/
def screenshotOfSecond (id : UInt8) : AlbumFileId :=
  { AlbumFileId.zero with
    applicationId := 1
    dateTime := ⟨2021, 5, 17, 20, 31, 1, id⟩
    storageId := .nand
    type := .screenshot }

theorem dispatch_generate :
    generateCommand.sent.dispatch plainEnvironment = .called generateCommand :=
  ServerCommand.dispatch_sent rfl
    (by simp [generateCommand, ServerCommand.client, ControlCommand.client])

theorem perform_generate (server : Server) :
    generateCommand.sent.perform plainEnvironment server =
      generateCommand.perform plainEnvironment server := by
  rw [ServerMessage.perform, dispatch_generate]

theorem answered_twice : ∃ reached, Answered (ServerMessage.perform plainEnvironment)
    (.around mountedService)
    [(generateCommand.sent, .ok (.fileId (screenshotOfSecond 0))),
      (generateCommand.sent, .ok (.fileId (screenshotOfSecond 1)))] reached := by
  have first : (generateCommand.sent.perform plainEnvironment (.around mountedService)).1 =
      some (.ok (.fileId (screenshotOfSecond 0))) := by
    rw [perform_generate]
    rfl
  have second : (generateCommand.sent.perform plainEnvironment
      (generateCommand.sent.perform plainEnvironment (.around mountedService)).2).1 =
        some (.ok (.fileId (screenshotOfSecond 1))) := by
    rw [perform_generate, perform_generate]
    rfl
  have one := Answered.nil.snoc (Prod.ext first rfl)
  exact ⟨_, one.snoc (Prod.ext second rfl)⟩

theorem fileIds_numbered_twice :
    let issued := [(1, screenshotOfSecond 0), (1, screenshotOfSecond 1)]
    issued.map (fun entry => (entry.1, entry.2.dateTime.id.toNat)) =
        numbered firstNumber 100 (issued.map (·.1)) ∧
      (minuteCalendar.Faithful →
        ((issued.map (·.2.dateTime)).Nodup ↔
          ∀ second, (issued.map (·.1)).count second ≤ 100)) := by
  rcases answered_twice with ⟨reached, answered⟩
  have forward : (readingsOf plainEnvironment
      [(generateCommand.sent, .ok (.fileId (screenshotOfSecond 0))),
        (generateCommand.sent, .ok (.fileId (screenshotOfSecond 1)))]).Pairwise
          fun earlier later => earlier.toNat ≤ later.toNat := by
    have readings : readingsOf plainEnvironment
        [(generateCommand.sent, .ok (.fileId (screenshotOfSecond 0))),
          (generateCommand.sent, .ok (.fileId (screenshotOfSecond 1)))] = [1, 1] := by
      have read : generateCommand.sent.clockReading plainEnvironment = some 1 := by
        rw [ServerMessage.clockReading, dispatch_generate]
        rfl
      simp only [readingsOf, List.filterMap_cons, List.filterMap_nil, read]
    rw [readings]
    decide
  exact fileIds_numbered rfl answered forward

end Capsrv
