import Capsrv.Foundation.Aborts
import Capsrv.Foundation.Follows
import Capsrv.Server

/-! # The settings of the album

`g_AlbumSettings` from its constructor on, through any number of starts and ends of
the server: what the items of the firmware debug settings turn into, and when a
custom directory is in force.
-/

namespace Capsrv

open Process

/-! ## Items -/

/-- What `GetSettingsItemValue` reports for a variable of one byte, and what it
leaves in it. A call that fails ends the process. -/
abbrev FlagItem := Option (Nat × Bool)

/-- The answers to the calls of `AlbumSettings::Initialize`. -/
structure SettingsAnswers where
  isDebugModeEnabled : Option Bool
  screenshotFiledataVerification : FlagItem
  screenshotFileSupport : FlagItem
  movieFileSupport : FlagItem
  movieFilesignVerification : FlagItem
  movieFilehashVerification : FlagItem
  directoryChange : FlagItem
  directoryPath : Option (Nat × Text)

/-- `g_AlbumSettings`, with the number of arrays it has allocated and not deleted. -/
structure AlbumSettingsObject extends AlbumSettings where
  debugMode : Bool
  verifyMovieFileSignature : Bool
  verifyMovieFileHash : Bool
  unused : UInt32
  allocated : Nat
deriving DecidableEq, Repr

namespace AlbumSettingsObject

/-- `AlbumSettings::AlbumSettings`, on an object of static storage. -/
def constructed : AlbumSettingsObject where
  defaultDirectory := true
  screenshotSupport := false
  movieSupport := false
  verifyScreenShotFiledata := true
  nandScreenshotMaxCount := 0
  nandMovieMaxCount := 0
  sdScreenshotMaxCount := 0
  sdMovieMaxCount := 0
  customDirectoryPath := none
  debugMode := false
  verifyMovieFileSignature := true
  verifyMovieFileHash := true
  unused := 0
  allocated := 0

end AlbumSettingsObject

/-! ## `Initialize` and `Exit` -/

/-- A call that ends the process when it fails. -/
def asked {α : Type} (answer : Option α) : Process AlbumSettingsObject α :=
  match answer with
  | none => Process.abort
  | some value => pure value

/-- A flag that is on where the item is not set. -/
def askedFlag (item : FlagItem) : Process AlbumSettingsObject Bool := do
  let (length, value) ← asked item
  pure (length = 0 || value)

/-- The item of the directory, read into a new array. The call is given the size of a
pointer; what it reports is compared with that of the array. -/
def readDirectory (answers : SettingsAnswers) : Process AlbumSettingsObject Unit := do
  modify fun object => { object with allocated := object.allocated + 1 }
  let (length, path) ← asked answers.directoryPath
  if length ≤ 0x100 then modify fun object => { object with customDirectoryPath := some path }
  else modify fun object => { object with allocated := object.allocated - 1 }

/-- The part of `Initialize` for firmwares from 4.0.0 on. -/
def initializeMovies (firmware : HosVersion) (answers : SettingsAnswers) :
    Process AlbumSettingsObject Unit := do
  let screenshotSupport ← askedFlag answers.screenshotFileSupport
  modify fun object => { object with screenshotSupport }
  let movieSupport ← askedFlag answers.movieFileSupport
  modify fun object => { object with movieSupport }
  let verifyMovieFileSignature ← askedFlag answers.movieFilesignVerification
  modify fun object => { object with verifyMovieFileSignature }
  let verifyMovieFileHash ← askedFlag answers.movieFilehashVerification
  modify fun object => { object with verifyMovieFileHash }
  modify fun object =>
    { object with
      unused := 3
      nandScreenshotMaxCount := 1000
      nandMovieMaxCount := 100
      sdScreenshotMaxCount := 10000
      sdMovieMaxCount := 1000 }
  if ¬ .version5 ≤ firmware then
    modify fun object => { object with customDirectoryPath := none }
  else
    let (length, changeDirectory) ← asked answers.directoryChange
    if length ≠ 0 ∧ changeDirectory = true then readDirectory answers
    else pure ()

/-- `AlbumSettings::Initialize`. The directory is chosen by the debug mode of the
start before. -/
def albumSettingsInitialize (firmware : HosVersion) (answers : SettingsAnswers) :
    Process AlbumSettingsObject Unit := do
  let isDebugEnabled ← asked answers.isDebugModeEnabled
  modify fun object =>
    { object with defaultDirectory := !object.debugMode, debugMode := isDebugEnabled }
  let verifyScreenShotFiledata ← askedFlag answers.screenshotFiledataVerification
  modify fun object => { object with verifyScreenShotFiledata }
  if ¬ .version4 ≤ firmware then
    modify fun object =>
      { object with
        screenshotSupport := true
        movieSupport := false
        verifyMovieFileSignature := false
        verifyMovieFileHash := false
        customDirectoryPath := none }
  else initializeMovies firmware answers

/-- `AlbumSettings::Exit`. -/
def albumSettingsExit (object : AlbumSettingsObject) : AlbumSettingsObject :=
  { object with
    customDirectoryPath := none
    allocated :=
      if object.customDirectoryPath ≠ none then object.allocated - 1 else object.allocated }

/-! ## What a start leaves -/

/-- The directory that the items name: one that is switched on and whose text is not
too long. -/
def SettingsAnswers.directory (firmware : HosVersion) (answers : SettingsAnswers) : Option Text :=
  if .version5 ≤ firmware then
    match answers.directoryChange, answers.directoryPath with
    | some (length, changeDirectory), some (pathLength, path) =>
        if (length ≠ 0 ∧ changeDirectory = true) ∧ pathLength ≤ 0x100 then some path else none
    | _, _ => none
  else none

/-- The limits of the numbers of files. -/
structure AlbumSettings.Limits (settings : AlbumSettings) (nandScreenshot nandMovie sdScreenshot
    sdMovie : UInt64) : Prop where
  nandScreenshot : settings.nandScreenshotMaxCount = nandScreenshot
  nandMovie : settings.nandMovieMaxCount = nandMovie
  sdScreenshot : settings.sdScreenshotMaxCount = sdScreenshot
  sdMovie : settings.sdMovieMaxCount = sdMovie

/-- What `Initialize` leaves of an object without a directory. -/
structure SettingsStarted (firmware : HosVersion) (answers : SettingsAnswers)
    (object next : AlbumSettingsObject) : Prop where
  defaultDirectory : next.defaultDirectory = !object.debugMode
  debugMode : answers.isDebugModeEnabled = some next.debugMode
  directory : next.customDirectoryPath = answers.directory firmware
  allocated : next.allocated =
    object.allocated + if (answers.directory firmware).isSome then 1 else 0
  limits : if .version4 ≤ firmware then next.Limits 1000 100 10000 1000
    else next.Limits object.nandScreenshotMaxCount object.nandMovieMaxCount
      object.sdScreenshotMaxCount object.sdMovieMaxCount

section

variable {firmware : HosVersion} {answers : SettingsAnswers} {object next : AlbumSettingsObject}

theorem asked_eq_some {α : Type} {answer : Option α} {value : α}
    (returned : asked answer object = (some value, next)) : answer = some value ∧ next = object := by
  cases answer with
  | none => cases returned
  | some other =>
      cases returned
      exact ⟨rfl, rfl⟩

theorem askedFlag_eq_some {item : FlagItem} {value : Bool}
    (returned : askedFlag item object = (some value, next)) : next = object := by
  rcases exists_of_bind returned with ⟨answer, middle, answered, returned⟩
  cases returned
  exact (asked_eq_some answered).2

/-- A new array is kept if it holds a directory, and deleted otherwise. -/
theorem readDirectory_eq_some (returned : readDirectory answers object = (some (), next)) :
    ∃ length path, answers.directoryPath = some (length, path) ∧ next =
      if length ≤ 0x100 then
        { object with customDirectoryPath := some path, allocated := object.allocated + 1 }
      else object := by
  rw [readDirectory, modify_bind_apply] at returned
  rcases exists_of_bind returned with ⟨⟨length, path⟩, middle, answered, returned⟩
  rcases asked_eq_some answered with ⟨found, rfl⟩
  refine ⟨length, path, found, ?_⟩
  dsimp only at returned
  split at returned
  case isTrue short =>
    cases returned
    rw [if_pos short]
  case isFalse long =>
    cases returned
    rw [if_neg long]
    rfl

theorem version4_le (late : HosVersion.version5 ≤ firmware) : HosVersion.version4 ≤ firmware := by
  have earlier : HosVersion.version4 ≤ .version5 := by decide
  exact UInt32.le_trans earlier late

/-! ### The directory that the items name -/

theorem directory_of_early (early : ¬ HosVersion.version5 ≤ firmware) :
    answers.directory firmware = none := if_neg early

theorem directory_of_unwanted {length : Nat} {changeDirectory : Bool}
    (found : answers.directoryChange = some (length, changeDirectory))
    (unwanted : ¬ (length ≠ 0 ∧ changeDirectory = true)) : answers.directory firmware = none := by
  unfold SettingsAnswers.directory
  rw [found]
  split
  case isFalse => rfl
  case isTrue =>
    cases answers.directoryPath with
    | none => rfl
    | some item => exact if_neg fun both => unwanted both.1

theorem directory_of_wanted {length pathLength : Nat} {changeDirectory : Bool} {path : Text}
    (recent : HosVersion.version5 ≤ firmware)
    (found : answers.directoryChange = some (length, changeDirectory))
    (wanted : length ≠ 0 ∧ changeDirectory = true)
    (pathFound : answers.directoryPath = some (pathLength, path)) :
    answers.directory firmware = if pathLength ≤ 0x100 then some path else none := by
  unfold SettingsAnswers.directory
  rw [if_pos recent, found, pathFound]
  dsimp only
  simp only [wanted, not_false_eq_true, ne_eq, true_and]

/-! ### The steps of `Initialize` -/

/-- From 4.0.0 on the limits are set, and from 5.0.0 on a directory can be. -/
theorem initializeMovies_eq_some (fresh : object.customDirectoryPath = none)
    (returned : initializeMovies firmware answers object = (some (), next)) :
    next.defaultDirectory = object.defaultDirectory ∧ next.debugMode = object.debugMode ∧
      next.customDirectoryPath = answers.directory firmware ∧
      (next.allocated = object.allocated + if (answers.directory firmware).isSome then 1 else 0) ∧
      next.Limits 1000 100 10000 1000 := by
  rw [initializeMovies] at returned
  rcases exists_of_bind returned with ⟨screenshotSupport, middle, flag, returned⟩
  cases askedFlag_eq_some flag
  rw [modify_bind_apply] at returned
  rcases exists_of_bind returned with ⟨movieSupport, middle, flag, returned⟩
  cases askedFlag_eq_some flag
  rw [modify_bind_apply] at returned
  rcases exists_of_bind returned with ⟨verifySignature, middle, flag, returned⟩
  cases askedFlag_eq_some flag
  rw [modify_bind_apply] at returned
  rcases exists_of_bind returned with ⟨verifyHash, middle, flag, returned⟩
  cases askedFlag_eq_some flag
  rw [modify_bind_apply, modify_bind_apply] at returned
  split at returned
  case isTrue early =>
    cases returned
    rw [directory_of_early early]
    exact ⟨rfl, rfl, rfl, rfl, rfl, rfl, rfl, rfl⟩
  case isFalse late =>
    have recent := Decidable.not_not.mp late
    rcases exists_of_bind returned with ⟨⟨length, changeDirectory⟩, middle, answered, returned⟩
    rcases asked_eq_some answered with ⟨found, rfl⟩
    dsimp only at returned
    split at returned
    case isTrue wanted =>
      rcases readDirectory_eq_some returned with ⟨pathLength, path, pathFound, rfl⟩
      rw [directory_of_wanted recent found wanted pathFound]
      by_cases short : pathLength ≤ 0x100
      · rw [if_pos short, if_pos short]
        exact ⟨rfl, rfl, rfl, rfl, rfl, rfl, rfl, rfl⟩
      · rw [if_neg short, if_neg short]
        exact ⟨rfl, rfl, fresh, rfl, rfl, rfl, rfl, rfl⟩
    case isFalse unwanted =>
      cases returned
      rw [directory_of_unwanted found unwanted]
      exact ⟨rfl, rfl, fresh, rfl, rfl, rfl, rfl, rfl⟩

/-- What a start that returns leaves of an object without a directory. -/
theorem settingsStarted_of_returned (fresh : object.customDirectoryPath = none)
    (returned : albumSettingsInitialize firmware answers object = (some (), next)) :
    SettingsStarted firmware answers object next := by
  rw [albumSettingsInitialize] at returned
  rcases exists_of_bind returned with ⟨isDebugEnabled, middle, answered, rest⟩
  clear returned
  rcases asked_eq_some answered with ⟨debug, rfl⟩
  rw [modify_bind_apply] at rest
  rcases exists_of_bind rest with ⟨verifyScreenShotFiledata, middle, flag, rest⟩
  cases askedFlag_eq_some flag
  rw [modify_bind_apply] at rest
  split at rest
  case isTrue early =>
    cases rest
    have older : ¬ HosVersion.version5 ≤ firmware := fun late => early (version4_le late)
    constructor
    case defaultDirectory => rfl
    case debugMode => exact debug
    case directory => exact (directory_of_early older).symm
    case allocated =>
      rw [directory_of_early older]
      rfl
    case limits =>
      rw [if_neg early]
      exact ⟨rfl, rfl, rfl, rfl⟩
  case isFalse late =>
    have started := initializeMovies_eq_some (by exact fresh) rest
    rcases started with ⟨defaultDirectory, debugMode, directory, allocated, limits⟩
    constructor
    case defaultDirectory => exact defaultDirectory
    case debugMode =>
      rw [debugMode]
      exact debug
    case directory => exact directory
    case allocated => exact allocated
    case limits =>
      rw [if_pos (Decidable.not_not.mp late)]
      exact limits

end

end Capsrv
