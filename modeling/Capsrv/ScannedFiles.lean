import Capsrv.DirectoryScan

/-! # The files of a scan

The four loops of a scan, taken apart into the traversal, which meets one file
after the other, and what is done with a file. A scan is one loop over the
entries of the files it meets, and the callback only decides how far it goes.
-/

namespace Capsrv

/-! ## The traversal -/

section

variable {τ : Type} (reader : DirectoryReader)

/-- A loop body that enters a directory below, unless its number is skipped. -/
def enterDirectory (skips : Int → Prop) [DecidablePred skips] (mode : OpenDirectoryMode)
    (body : DirectoryEntry → Scan τ → Flow Result (Scan τ)) (dirPathLen : Nat)
    (entry : DirectoryEntry) (scan : Scan τ) : Flow Result (Scan τ) :=
  if skips (Text.atoi entry.name) then .next scan
  else
    scanDirectory reader mode body
      { scan with path := scan.path.print dirPathLen (entry.name ++ ascii "/") }

variable (file : DirectoryEntry → Scan τ → Flow Result (Scan τ))

def visitDay : (monthDirPathLen : Nat) → DirectoryEntry → Scan τ → Flow Result (Scan τ) :=
  enterDirectory reader (fun day => day < 1 ∨ 31 < day) .file file

def visitMonth (yearDirPathLen : Nat) (entry : DirectoryEntry) :
    Scan τ → Flow Result (Scan τ) :=
  enterDirectory reader (fun month => month < 1 ∨ 12 < month) .directory
    (visitDay reader file (yearDirPathLen + 1 + entry.name.length)) yearDirPathLen entry

def visitYear (rootDirPathLen : Nat) (entry : DirectoryEntry) : Scan τ → Flow Result (Scan τ) :=
  enterDirectory reader (fun year => 10000 < year) .directory
    (visitMonth reader file (rootDirPathLen + 1 + entry.name.length)) rootDirPathLen entry

/-- The traversal of a storage, with anything done with its files. -/
def visitImageDirectory (storage : StorageId) (outcome : τ) : Flow Result (Scan τ) :=
  let path := PathBuffer.print ⟨[], []⟩ 0 (mountPoint storage ++ ascii ":/")
  scanDirectory reader .directory (visitYear reader file path.text.length) ⟨path, 0, outcome, []⟩

end

theorem scanImageDirectory_eq_visit {τ : Type} (cipher : PathCipher) (reader : DirectoryReader)
    (storage : StorageId) (stack : Nat → Block)
    (albumFileCallback : AlbumEntry → τ → τ × Bool) (outcome : τ) :
    scanImageDirectory cipher reader storage stack albumFileCallback outcome =
      visitImageDirectory reader (scanFile cipher storage stack albumFileCallback) storage
        outcome := rfl

/-! ## The files that are met -/

/-- A file is met, and nothing ends the traversal. -/
def recordFile (file : DirectoryEntry) (record : Scan (List DirectoryEntry)) :
    Flow Result (Scan (List DirectoryEntry)) :=
  .next { record with decoded := record.decoded + 1, outcome := record.outcome ++ [file] }

/-- The files of a storage, in the order of a scan that is not ended. -/
def metFiles (reader : DirectoryReader) (storage : StorageId) : List DirectoryEntry :=
  (visitImageDirectory reader recordFile storage []).state.outcome

section

variable (cipher : PathCipher) (storage : StorageId)

/-- The entry of a file, if its name can be read over what the buffer held. -/
def scannedEntry (stack : Block) (file : DirectoryEntry) : Option AlbumEntry :=
  let read := AlbumFileId.fromString cipher storage stack .zero file.name
  if read.1.isSuccess then some ⟨file.fileSize, read.2⟩ else none

/-- The entries of some files, the buffer of each holding what was there. -/
def scannedEntries (stack : Nat → Block) (files : List DirectoryEntry) : List AlbumEntry :=
  files.zipIdx.filterMap fun file => scannedEntry cipher storage (stack file.2) file.1

theorem scannedEntries_append (stack : Nat → Block) (files : List DirectoryEntry)
    (file : DirectoryEntry) :
    scannedEntries cipher storage stack (files ++ [file]) =
      scannedEntries cipher storage stack files ++
        (scannedEntry cipher storage (stack files.length) file).toList := by
  have last : [file].zipIdx files.length = [(file, files.length)] := rfl
  rw [scannedEntries, List.zipIdx_append, Nat.zero_add, last, List.filterMap_append,
    List.filterMap_cons]
  dsimp only
  cases scannedEntry cipher storage (stack files.length) file with
  | none => rfl
  | some entry => rfl

end

/-! ## A scan is one loop -/

section

variable {τ : Type} {cipher : PathCipher} {storage : StorageId} {stack : Nat → Block}
  {albumFileCallback : AlbumEntry → τ → τ × Bool} {initial : τ}

/-- The callback has seen the entries of the files that are recorded. -/
structure Scan.Covers (cipher : PathCipher) (storage : StorageId) (stack : Nat → Block)
    (albumFileCallback : AlbumEntry → τ → τ × Bool) (initial : τ) (scan : Scan τ)
    (record : Scan (List DirectoryEntry)) : Prop where
  path : scan.path = record.path
  decoded : scan.decoded = record.outcome.length
  outcome : Flow.forEach (Flow.call albumFileCallback)
    (scannedEntries cipher storage stack record.outcome) initial = .next scan.outcome

/-- The callback has ended the scan at one of the files that are recorded. -/
def Scan.Ended (cipher : PathCipher) (storage : StorageId) (stack : Nat → Block)
    (albumFileCallback : AlbumEntry → τ → τ × Bool) (initial : τ) (_value : Result)
    (scan : Scan τ) (record : Scan (List DirectoryEntry)) : Prop :=
  Flow.forEach (Flow.call albumFileCallback)
    (scannedEntries cipher storage stack record.outcome) initial = .leave () scan.outcome

theorem Scan.Ended.of_outcome_eq {value : Result} {scan : Scan τ}
    {record other : Scan (List DirectoryEntry)}
    (ended : scan.Ended cipher storage stack albumFileCallback initial value record)
    (same : other.outcome = record.outcome) :
    scan.Ended cipher storage stack albumFileCallback initial value other := by
  unfold Scan.Ended
  rw [same]
  exact ended

theorem Scan.Ended.recordFile {value : Result} {scan : Scan τ}
    {record : Scan (List DirectoryEntry)} (file : DirectoryEntry)
    (ended : scan.Ended cipher storage stack albumFileCallback initial value record) :
    scan.Ended cipher storage stack albumFileCallback initial value
      (Capsrv.recordFile file record).state := by
  unfold Scan.Ended at ended ⊢
  change Flow.forEach _ (scannedEntries cipher storage stack (record.outcome ++ [file])) _ = _
  rw [scannedEntries_append, Flow.forEach_append, ended]

/-- A file is decoded, and the callback called with its entry. -/
theorem scanFile_follows (file : DirectoryEntry) (scan : Scan τ)
    (record : Scan (List DirectoryEntry))
    (covers : scan.Covers cipher storage stack albumFileCallback initial record) :
    Flow.Follows (Scan.Covers cipher storage stack albumFileCallback initial)
      (Scan.Ended cipher storage stack albumFileCallback initial)
      (scanFile cipher storage stack albumFileCallback file scan) (recordFile file record) := by
  have fed : Flow.forEach (Flow.call albumFileCallback)
      (scannedEntries cipher storage stack (record.outcome ++ [file])) initial =
      Flow.forEach (Flow.call albumFileCallback)
        (scannedEntry cipher storage (stack scan.decoded) file).toList scan.outcome := by
    rw [scannedEntries_append, Flow.forEach_append, covers.outcome, covers.decoded]
  have counted : (record.outcome ++ [file]).length = scan.decoded + 1 := by
    rw [covers.decoded, List.length_append, List.length_singleton]
  unfold scanFile recordFile
  unfold scannedEntry at fed
  dsimp only at fed ⊢
  split
  case isTrue read =>
    rw [if_pos read, Option.toList_some, Flow.forEach] at fed
    split
    case isTrue stops =>
      rw [Flow.call_of_stop stops] at fed
      exact .ended fed
    case isFalse goesOn =>
      rw [Flow.call_of_continue (Bool.eq_false_iff.mpr goesOn)] at fed
      exact .next ⟨covers.path, counted.symm, fed⟩
  case isFalse unread =>
    rw [if_neg unread] at fed
    exact .next ⟨covers.path, counted.symm, fed⟩

theorem Scan.Ended.enterDirectory {reader : DirectoryReader} {skips : Int → Prop}
    [DecidablePred skips] {mode : OpenDirectoryMode} {dirPathLen : Nat}
    {leading : DirectoryEntry → Scan (List DirectoryEntry) →
      Flow Result (Scan (List DirectoryEntry))} {value : Result} {scan : Scan τ}
    (stays : ∀ entry record,
      scan.Ended cipher storage stack albumFileCallback initial value record →
      scan.Ended cipher storage stack albumFileCallback initial value
        (leading entry record).state)
    (entry : DirectoryEntry) (record : Scan (List DirectoryEntry))
    (ended : scan.Ended cipher storage stack albumFileCallback initial value record) :
    scan.Ended cipher storage stack albumFileCallback initial value
      (Capsrv.enterDirectory reader skips mode leading dirPathLen entry record).state := by
  unfold Capsrv.enterDirectory
  split
  · exact ended
  · exact scanDirectory_preserves (fun _ ended => ended.of_outcome_eq rfl) stays _
      (ended.of_outcome_eq rfl)

theorem scanDirectory_follows {reader : DirectoryReader} {mode : OpenDirectoryMode}
    {body : DirectoryEntry → Scan τ → Flow Result (Scan τ)}
    {leading : DirectoryEntry → Scan (List DirectoryEntry) →
      Flow Result (Scan (List DirectoryEntry))}
    (step : ∀ entry scan record,
      scan.Covers cipher storage stack albumFileCallback initial record →
      Flow.Follows (Scan.Covers cipher storage stack albumFileCallback initial)
        (Scan.Ended cipher storage stack albumFileCallback initial)
        (body entry scan) (leading entry record))
    (stays : ∀ value scan entry record,
      Scan.Ended cipher storage stack albumFileCallback initial value scan record →
      Scan.Ended cipher storage stack albumFileCallback initial value scan
        (leading entry record).state)
    (scan : Scan τ) (record : Scan (List DirectoryEntry))
    (covers : scan.Covers cipher storage stack albumFileCallback initial record) :
    Flow.Follows (Scan.Covers cipher storage stack albumFileCallback initial)
      (Scan.Ended cipher storage stack albumFileCallback initial)
      (scanDirectory reader mode body scan) (scanDirectory reader mode leading record) := by
  have opening : scan.opening.Covers cipher storage stack albumFileCallback initial
      record.opening := ⟨covers.path, covers.decoded, covers.outcome⟩
  unfold scanDirectory
  rw [covers.path]
  cases reader.openDirectory record.path.text mode with
  | error result => exact .leave opening
  | ok entries => exact Flow.forEach_follows step stays (delivered entries) _ _ opening

theorem enterDirectory_follows {reader : DirectoryReader} {skips : Int → Prop}
    [DecidablePred skips] {mode : OpenDirectoryMode} {dirPathLen : Nat}
    {body : DirectoryEntry → Scan τ → Flow Result (Scan τ)}
    {leading : DirectoryEntry → Scan (List DirectoryEntry) →
      Flow Result (Scan (List DirectoryEntry))}
    (step : ∀ entry scan record,
      scan.Covers cipher storage stack albumFileCallback initial record →
      Flow.Follows (Scan.Covers cipher storage stack albumFileCallback initial)
        (Scan.Ended cipher storage stack albumFileCallback initial)
        (body entry scan) (leading entry record))
    (stays : ∀ value scan entry record,
      Scan.Ended cipher storage stack albumFileCallback initial value scan record →
      Scan.Ended cipher storage stack albumFileCallback initial value scan
        (leading entry record).state)
    (entry : DirectoryEntry) (scan : Scan τ) (record : Scan (List DirectoryEntry))
    (covers : scan.Covers cipher storage stack albumFileCallback initial record) :
    Flow.Follows (Scan.Covers cipher storage stack albumFileCallback initial)
      (Scan.Ended cipher storage stack albumFileCallback initial)
      (enterDirectory reader skips mode body dirPathLen entry scan)
      (enterDirectory reader skips mode leading dirPathLen entry record) := by
  unfold enterDirectory
  split
  · exact .next covers
  · refine scanDirectory_follows step stays _ _ ⟨?_, covers.decoded, covers.outcome⟩
    rw [covers.path]

end

/-- A scan is one loop over the entries of the files there are to meet. -/
theorem processImageDirectory_eq_forEach {τ : Type} (cipher : PathCipher)
    (reader : DirectoryReader) (storage : StorageId) (stack : Nat → Block)
    (albumFileCallback : AlbumEntry → τ → τ × Bool) (outcome : τ) :
    (processImageDirectory cipher reader storage stack albumFileCallback outcome).2 =
      (Flow.forEach (Flow.call albumFileCallback)
        (scannedEntries cipher storage stack (metFiles reader storage)) outcome).state := by
  have fileStays : ∀ value (scan : Scan τ) entry record,
      scan.Ended cipher storage stack albumFileCallback outcome value record →
      scan.Ended cipher storage stack albumFileCallback outcome value
        (recordFile entry record).state := fun _ _ file _ ended => ended.recordFile file
  have dayStays : ∀ length value (scan : Scan τ) entry record,
      scan.Ended cipher storage stack albumFileCallback outcome value record →
      scan.Ended cipher storage stack albumFileCallback outcome value
        (visitDay reader recordFile length entry record).state :=
    fun _ value scan => Scan.Ended.enterDirectory (fileStays value scan)
  have monthStays : ∀ length value (scan : Scan τ) entry record,
      scan.Ended cipher storage stack albumFileCallback outcome value record →
      scan.Ended cipher storage stack albumFileCallback outcome value
        (visitMonth reader recordFile length entry record).state :=
    fun _ value scan entry => Scan.Ended.enterDirectory (dayStays _ value scan) entry
  have yearStays : ∀ length value (scan : Scan τ) entry record,
      scan.Ended cipher storage stack albumFileCallback outcome value record →
      scan.Ended cipher storage stack albumFileCallback outcome value
        (visitYear reader recordFile length entry record).state :=
    fun _ value scan entry => Scan.Ended.enterDirectory (monthStays _ value scan) entry
  have follows : Flow.Follows (Scan.Covers cipher storage stack albumFileCallback outcome)
      (Scan.Ended cipher storage stack albumFileCallback outcome)
      (visitImageDirectory reader (scanFile cipher storage stack albumFileCallback) storage
        outcome)
      (visitImageDirectory reader recordFile storage []) := by
    refine scanDirectory_follows (fun year => ?_) (yearStays _) _ _ ⟨rfl, rfl, rfl⟩
    refine enterDirectory_follows (fun month => ?_) (monthStays _) year
    refine enterDirectory_follows (fun day => ?_) (dayStays _) month
    exact enterDirectory_follows scanFile_follows fileStays day
  rw [processImageDirectory_outcome, scanImageDirectory_eq_visit, metFiles]
  revert follows
  generalize visitImageDirectory reader
    (scanFile cipher storage stack albumFileCallback) storage outcome = scanned
  generalize visitImageDirectory reader recordFile storage [] = recorded
  intro follows
  cases follows with
  | next covers => exact (congrArg Flow.state covers.outcome).symm
  | leave covers => exact (congrArg Flow.state covers.outcome).symm
  | ended before => exact (congrArg Flow.state before).symm

end Capsrv
