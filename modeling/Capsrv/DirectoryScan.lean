import Capsrv.FileName
import Capsrv.FileSystem
import Capsrv.Foundation.Flow

/-! # The scan of a storage

`ProcessImageDirectory`: four nested loops over the directories of a storage.
What the file system answers is a parameter.
-/

namespace Capsrv

/-! ## Directories -/

structure DirectoryEntry where
  name : Text
  fileSize : Int64
deriving DecidableEq, Repr

inductive OpenDirectoryMode where
  | directory
  | file
deriving DecidableEq, Repr

/-- `fs::OpenDirectory`, and what the calls of `fs::ReadDirectory` on the opened
directory deliver one after the other, up to its end. -/
structure DirectoryReader where
  openDirectory : Text → OpenDirectoryMode → Except Result (List (Except Result DirectoryEntry))

/-- The entries a loop sees: it ends silently with the first failure. -/
def delivered : List (Except Result DirectoryEntry) → List DirectoryEntry
  | .ok entry :: rest => entry :: delivered rest
  | _ => []

/-! ## The path -/

/-- One call of `snprintf` on the path: where, with what size, and how much is
to be written without the terminator. -/
structure PathPrint where
  offset : Nat
  size : Nat
  length : Nat
deriving DecidableEq, Repr

/-- The `char path[fs::EntryNameLengthMax + 1]` of the scan. The calls that
print into it are recorded. -/
structure PathBuffer where
  text : Text
  prints : List PathPrint

namespace PathBuffer

def size : Nat := Fs.entryNameLengthMax + 1

/-- `snprintf(path + offset, sizeof(path) - offset, ...)`; the size is a
`size_t`. -/
def print (path : PathBuffer) (offset : Nat) (piece : Text) : PathBuffer :=
  let room := (UInt64.ofNat size - UInt64.ofNat offset).toNat
  ⟨path.text.snprintfAt offset room piece, path.prints ++ [⟨offset, room, piece.length⟩]⟩

theorem print_text (path : PathBuffer) (offset : Nat) (piece : Text) :
    (path.print offset piece).text = path.text.snprintfAt offset
      (UInt64.ofNat size - UInt64.ofNat offset).toNat piece := by
  simp only [print]

end PathBuffer

/-! ## The loops -/

/-- The state of the scan: the path, how many names have been decoded, what the
callback has made of them, and the directories that were opened, or tried to. -/
structure Scan (τ : Type) where
  path : PathBuffer
  decoded : Nat
  outcome : τ
  opened : List Text

/-- The directory at the path is being opened. -/
def Scan.opening {τ : Type} (scan : Scan τ) : Scan τ :=
  { scan with opened := scan.opened ++ [scan.path.text] }

section

variable {τ : Type} (cipher : PathCipher) (reader : DirectoryReader) (storage : StorageId)
  (stack : Nat → Block) (albumFileCallback : AlbumEntry → τ → τ × Bool)

/-- The loop over a directory, if it can be opened. -/
def scanDirectory (mode : OpenDirectoryMode)
    (body : DirectoryEntry → Scan τ → Flow Result (Scan τ)) (scan : Scan τ) :
    Flow Result (Scan τ) :=
  match reader.openDirectory scan.path.text mode with
  | .error result => .leave result scan.opening
  | .ok entries => Flow.forEach body (delivered entries) scan.opening

/-- A file of a day. The callback can end the scan. -/
def scanFile (entry : DirectoryEntry) (scan : Scan τ) : Flow Result (Scan τ) :=
  let read := AlbumFileId.fromString cipher storage (stack scan.decoded) .zero entry.name
  let scan := { scan with decoded := scan.decoded + 1 }
  if read.1.isSuccess then
    let called := albumFileCallback ⟨entry.fileSize, read.2⟩ scan.outcome
    let scan := { scan with outcome := called.1 }
    if called.2 then .leave .success scan else .next scan
  else .next scan

def scanDay (monthDirPathLen : Nat) (entry : DirectoryEntry) (scan : Scan τ) :
    Flow Result (Scan τ) :=
  let day := Text.atoi entry.name
  if day < 1 ∨ 31 < day then .next scan
  else
    let path := scan.path.print monthDirPathLen (entry.name ++ ascii "/")
    scanDirectory reader .file (scanFile cipher storage stack albumFileCallback)
      { scan with path }

def scanMonth (yearDirPathLen : Nat) (entry : DirectoryEntry) (scan : Scan τ) :
    Flow Result (Scan τ) :=
  let month := Text.atoi entry.name
  if month < 1 ∨ 12 < month then .next scan
  else
    let path := scan.path.print yearDirPathLen (entry.name ++ ascii "/")
    let monthDirPathLen := yearDirPathLen + 1 + entry.name.length
    scanDirectory reader .directory
      (scanDay cipher reader storage stack albumFileCallback monthDirPathLen) { scan with path }

def scanYear (rootDirPathLen : Nat) (entry : DirectoryEntry) (scan : Scan τ) :
    Flow Result (Scan τ) :=
  let year := Text.atoi entry.name
  if 10000 < year then .next scan
  else
    let path := scan.path.print rootDirPathLen (entry.name ++ ascii "/")
    let yearDirPathLen := rootDirPathLen + 1 + entry.name.length
    scanDirectory reader .directory
      (scanMonth cipher reader storage stack albumFileCallback yearDirPathLen) { scan with path }

/-- `ProcessImageDirectory` up to its end. -/
def scanImageDirectory (outcome : τ) : Flow Result (Scan τ) :=
  let path := PathBuffer.print ⟨[], []⟩ 0 (mountPoint storage ++ ascii ":/")
  let rootDirPathLen := path.text.length
  scanDirectory reader .directory
    (scanYear cipher reader storage stack albumFileCallback rootDirPathLen) ⟨path, 0, outcome, []⟩

/-- `ProcessImageDirectory`: its result, and what the callback has left. -/
def processImageDirectory (outcome : τ) : Result × τ :=
  match scanImageDirectory cipher reader storage stack albumFileCallback outcome with
  | .next scan => (.success, scan.outcome)
  | .leave result scan => (result, scan.outcome)

/-! ## What the loops preserve -/

section

variable {cipher reader storage stack albumFileCallback}

theorem processImageDirectory_outcome (outcome : τ) :
    (processImageDirectory cipher reader storage stack albumFileCallback outcome).2 =
      (scanImageDirectory cipher reader storage stack albumFileCallback
        outcome).state.outcome := by
  unfold processImageDirectory
  split <;> rename_i finished <;> rw [finished] <;> rfl

variable {invariant : Scan τ → Prop} (opening : ∀ scan, invariant scan → invariant scan.opening)

include opening

theorem scanDirectory_preserves {mode : OpenDirectoryMode}
    {body : DirectoryEntry → Scan τ → Flow Result (Scan τ)}
    (step : ∀ entry scan, invariant scan → invariant (body entry scan).state)
    (scan : Scan τ) (holds : invariant scan) :
    invariant (scanDirectory reader mode body scan).state := by
  unfold scanDirectory
  cases reader.openDirectory scan.path.text mode with
  | error result => exact opening scan holds
  | ok entries =>
      exact Flow.forEach_preserves step (delivered entries) scan.opening (opening scan holds)

variable {rootLength : Nat}
  (printing : ∀ (scan : Scan τ) offset piece, rootLength ≤ offset → invariant scan →
    invariant { scan with path := scan.path.print offset piece })
  (skipped : ∀ scan, invariant scan → invariant { scan with decoded := scan.decoded + 1 })
  (called : ∀ entry scan, invariant scan →
    invariant
      { scan with
        decoded := scan.decoded + 1
        outcome := (albumFileCallback entry scan.outcome).1 })

include printing skipped called

/-- What opening a directory, printing behind the root and calling back
preserve, the loop over the years preserves. -/
theorem scanYear_preserves (entry : DirectoryEntry) (scan : Scan τ) (holds : invariant scan) :
    invariant (scanYear cipher reader storage stack albumFileCallback rootLength entry
      scan).state := by
  have file : ∀ entry (scan : Scan τ), invariant scan →
      invariant (scanFile cipher storage stack albumFileCallback entry scan).state := by
    intro entry scan holds
    have after := called
      ⟨entry.fileSize, (AlbumFileId.fromString cipher storage (stack scan.decoded) .zero
        entry.name).2⟩ scan holds
    unfold scanFile
    dsimp only
    split
    · split
      · exact after
      · exact after
    · exact skipped scan holds
  have day : ∀ length entry (scan : Scan τ), rootLength ≤ length → invariant scan →
      invariant (scanDay cipher reader storage stack albumFileCallback length entry
        scan).state := by
    intro length entry scan behind holds
    unfold scanDay
    dsimp only
    split
    · exact holds
    · exact scanDirectory_preserves opening file _ (printing scan _ _ behind holds)
  have month : ∀ length entry (scan : Scan τ), rootLength ≤ length → invariant scan →
      invariant (scanMonth cipher reader storage stack albumFileCallback length entry
        scan).state := by
    intro length entry scan behind holds
    unfold scanMonth
    dsimp only
    split
    · exact holds
    · refine scanDirectory_preserves opening (fun entry scan => day _ entry scan ?_) _
        (printing scan _ _ behind holds)
      omega
  unfold scanYear
  dsimp only
  split
  · exact holds
  · refine scanDirectory_preserves opening (fun entry scan => month _ entry scan ?_) _
      (printing scan _ _ le_rfl holds)
    omega

end

/-- What every call of the callback preserves, the scan preserves. -/
theorem processImageDirectory_preserves {cipher : PathCipher} {reader : DirectoryReader}
    {storage : StorageId} {stack : Nat → Block}
    {albumFileCallback : AlbumEntry → τ → τ × Bool} {invariant : τ → Prop}
    (called : ∀ entry outcome, invariant outcome →
      invariant (albumFileCallback entry outcome).1) (outcome : τ) (holds : invariant outcome) :
    invariant
      (processImageDirectory cipher reader storage stack albumFileCallback outcome).2 := by
  have opening : ∀ scan : Scan τ, invariant scan.outcome → invariant scan.opening.outcome :=
    fun _ holds => holds
  rw [processImageDirectory_outcome]
  exact scanDirectory_preserves opening
    (scanYear_preserves opening (fun _ _ _ _ holds => holds) (fun _ holds => holds)
      fun entry scan => called entry scan.outcome) _ holds

/-- The scan has stayed under the mount point. -/
structure Scan.Under (storage : StorageId) (scan : Scan τ) : Prop where
  path : mountPoint storage <+: scan.path.text
  opened : ∀ path ∈ scan.opened, mountPoint storage <+: path

theorem Scan.Under.opening {storage : StorageId} {scan : Scan τ} (under : scan.Under storage) :
    scan.opening.Under storage := by
  refine ⟨under.path, fun path member => ?_⟩
  rcases List.mem_append.mp member with earlier | last
  · exact under.opened path earlier
  · rw [List.mem_singleton.mp last]
    exact under.path

theorem Scan.Under.print {storage : StorageId} {scan : Scan τ} (under : scan.Under storage)
    {offset : Nat} (behind : (mountPoint storage).length ≤ offset) (piece : Text) :
    Scan.Under storage { scan with path := scan.path.print offset piece } := by
  refine ⟨?_, under.opened⟩
  rw [PathBuffer.print_text]
  exact Text.prefix_snprintfAt under.path behind _ piece

/-- A scan opens nothing outside of its mount point. -/
theorem mountPoint_prefix_of_opened (cipher : PathCipher) (reader : DirectoryReader)
    (storage : StorageId) (stack : Nat → Block) (albumFileCallback : AlbumEntry → τ → τ × Bool)
    (outcome : τ) :
    ∀ path ∈ (scanImageDirectory cipher reader storage stack albumFileCallback
      outcome).state.opened, mountPoint storage <+: path := by
  have root : mountPoint storage <+:
      (PathBuffer.print ⟨[], []⟩ 0 (mountPoint storage ++ ascii ":/")).text := by
    unfold mountPoint
    split <;> decide
  have opening : ∀ scan : Scan τ, scan.Under storage → scan.opening.Under storage :=
    fun _ under => under.opening
  have started : Scan.Under storage
      ⟨PathBuffer.print ⟨[], []⟩ 0 (mountPoint storage ++ ascii ":/"), 0, outcome, []⟩ :=
    ⟨root, by simp⟩
  refine (scanDirectory_preserves opening (scanYear_preserves opening ?_ ?_ ?_) _ started).opened
  · exact fun scan offset piece behind under =>
      under.print (root.length_le.trans behind) piece
  · exact fun _ under => ⟨under.path, under.opened⟩
  · exact fun _ _ under => ⟨under.path, under.opened⟩

end

end Capsrv
