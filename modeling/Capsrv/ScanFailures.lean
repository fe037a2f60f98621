import Capsrv.ScanReports

/-! # Scans that do not complete

The calls of a scan that can fail, and what the requests report when one does.
A failed `OpenDirectory` ends the scan, and its result is dropped; a failed
`ReadDirectory` ends one loop, like the end of the directory.
-/

namespace Capsrv

open Service

/-! ## Failing calls -/

section

variable {τ : Type} (reader : DirectoryReader)

/-- A call fails in a loop over what `ReadDirectory` delivers: the reading
itself, or a call that the body makes. -/
def readingFails (body : DirectoryEntry → Scan τ → Flow Result (Scan τ))
    (bodyFails : DirectoryEntry → Scan τ → Prop) :
    List (Except Result DirectoryEntry) → Scan τ → Prop
  | [], _ => False
  | .error _ :: _, _ => True
  | .ok entry :: rest, scan =>
      bodyFails entry scan ∨
        match body entry scan with
        | .next scan => readingFails body bodyFails rest scan
        | .leave _ _ => False

/-- A call of `scanDirectory` fails. -/
def directoryFails (mode : OpenDirectoryMode)
    (body : DirectoryEntry → Scan τ → Flow Result (Scan τ))
    (bodyFails : DirectoryEntry → Scan τ → Prop) (scan : Scan τ) : Prop :=
  match reader.openDirectory scan.path.text mode with
  | .error _ => True
  | .ok entries => readingFails body bodyFails entries scan.opening

/-- A call of `enterDirectory` fails. -/
def enteringFails (skips : Int → Prop) (mode : OpenDirectoryMode)
    (body : DirectoryEntry → Scan τ → Flow Result (Scan τ))
    (bodyFails : DirectoryEntry → Scan τ → Prop) (dirPathLen : Nat) (entry : DirectoryEntry)
    (scan : Scan τ) : Prop :=
  ¬ skips (Text.atoi entry.name) ∧
    directoryFails reader mode body bodyFails
      { scan with path := scan.path.print dirPathLen (entry.name ++ ascii "/") }

variable (file : DirectoryEntry → Scan τ → Flow Result (Scan τ))

def dayFails (monthDirPathLen : Nat) : DirectoryEntry → Scan τ → Prop :=
  enteringFails reader (fun day => day < 1 ∨ 31 < day) .file file (fun _ _ => False)
    monthDirPathLen

def monthFails (yearDirPathLen : Nat) (entry : DirectoryEntry) : Scan τ → Prop :=
  enteringFails reader (fun month => month < 1 ∨ 12 < month) .directory
    (visitDay reader file (yearDirPathLen + 1 + entry.name.length))
    (dayFails reader file (yearDirPathLen + 1 + entry.name.length)) yearDirPathLen entry

def yearFails (rootDirPathLen : Nat) (entry : DirectoryEntry) : Scan τ → Prop :=
  enteringFails reader (fun year => 10000 < year) .directory
    (visitMonth reader file (rootDirPathLen + 1 + entry.name.length))
    (monthFails reader file (rootDirPathLen + 1 + entry.name.length)) rootDirPathLen entry

/-- A call of `visitImageDirectory` fails. -/
def imageDirectoryFails (storage : StorageId) (outcome : τ) : Prop :=
  let path := PathBuffer.print ⟨[], []⟩ 0 (mountPoint storage ++ ascii ":/")
  directoryFails reader .directory (visitYear reader file path.text.length)
    (yearFails reader file path.text.length) ⟨path, 0, outcome, []⟩

end

namespace AlbumRequest

/-! ## Failing requests -/

/-- The request scans a mounted storage, a call of the scan fails, and no full
buffer has ended it. -/
def ScanFails (cipher : PathCipher) (service : Service) : AlbumRequest → Prop
  | refreshCache answers counts storageId =>
      (ensureMountState answers.mount storageId .mounted service).1 = some .success ∧
      imageDirectoryFails answers.reader
        (scanFile cipher storageId answers.stack refreshCallback) storageId counts
  | countEntries answers _ storageId contentTypeFlags =>
      (ensureMountState answers.mount storageId .mounted service).1 = some .success ∧
      imageDirectoryFails answers.reader
        (scanFile cipher storageId answers.stack
          (countCallback service.manager contentTypeFlags)) storageId 0
  | listEntries answers maxEntries storageId contentTypeFlags =>
      (ensureMountState answers.mount storageId .mounted service).1 = some .success ∧
      imageDirectoryFails answers.reader
        (scanFile cipher storageId answers.stack
          (listCallback service.manager contentTypeFlags maxEntries)) storageId [] ∧
      ∃ written, Flow.forEach (Flow.call (listCallback service.manager contentTypeFlags
        maxEntries)) (deliveredEntries cipher answers.reader answers.stack storageId) [] =
          .next written
  | _ => False

/-- The request returns an error and leaves the cached counts as they were. -/
def ReportsFailure (cipher : PathCipher) (service : Service) (request : AlbumRequest) : Prop :=
  ∃ result, (request.perform cipher service).1 = some result ∧ result.isSuccess = false ∧
    (request.perform cipher service).2.manager.cache = service.manager.cache

/-- A scan is a success once the storage is mounted. -/
theorem perform_of_scanFails {cipher : PathCipher} {service : Service} {request : AlbumRequest}
    (fails : request.ScanFails cipher service) :
    (request.perform cipher service).1 = some .success := by
  have ensured : ∀ fault storageId,
      (ensureMountState fault storageId .mounted service).1 = some .success →
      ensureMountState fault storageId .mounted service =
        (some .success, (ensureMountState fault storageId .mounted service).2) :=
    fun _ _ success => Prod.ext success rfl
  cases request with
  | refreshCache answers counts storageId =>
      rw [perform, refreshCache_of_ensured (ensured _ _ fails.1)]
  | countEntries answers outCount storageId contentTypeFlags =>
      rw [perform, Process.bind_of_eq_some
        (countEntries_of_ensured (ensured _ _ fails.1) outCount contentTypeFlags)]
      rfl
  | listEntries answers maxEntries storageId contentTypeFlags =>
      rw [perform, Process.bind_of_eq_some
        (listEntries_of_ensured (ensured _ _ fails.1) maxEntries contentTypeFlags)]
      rfl
  | _ => cases fails

/-- No request reports that its scan has failed. -/
theorem not_reportsFailure (cipher : PathCipher) (service : Service) (request : AlbumRequest)
    (fails : request.ScanFails cipher service) : ¬ request.ReportsFailure cipher service := by
  rintro ⟨result, returned, failed, -⟩
  rw [perform_of_scanFails fails] at returned
  cases returned
  cases failed

/-- The root cannot be opened. -/
theorem not_reportsFailure_unopened :
    ¬ (countEntries ⟨none, ⟨fun _ _ => .error Fs.pathNotFound.result⟩, fun _ _ => 0⟩ 0 .nand
      0x0f).ReportsFailure (Equiv.refl Block) mountedService :=
  not_reportsFailure _ _ _ ⟨by decide, trivial⟩

/-- The root is opened, and its first entry cannot be read. -/
theorem not_reportsFailure_unread :
    ¬ ∀ (cipher : PathCipher) (service : Service) (request : AlbumRequest),
      request.ScanFails cipher service → request.ReportsFailure cipher service := by
  intro always
  have reports := always (Equiv.refl Block) mountedService
    (refreshCache ⟨none, ⟨fun _ _ => .ok [.error Fs.sdCardAccessFailed.result]⟩, fun _ _ => 0⟩
      (fun _ => 0) .nand) ⟨by decide, trivial⟩
  rcases reports with ⟨result, returned, failed, -⟩
  have success : ((refreshCache
      ⟨none, ⟨fun _ _ => .ok [.error Fs.sdCardAccessFailed.result]⟩, fun _ _ => 0⟩
      (fun _ => 0) .nand).perform (Equiv.refl Block) mountedService).1 = some .success := by
    decide +kernel
  rw [success] at returned
  cases returned
  cases failed

end AlbumRequest

end Capsrv
