import Capsrv.DirectoryTree
import Capsrv.ScannedFiles

/-! # The path buffer of a scan

Where `ProcessImageDirectory` prints into its path. The offsets go on by the
whole length of a name, whatever was written of it, so a long name takes the next
print out of the buffer. For that the directory at the shortened path has to be
there.
-/

namespace Capsrv

/-! ## What is written -/

namespace PathPrint

/-- How many bytes the call writes, with the terminator. -/
def written (print : PathPrint) : Nat :=
  if print.size = 0 then 0 else min print.length (print.size - 1) + 1

/-- The size is what is left of the buffer, and nothing is written behind it. -/
structure Inside (print : PathPrint) : Prop where
  size : print.offset + print.size = PathBuffer.size
  written : print.offset + print.written ≤ PathBuffer.size

end PathPrint

def Scan.StaysInside {τ : Type} (scan : Scan τ) : Prop :=
  ∀ print ∈ scan.path.prints, print.Inside

/-- The path that the scan opens first. -/
def scanRoot (storage : StorageId) : Text :=
  mountPoint storage ++ ascii ":/"

/-- How many characters the path has room for behind the root. -/
def roomBelowRoot : Nat := 762

namespace DirectoryTree

/-- Name and separator of a year directory fill the path, and there is a month
in the directory that is opened for it. -/
def HasOverlongYear (tree : DirectoryTree) : Prop :=
  ∃ year month, Text.atoi year ≤ 10000 ∧ 1 ≤ Text.atoi month ∧ Text.atoi month ≤ 12 ∧
    roomBelowRoot ≤ year.length + 1 ∧ tree.IsDirectory [year] ∧
    tree.IsDirectory [year.take roomBelowRoot, month]

/-- The names of a year and a month directory do not fit with their separators,
and there is a day in the directory that is opened for them. -/
def HasOverlongMonth (tree : DirectoryTree) : Prop :=
  ∃ year month day, Text.atoi year ≤ 10000 ∧ 1 ≤ Text.atoi month ∧ Text.atoi month ≤ 12 ∧
    1 ≤ Text.atoi day ∧ Text.atoi day ≤ 31 ∧ year.length + 1 < roomBelowRoot ∧
    roomBelowRoot ≤ year.length + month.length ∧ tree.IsDirectory [year, month] ∧
    tree.IsDirectory [year, month.take (roomBelowRoot - (year.length + 1)), day]

end DirectoryTree

/-! ## One print -/

namespace PathBuffer

variable {path : PathBuffer} {offset : Nat}

theorem toNat_room (inside : offset ≤ size) :
    (UInt64.ofNat size - UInt64.ofNat offset).toNat = size - offset := by
  have limit : size = 0x301 := rfl
  have ofSize : (UInt64.ofNat size).toNat = size := rfl
  have ofOffset : (UInt64.ofNat offset).toNat = offset :=
    UInt64.toNat_ofNat_of_lt' (show offset < UInt64.size by rw [UInt64.size]; omega)
  have subtraction : UInt64.ofNat offset ≤ UInt64.ofNat size := by
    rw [UInt64.le_iff_toNat_le, ofSize, ofOffset]
    exact inside
  rw [UInt64.toNat_sub_of_le _ _ subtraction, ofSize, ofOffset]

/-- A print stays inside exactly when it starts inside. -/
theorem inside_print_iff (length : Nat) :
    (⟨offset, (UInt64.ofNat size - UInt64.ofNat offset).toNat, length⟩ : PathPrint).Inside ↔
      offset ≤ size := by
  constructor
  · intro inside
    have sum := inside.size
    dsimp only at sum
    omega
  · intro inside
    rw [toNat_room inside]
    constructor
    · dsimp only
      omega
    · rw [PathPrint.written]
      dsimp only
      split
      · omega
      · omega

/-- Behind what the path starts with, as much is printed as there is room for. -/
theorem print_text_of_prefix {start : Text} (starts : start <+: path.text)
    (room : start.length < size) (piece : Text) :
    (path.print start.length piece).text = start ++ piece.take (size - 1 - start.length) := by
  have before : start = path.text.take start.length := List.prefix_iff_eq_take.mp starts
  have length := starts.length_le
  have open_ : ¬ (size - start.length = 0 ∨ path.text.length < start.length) := by omega
  have left : size - start.length - 1 = size - 1 - start.length := by omega
  rw [print_text, toNat_room room.le, Text.snprintfAt, if_neg open_, Text.snprintf, left, ← before]

/-- At the end of a full buffer nothing is printed. -/
theorem print_text_of_full (full : path.text.length = size - 1) (after : size - 1 ≤ offset)
    (inside : offset ≤ size) (piece : Text) : (path.print offset piece).text = path.text := by
  by_cases last : offset = size
  · rw [print_text, last, toNat_room le_rfl, Nat.sub_self, Text.snprintfAt, if_pos (.inl rfl)]
  · have atEnd : offset = path.text.length := by omega
    have limit : size = 0x301 := rfl
    rw [atEnd, print_text_of_prefix (List.prefix_refl _) (by omega), full, Nat.sub_self,
      List.take_zero, List.append_nil]

end PathBuffer

theorem length_scanRoot (storage : StorageId) : (scanRoot storage).length = 6 := by
  rw [scanRoot, List.length_append, length_mountPoint]
  rfl

theorem text_print_scanRoot (storage : StorageId) :
    (PathBuffer.print ⟨[], []⟩ 0 (scanRoot storage)).text = scanRoot storage := by
  have empty : [] <+: (⟨[], []⟩ : PathBuffer).text := List.nil_prefix
  have printed := PathBuffer.print_text_of_prefix empty (by decide) (scanRoot storage)
  rw [List.length_nil] at printed
  rw [printed, List.nil_append, List.take_of_length_le]
  rw [length_scanRoot]
  decide

section

variable {path : PathBuffer} {storage : StorageId} {year month : Text}

theorem length_yearPath :
    (scanRoot storage ++ (year ++ ascii "/")).length =
      (scanRoot storage).length + 1 + year.length := by
  have separator : (ascii "/").length = 1 := rfl
  rw [List.length_append, List.length_append, separator]
  omega

/-- The path of a year directory, as far as there is room. -/
theorem print_year_text (starts : scanRoot storage <+: path.text) (year : Text) :
    (path.print (scanRoot storage).length (year ++ ascii "/")).text =
      scanRoot storage ++ (year ++ ascii "/").take roomBelowRoot := by
  have length := length_scanRoot storage
  have limit : PathBuffer.size = 0x301 := rfl
  have room : PathBuffer.size - 1 - (scanRoot storage).length = roomBelowRoot := by
    rw [limit, length]
    rfl
  rw [PathBuffer.print_text_of_prefix starts (by omega), room]

theorem take_roomBelowRoot_of_fits (fits : year.length + 1 < roomBelowRoot) :
    (year ++ ascii "/").take roomBelowRoot = year ++ ascii "/" := by
  apply List.take_of_length_le
  rw [List.length_append]
  exact fits.le

/-- The path of a month directory whose name is cut. -/
theorem print_month_text (starts : scanRoot storage ++ (year ++ ascii "/") <+: path.text)
    (fits : year.length + 1 < roomBelowRoot)
    (long : roomBelowRoot ≤ year.length + month.length) :
    (path.print ((scanRoot storage).length + 1 + year.length) (month ++ ascii "/")).text =
      scanRoot storage ++
        (year ++ (ascii "/" ++ month.take (roomBelowRoot - (year.length + 1)))) := by
  have length := length_scanRoot storage
  have limit : PathBuffer.size = 0x301 := rfl
  have belowRoot : roomBelowRoot = 762 := rfl
  have cut : PathBuffer.size - 1 - ((scanRoot storage).length + 1 + year.length) =
      roomBelowRoot - (year.length + 1) := by omega
  have before : (scanRoot storage ++ (year ++ ascii "/")).length < PathBuffer.size := by
    rw [length_yearPath]
    omega
  have printed := PathBuffer.print_text_of_prefix starts before (month ++ ascii "/")
  rw [length_yearPath, cut, List.take_append_of_le_length (by omega)] at printed
  rw [printed, List.append_assoc, List.append_assoc]

end

/-- The scan before it opens the root. -/
def Scan.atRoot {τ : Type} (storage : StorageId) (outcome : τ) : Scan τ :=
  ⟨PathBuffer.print ⟨[], []⟩ 0 (scanRoot storage), 0, outcome, []⟩

theorem text_atRoot {τ : Type} (storage : StorageId) (outcome : τ) :
    (Scan.atRoot storage outcome).path.text = scanRoot storage :=
  text_print_scanRoot storage

theorem visitImageDirectory_eq {τ : Type} (reader : DirectoryReader)
    (file : DirectoryEntry → Scan τ → Flow Result (Scan τ)) (storage : StorageId) (outcome : τ) :
    visitImageDirectory reader file storage outcome =
      scanDirectory reader .directory (visitYear reader file (scanRoot storage).length)
        (Scan.atRoot storage outcome) := by
  rw [← text_print_scanRoot storage]
  rfl

/-- Of a long name, the separator or more is missing in the path. -/
theorem splitPath_take_roomBelowRoot {name : Text} (named : IsEntryName name)
    (long : roomBelowRoot ≤ name.length + 1) :
    Fs.splitPath ((name ++ ascii "/").take roomBelowRoot) = [name.take roomBelowRoot] := by
  have belowRoot : roomBelowRoot = 762 := rfl
  by_cases separated : roomBelowRoot = name.length + 1
  · have whole : (name ++ ascii "/").take roomBelowRoot = name ++ ascii "/" :=
      List.take_of_length_le (by rw [List.length_append, separated]; exact le_rfl)
    rw [whole, Fs.splitPath_name_separator named.nonempty named.separator,
      List.take_of_length_le (by omega)]
  · rw [List.take_append_of_le_length (by omega)]
    exact named.splitPath_take (by omega)

/-! ## Scans that stay inside -/

/-- The path still starts as it should, and no print has left the buffer. -/
structure Scan.Behind {τ : Type} (start : Text) (scan : Scan τ) : Prop where
  start : start <+: scan.path.text
  inside : scan.StaysInside

section

variable {τ : Type} {reader : DirectoryReader} {scan : Scan τ} {start : Text}

namespace Scan.Behind

theorem print (behind : scan.Behind start) {offset : Nat} (after : start.length ≤ offset)
    (room : offset ≤ PathBuffer.size) (piece : Text) :
    Scan.Behind start { scan with path := scan.path.print offset piece } := by
  constructor
  · rw [PathBuffer.print_text]
    exact Text.prefix_snprintfAt behind.start after _ piece
  · intro print member
    rcases List.mem_append.mp member with earlier | last
    · exact behind.inside print earlier
    · rw [List.mem_singleton.mp last]
      exact (PathBuffer.inside_print_iff piece.length).mpr room

theorem scanDirectory {mode : OpenDirectoryMode}
    {body : DirectoryEntry → Scan τ → Flow Result (Scan τ)}
    (steps : ∀ entries, reader.openDirectory scan.path.text mode = .ok entries →
      ∀ entry ∈ delivered entries, ∀ later : Scan τ, later.Behind start →
        (body entry later).state.Behind start)
    (behind : scan.Behind start) :
    (Capsrv.scanDirectory reader mode body scan).state.Behind start := by
  have opening : scan.opening.Behind start := ⟨behind.start, behind.inside⟩
  rw [Capsrv.scanDirectory]
  cases opened : reader.openDirectory scan.path.text mode with
  | error result => exact opening
  | ok entries => exact Flow.forEach_preserves_of_mem (steps entries opened) scan.opening opening

/-- Below the directory the path has a longer start. -/
theorem enterDirectory {skips : Int → Prop} [DecidablePred skips] {mode : OpenDirectoryMode}
    {body : DirectoryEntry → Scan τ → Flow Result (Scan τ)} {dirPathLen : Nat}
    {entry : DirectoryEntry} {longer : Text} (further : start <+: longer)
    (behind : scan.Behind start) (after : start.length ≤ dirPathLen)
    (room : dirPathLen ≤ PathBuffer.size)
    (printed : longer <+: (scan.path.print dirPathLen (entry.name ++ ascii "/")).text)
    (steps : ¬ skips (Text.atoi entry.name) →
      ∀ entries, reader.openDirectory
        (scan.path.print dirPathLen (entry.name ++ ascii "/")).text mode = .ok entries →
      ∀ below ∈ delivered entries, ∀ later : Scan τ, later.Behind longer →
        (body below later).state.Behind longer) :
    (Capsrv.enterDirectory reader skips mode body dirPathLen entry scan).state.Behind start := by
  rw [Capsrv.enterDirectory]
  split
  · exact behind
  · rename_i entered
    have inside := (behind.print after room (entry.name ++ ascii "/")).inside
    generalize scan.path.print dirPathLen (entry.name ++ ascii "/") = path at printed steps inside ⊢
    have started : Scan.Behind longer { scan with path } := ⟨printed, inside⟩
    have below := started.scanDirectory (steps entered)
    exact ⟨further.trans below.start, below.inside⟩

end Scan.Behind

variable {file : DirectoryEntry → Scan τ → Flow Result (Scan τ)}
  (keepsPath : ∀ entry scan, (file entry scan).state.path = scan.path)

include keepsPath

theorem visitDay_behind {monthDirPathLen : Nat} {day : DirectoryEntry}
    (behind : scan.Behind start) (after : start.length ≤ monthDirPathLen)
    (room : monthDirPathLen ≤ PathBuffer.size) :
    (visitDay reader file monthDirPathLen day scan).state.Behind start := by
  apply behind.enterDirectory (List.prefix_refl start) after room
  · exact (behind.print after room _).start
  · intro _ entries _ entry _ later laterBehind
    have same := keepsPath entry later
    constructor
    · rw [same]
      exact laterBehind.start
    · rw [Scan.StaysInside, same]
      exact laterBehind.inside

variable {storage : StorageId} {tree : DirectoryTree} (reads : reader.Reads (scanRoot storage) tree)

include reads

theorem visitMonth_behind (short : ¬ tree.HasOverlongMonth) {year : Text} {month : DirectoryEntry}
    (isYear : Text.atoi year ≤ 10000) (fits : year.length + 1 < roomBelowRoot)
    (isDirectory : tree.IsDirectory ([year] ++ [month.name])) (named : IsEntryName year)
    (behind : scan.Behind (scanRoot storage ++ (year ++ ascii "/"))) :
    (visitMonth reader file ((scanRoot storage).length + 1 + year.length) month
      scan).state.Behind (scanRoot storage ++ (year ++ ascii "/")) := by
  have limit : PathBuffer.size = 0x301 := rfl
  have belowRoot : roomBelowRoot = 762 := rfl
  have length : (scanRoot storage ++ (year ++ ascii "/")).length = _ := length_yearPath
  have rootLength := length_scanRoot storage
  have room : (scanRoot storage).length + 1 + year.length ≤ PathBuffer.size := by omega
  apply behind.enterDirectory (List.prefix_refl _) length.le room
  · exact (behind.print length.le room _).start
  · intro isMonth entries opened day delivered later laterBehind
    by_cases both : year.length + month.name.length < roomBelowRoot
    · apply visitDay_behind keepsPath laterBehind
      · omega
      · omega
    · have isDay : Text.atoi day.name < 1 ∨ 31 < Text.atoi day.name := by
        by_contra isDay
        rw [print_month_text behind.start fits (by omega)] at opened
        have names := reads.isDirectory opened delivered
        rw [Fs.splitPath_name_append named.nonempty named.separator,
          isDirectory.isEntryName.splitPath_take (by omega)] at names
        apply short
        refine ⟨year, month.name, day.name, isYear, ?_, ?_, ?_, ?_, fits, ?_, isDirectory, names⟩
        all_goals omega
      rw [visitDay, enterDirectory, if_pos isDay]
      exact laterBehind

theorem visitYear_behind (noYear : ¬ tree.HasOverlongYear) (noMonth : ¬ tree.HasOverlongMonth)
    {year : DirectoryEntry} (isDirectory : tree.IsDirectory ([] ++ [year.name]))
    (behind : scan.Behind (scanRoot storage)) :
    (visitYear reader file (scanRoot storage).length year scan).state.Behind
      (scanRoot storage) := by
  have limit : PathBuffer.size = 0x301 := rfl
  have belowRoot : roomBelowRoot = 762 := rfl
  have rootLength := length_scanRoot storage
  have named := isDirectory.isEntryName
  have text := print_year_text behind.start year.name
  by_cases fits : year.name.length + 1 < roomBelowRoot
  · rw [take_roomBelowRoot_of_fits fits] at text
    apply behind.enterDirectory (List.prefix_append _ (year.name ++ ascii "/")) le_rfl (by omega)
    · rw [text]
    · intro isYear entries opened month delivered later laterBehind
      rw [text] at opened
      have names := reads.isDirectory opened delivered
      rw [Fs.splitPath_name_separator named.nonempty named.separator] at names
      exact visitMonth_behind keepsPath reads noMonth (Int.not_lt.mp isYear) fits names named
        laterBehind
  · apply behind.enterDirectory (List.prefix_refl _) le_rfl (by omega)
    · exact (behind.print le_rfl (by omega) _).start
    · intro isYear entries opened month delivered later laterBehind
      have isMonth : Text.atoi month.name < 1 ∨ 12 < Text.atoi month.name := by
        by_contra isMonth
        rw [text] at opened
        have names := reads.isDirectory opened delivered
        rw [splitPath_take_roomBelowRoot named (by omega)] at names
        apply noYear
        refine ⟨year.name, month.name, Int.not_lt.mp isYear, ?_, ?_, ?_, isDirectory, names⟩
        all_goals omega
      rw [visitMonth, enterDirectory, if_pos isMonth]
      exact laterBehind

/-- Without such names the scan stays inside. -/
theorem visitImageDirectory_staysInside (noYear : ¬ tree.HasOverlongYear)
    (noMonth : ¬ tree.HasOverlongMonth) (outcome : τ) :
    (visitImageDirectory reader file storage outcome).state.StaysInside := by
  have started : (Scan.atRoot storage outcome).Behind (scanRoot storage) := by
    constructor
    · rw [text_atRoot]
    · intro print member
      rw [List.mem_singleton.mp member]
      exact (PathBuffer.inside_print_iff _).mpr (Nat.zero_le _)
  rw [visitImageDirectory_eq]
  apply Scan.Behind.inside
  apply started.scanDirectory
  intro entries opened year delivered later laterBehind
  rw [text_atRoot, ← List.append_nil (scanRoot storage)] at opened
  exact visitYear_behind keepsPath reads noYear noMonth (reads.isDirectory opened delivered)
    laterBehind

end

/-! ## Scans that leave the buffer -/

/-- A print has left the buffer. -/
def Scan.Leaves {τ : Type} (scan : Scan τ) : Prop :=
  ∃ print ∈ scan.path.prints, ¬ print.Inside

theorem Scan.Leaves.not_staysInside {τ : Type} {scan : Scan τ} (leaves : scan.Leaves) :
    ¬ scan.StaysInside := by
  rcases leaves with ⟨print, member, outside⟩
  exact fun inside => outside (inside print member)

section

variable {τ : Type} {reader : DirectoryReader} {scan : Scan τ}

theorem Scan.Leaves.print (leaves : scan.Leaves) (offset : Nat) (piece : Text) :
    Scan.Leaves { scan with path := scan.path.print offset piece } := by
  rcases leaves with ⟨print, member, outside⟩
  exact ⟨print, List.mem_append_left _ member, outside⟩

theorem Scan.leaves_print {offset : Nat} (beyond : PathBuffer.size < offset) (piece : Text) :
    Scan.Leaves { scan with path := scan.path.print offset piece } := by
  refine ⟨_, List.mem_append_right _ (List.mem_singleton_self _), ?_⟩
  intro inside
  have start := (PathBuffer.inside_print_iff piece.length).mp inside
  omega

section

variable {mode : OpenDirectoryMode} {body : DirectoryEntry → Scan τ → Flow Result (Scan τ)}
  (steps : ∀ entry later, later.Leaves → (body entry later).state.Leaves)

include steps

theorem Scan.Leaves.scanDirectory (leaves : scan.Leaves) :
    (Capsrv.scanDirectory reader mode body scan).state.Leaves :=
  scanDirectory_preserves (fun _ leaves => leaves) steps scan leaves

/-- The first entry can take the scan out of the buffer. -/
theorem leaves_scanDirectory {first : DirectoryEntry} {rest : List DirectoryEntry}
    (opened : reader.openDirectory scan.path.text mode = .ok ((first :: rest).map .ok))
    (leaves : (body first scan.opening).state.Leaves) :
    (scanDirectory reader mode body scan).state.Leaves := by
  rw [scanDirectory, opened]
  dsimp only
  rw [delivered_map_ok]
  exact Flow.forEach_of_first steps leaves

variable {skips : Int → Prop} [DecidablePred skips] {dirPathLen : Nat} {entry : DirectoryEntry}

theorem Scan.Leaves.enterDirectory (leaves : scan.Leaves) :
    (Capsrv.enterDirectory reader skips mode body dirPathLen entry scan).state.Leaves := by
  rw [Capsrv.enterDirectory]
  split
  · exact leaves
  · exact (leaves.print dirPathLen _).scanDirectory steps

theorem leaves_enterDirectory_of_beyond (entered : ¬ skips (Text.atoi entry.name))
    (beyond : PathBuffer.size < dirPathLen) :
    (enterDirectory reader skips mode body dirPathLen entry scan).state.Leaves := by
  rw [enterDirectory, if_neg entered]
  exact (Scan.leaves_print beyond _).scanDirectory steps

theorem leaves_enterDirectory (entered : ¬ skips (Text.atoi entry.name)) {text : Text}
    (printed : (scan.path.print dirPathLen (entry.name ++ ascii "/")).text = text)
    {first : DirectoryEntry} {rest : List DirectoryEntry}
    (opened : reader.openDirectory text mode = .ok ((first :: rest).map .ok))
    (leaves : ∀ later : Scan τ, later.path.text = text → (body first later).state.Leaves) :
    (enterDirectory reader skips mode body dirPathLen entry scan).state.Leaves := by
  rw [enterDirectory, if_neg entered]
  rw [← printed] at opened leaves
  generalize scan.path.print dirPathLen (entry.name ++ ascii "/") = path at opened leaves ⊢
  apply leaves_scanDirectory steps opened
  exact leaves _ rfl

end

/-- The year, then the month and then the day come first. -/
def preferredNames (year month day : Text) : List Text → Text
  | [] => year
  | [_] => month
  | _ => day

theorem openDirectory_root {storage : StorageId} {tree : DirectoryTree} {year month day : Text}
    (isDirectory : tree.IsDirectory [year]) :
    ∃ fileSize later, (tree.reader (scanRoot storage) (preferredNames year month day)).openDirectory
        (scanRoot storage) .directory =
      .ok ((⟨year, fileSize⟩ :: later : List DirectoryEntry).map .ok) := by
  have prefers : preferredNames year month day (Fs.splitPath []) = year := rfl
  rcases DirectoryTree.openDirectory_reader prefers isDirectory with ⟨fileSize, later, opened⟩
  rw [List.append_nil] at opened
  exact ⟨fileSize, later, opened⟩

variable {file : DirectoryEntry → Scan τ → Flow Result (Scan τ)}
  (keepsPath : ∀ entry scan, (file entry scan).state.path = scan.path)

include keepsPath

theorem file_leaves (entry : DirectoryEntry) (later : Scan τ) (leaves : later.Leaves) :
    (file entry later).state.Leaves := by
  rw [Scan.Leaves, keepsPath]
  exact leaves

theorem visitDay_leaves (offset : Nat) (day : DirectoryEntry) (later : Scan τ)
    (leaves : later.Leaves) : (visitDay reader file offset day later).state.Leaves :=
  leaves.enterDirectory (file_leaves keepsPath)

theorem visitMonth_leaves (offset : Nat) (month : DirectoryEntry) (later : Scan τ)
    (leaves : later.Leaves) : (visitMonth reader file offset month later).state.Leaves :=
  leaves.enterDirectory (visitDay_leaves keepsPath _)

theorem visitYear_leaves (offset : Nat) (year : DirectoryEntry) (later : Scan τ)
    (leaves : later.Leaves) : (visitYear reader file offset year later).state.Leaves :=
  leaves.enterDirectory (visitMonth_leaves keepsPath _)

variable {storage : StorageId} {tree : DirectoryTree} {year month day : Text}

theorem leaves_visitImageDirectory {fileSize : Int64} {later : List DirectoryEntry} {outcome : τ}
    (opened : reader.openDirectory (scanRoot storage) .directory =
      .ok ((⟨year, fileSize⟩ :: later : List DirectoryEntry).map .ok))
    (leaves : ∀ scan : Scan τ, scan.path.text = scanRoot storage →
      (visitYear reader file (scanRoot storage).length ⟨year, fileSize⟩ scan).state.Leaves) :
    (visitImageDirectory reader file storage outcome).state.Leaves := by
  rw [visitImageDirectory_eq]
  rw [← text_atRoot storage outcome] at opened
  apply leaves_scanDirectory (visitYear_leaves keepsPath _) opened
  exact leaves _ (text_atRoot storage outcome)

/-- A month in a directory whose path is full takes the scan out of the buffer. -/
theorem visitMonth_leaves_of_full {text : Text} (full : text.length = PathBuffer.size - 1)
    {fileSize : Int64} {rest : List DirectoryEntry}
    (opened : reader.openDirectory text .directory =
      .ok ((⟨month, fileSize⟩ :: rest : List DirectoryEntry).map .ok))
    (isMonth : 1 ≤ Text.atoi month ∧ Text.atoi month ≤ 12) (nonempty : month ≠ [])
    {yearDirPathLen : Nat} (long : PathBuffer.size - 1 ≤ yearDirPathLen) {later : Scan τ}
    (path : later.path.text = text) :
    (visitMonth reader file yearDirPathLen ⟨month, fileSize⟩ later).state.Leaves := by
  have limit : PathBuffer.size = 0x301 := rfl
  have positive := List.length_pos_iff.mpr nonempty
  have entered : ¬ (Text.atoi month < 1 ∨ 12 < Text.atoi month) := by omega
  by_cases beyond : PathBuffer.size < yearDirPathLen
  · exact leaves_enterDirectory_of_beyond (visitDay_leaves keepsPath _) entered beyond
  · apply leaves_enterDirectory (visitDay_leaves keepsPath _) entered _ opened
    · intro again _
      apply leaves_enterDirectory_of_beyond (file_leaves keepsPath)
      · dsimp only
        omega
      · dsimp only
        omega
    · rw [← path] at full ⊢
      exact PathBuffer.print_text_of_full full long (by omega) _

theorem leaves_of_overlongYear (isYear : Text.atoi year ≤ 10000)
    (isMonth : 1 ≤ Text.atoi month ∧ Text.atoi month ≤ 12)
    (long : roomBelowRoot ≤ year.length + 1) (isDirectory : tree.IsDirectory [year])
    (below : tree.IsDirectory [year.take roomBelowRoot, month]) (outcome : τ) :
    (visitImageDirectory (tree.reader (scanRoot storage) (preferredNames year month month)) file
      storage outcome).state.Leaves := by
  have limit : PathBuffer.size = 0x301 := rfl
  have belowRoot : roomBelowRoot = 762 := rfl
  have rootLength := length_scanRoot storage
  have entered : ¬ 10000 < Text.atoi year := Int.not_lt.mpr isYear
  have named := DirectoryTree.IsDirectory.isEntryName (show tree.IsDirectory ([] ++ [year]) from
    isDirectory)
  have monthNamed := DirectoryTree.IsDirectory.isEntryName
    (show tree.IsDirectory ([year.take roomBelowRoot] ++ [month]) from below)
  have cut := splitPath_take_roomBelowRoot named long
  have length : ((year ++ ascii "/").take roomBelowRoot).length = roomBelowRoot := by
    apply List.length_take_of_le
    rw [List.length_append]
    exact long
  rcases openDirectory_root isDirectory with ⟨yearSize, years, openedRoot⟩
  have monthBelow : tree.IsDirectory
      (Fs.splitPath ((year ++ ascii "/").take roomBelowRoot) ++ [month]) := by
    rw [cut]
    exact below
  have prefers : preferredNames year month month
      (Fs.splitPath ((year ++ ascii "/").take roomBelowRoot)) = month := by
    rw [cut]
    rfl
  rcases DirectoryTree.openDirectory_reader prefers monthBelow with ⟨monthSize, months, openedYear⟩
  apply leaves_visitImageDirectory keepsPath openedRoot
  intro atYear path
  refine leaves_enterDirectory (visitMonth_leaves keepsPath _) entered ?_ openedYear ?_
  · have start : scanRoot storage <+: atYear.path.text := by rw [path]
    exact print_year_text start year
  · intro atMonth text
    apply visitMonth_leaves_of_full keepsPath _ openedYear isMonth monthNamed.nonempty _ text
    · rw [List.length_append, length]
      omega
    · dsimp only
      omega

theorem leaves_of_overlongMonth (isYear : Text.atoi year ≤ 10000)
    (isMonth : 1 ≤ Text.atoi month ∧ Text.atoi month ≤ 12)
    (isDay : 1 ≤ Text.atoi day ∧ Text.atoi day ≤ 31) (fits : year.length + 1 < roomBelowRoot)
    (long : roomBelowRoot ≤ year.length + month.length)
    (isDirectory : tree.IsDirectory [year, month])
    (below : tree.IsDirectory [year, month.take (roomBelowRoot - (year.length + 1)), day])
    (outcome : τ) :
    (visitImageDirectory (tree.reader (scanRoot storage) (preferredNames year month day)) file
      storage outcome).state.Leaves := by
  have limit : PathBuffer.size = 0x301 := rfl
  have belowRoot : roomBelowRoot = 762 := rfl
  have rootLength := length_scanRoot storage
  have entered : ¬ 10000 < Text.atoi year := Int.not_lt.mpr isYear
  have enteredMonth : ¬ (Text.atoi month < 1 ∨ 12 < Text.atoi month) := by omega
  have enteredDay : ¬ (Text.atoi day < 1 ∨ 31 < Text.atoi day) := by omega
  have monthInYear : tree.IsDirectory ([year] ++ [month]) := isDirectory
  have yearDirectory : tree.IsDirectory ([] ++ [year]) := monthInYear.parent
  have named := yearDirectory.isEntryName
  have atYearPath : Fs.splitPath (year ++ ascii "/") = [year] :=
    Fs.splitPath_name_separator named.nonempty named.separator
  have atMonthPath : Fs.splitPath (year ++ (ascii "/" ++
      month.take (roomBelowRoot - (year.length + 1)))) =
        [year, month.take (roomBelowRoot - (year.length + 1))] := by
    rw [Fs.splitPath_name_append named.nonempty named.separator,
      monthInYear.isEntryName.splitPath_take (by omega)]
  rcases openDirectory_root yearDirectory with ⟨yearSize, years, openedRoot⟩
  have prefersMonth : preferredNames year month day (Fs.splitPath (year ++ ascii "/")) = month := by
    rw [atYearPath]
    rfl
  have prefersDay : preferredNames year month day (Fs.splitPath (year ++ (ascii "/" ++
      month.take (roomBelowRoot - (year.length + 1))))) = day := by
    rw [atMonthPath]
    rfl
  rcases DirectoryTree.openDirectory_reader prefersMonth (by rw [atYearPath]; exact isDirectory)
    with ⟨monthSize, months, openedYear⟩
  rcases DirectoryTree.openDirectory_reader prefersDay (by rw [atMonthPath]; exact below)
    with ⟨daySize, days, openedMonth⟩
  apply leaves_visitImageDirectory keepsPath openedRoot
  intro atYear path
  refine leaves_enterDirectory (visitMonth_leaves keepsPath _) entered ?_ openedYear ?_
  · have start : scanRoot storage <+: atYear.path.text := by rw [path]
    rw [print_year_text start year, take_roomBelowRoot_of_fits fits]
  · intro atMonth text
    refine leaves_enterDirectory (visitDay_leaves keepsPath _) enteredMonth ?_ openedMonth ?_
    · have start : scanRoot storage ++ (year ++ ascii "/") <+: atMonth.path.text := by rw [text]
      exact print_month_text start fits long
    · intro atDay _
      apply leaves_enterDirectory_of_beyond (file_leaves keepsPath) enteredDay
      dsimp only
      omega

end

/-! ## The scan of a tree -/

section

variable {τ : Type} (cipher : PathCipher) (storage : StorageId) (stack : Nat → Block)
  (albumFileCallback : AlbumEntry → τ → τ × Bool)

theorem scanFile_path (entry : DirectoryEntry) (scan : Scan τ) :
    (scanFile cipher storage stack albumFileCallback entry scan).state.path = scan.path := by
  unfold scanFile
  dsimp only
  split
  · split
    · rfl
    · rfl
  · rfl

/-- Some reader of a tree with such names takes the scan out of its buffer. -/
theorem exists_not_staysInside (tree : DirectoryTree)
    (overlong : tree.HasOverlongYear ∨ tree.HasOverlongMonth) (outcome : τ) :
    ∃ reader : DirectoryReader, reader.Reads (scanRoot storage) tree ∧
      ¬ (scanImageDirectory cipher reader storage stack albumFileCallback
        outcome).state.StaysInside := by
  have keepsPath := scanFile_path cipher storage stack albumFileCallback
  rcases overlong with inYear | inMonth
  · rcases inYear with ⟨year, month, isYear, first, last, long, isDirectory, below⟩
    refine ⟨_, tree.reads_reader _ (preferredNames year month month), ?_⟩
    rw [scanImageDirectory_eq_visit]
    exact (leaves_of_overlongYear keepsPath isYear ⟨first, last⟩ long isDirectory below
      outcome).not_staysInside
  · rcases inMonth with ⟨year, month, day, isYear, first, last, firstDay, lastDay, fits, long,
      isDirectory, below⟩
    refine ⟨_, tree.reads_reader _ (preferredNames year month day), ?_⟩
    rw [scanImageDirectory_eq_visit]
    exact (leaves_of_overlongMonth keepsPath isYear ⟨first, last⟩ ⟨firstDay, lastDay⟩ fits long
      isDirectory below outcome).not_staysInside

/-- The scans of a tree stay in their path buffer, whatever the file system
delivers first and wherever it fails to read on, exactly when no year name and
no pair of year and month names is too long. -/
theorem scanImageDirectory_staysInside_iff (tree : DirectoryTree) (outcome : τ) :
    (∀ reader : DirectoryReader, reader.Reads (scanRoot storage) tree →
      (scanImageDirectory cipher reader storage stack albumFileCallback
        outcome).state.StaysInside) ↔
      ¬ tree.HasOverlongYear ∧ ¬ tree.HasOverlongMonth := by
  constructor
  · intro always
    by_contra overlong
    rcases exists_not_staysInside cipher storage stack albumFileCallback tree (by tauto)
      outcome with ⟨reader, reads, leaves⟩
    exact leaves (always reader reads)
  · intro names reader reads
    rw [scanImageDirectory_eq_visit]
    exact visitImageDirectory_staysInside (scanFile_path cipher storage stack albumFileCallback)
      reads names.1 names.2 outcome

end

/-! ## A name that is too long -/

/-- A year of 761 zeros. -/
def longYear : Text := List.replicate 761 0x30

theorem isEntryName_longYear : IsEntryName longYear where
  nonempty := by decide +kernel
  separator := by decide +kernel
  terminator := by decide +kernel
  length := by decide +kernel

theorem isEntryName_one : IsEntryName (ascii "1") where
  nonempty := by decide
  separator := by decide
  terminator := by decide
  length := by decide

theorem wellNamed_longYear :
    (Node.directory [(longYear, .directory [(ascii "1", .directory [])])]).WellNamed :=
  Node.wellNamed_singleton isEntryName_longYear
    (Node.wellNamed_singleton isEntryName_one Node.wellNamed_empty)

/-- One month directory in one year directory. -/
def longYearTree : DirectoryTree where
  children := [(longYear, .directory [(ascii "1", .directory [])])]
  wellNamed := wellNamed_longYear

theorem hasOverlongYear_longYearTree : longYearTree.HasOverlongYear := by
  have inRoot : longYearTree.root.find [] =
      some (.directory [(longYear, .directory [(ascii "1", .directory [])])]) := rfl
  have year : longYearTree.IsDirectory ([] ++ [longYear]) :=
    DirectoryTree.isDirectory_append_singleton.mpr ⟨_, _, inRoot, List.mem_singleton_self _⟩
  have inYear : longYearTree.root.find [longYear] =
      some (.directory [(ascii "1", .directory [])]) := by
    have child := longYearTree.wellNamed.child_of_mem inRoot (List.mem_singleton_self _)
    rw [Node.find_cons, DirectoryTree.root, longYearTree, child]
    rfl
  have month : longYearTree.IsDirectory ([longYear] ++ [ascii "1"]) :=
    DirectoryTree.isDirectory_append_singleton.mpr ⟨_, _, inYear, List.mem_singleton_self _⟩
  have whole : longYear.take roomBelowRoot = longYear :=
    List.take_of_length_le (by rw [longYear, List.length_replicate, roomBelowRoot]; decide)
  refine ⟨longYear, ascii "1", by decide +kernel, by decide, by decide, ?_, year, ?_⟩
  · rw [longYear, List.length_replicate, roomBelowRoot]
  · rw [whole]
    exact month

theorem not_staysInside_longYearTree :
    ¬ ∀ (cipher : PathCipher) (storage : StorageId) (stack : Nat → Block)
        (albumFileCallback : AlbumEntry → Unit → Unit × Bool) (tree : DirectoryTree)
        (reader : DirectoryReader), reader.Reads (scanRoot storage) tree →
      (scanImageDirectory cipher reader storage stack albumFileCallback ()).state.StaysInside := by
  intro always
  rcases exists_not_staysInside (Equiv.refl Block) .sd (fun _ _ => 0) (fun _ _ => ((), false))
    longYearTree (.inl hasOverlongYear_longYearTree) () with ⟨reader, reads, leaves⟩
  exact leaves (always _ _ _ _ longYearTree reader reads)

end Capsrv
