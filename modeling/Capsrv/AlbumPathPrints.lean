import Capsrv.AlbumPath
import Capsrv.Foundation.Prints

/-! # The buffer of an album path

`MakeAlbumPath` call by call: what each `snprintf` is told of the room that is
left in `path_buffer`, where it starts to write, and the two arrays that cipher
blocks are converted in. A block may be rendered in any way that an array has
room for; the conversion itself loses half of the last byte.
-/

namespace Capsrv

/-! ## The calls -/

/-- `path_buffer`, and `cypher_string` of `GetFolderPath` and of `GetFileName`. -/
inductive AlbumPathBuffer where
  | path
  | folderCypher
  | nameCypher
deriving DecidableEq, Repr

/-- The size of the array. -/
def AlbumPathBuffer.size : AlbumPathBuffer → Nat
  | path => 0x70
  | folderCypher => 0x20
  | nameCypher => 0x20

/-- One turn of the loop over a cipher block. -/
def cypherPrint (buffer : AlbumPathBuffer) (cypher : Block) (index : Fin 16) :
    Print AlbumPathBuffer :=
  ⟨buffer, 2 * index.val, 0x20 - UInt64.ofNat (2 * index.val), Text.hexByte (cypher index)⟩

def cypherPrints (buffer : AlbumPathBuffer) (cypher : Block) : List (Print AlbumPathBuffer) :=
  (List.finRange 16).map (cypherPrint buffer cypher)

/-- The variables of `GetFolderPath`, and its calls so far. -/
structure FolderPrinter where
  ptr : Nat
  maxLength : UInt64
  written : UInt32
  prints : List (Print AlbumPathBuffer)

namespace FolderPrinter

def start (maxLength : UInt64) : FolderPrinter :=
  ⟨0, maxLength, 0, []⟩

/-- `tmp = snprintf(ptr, max_length, ...)` and the updates by `tmp`. -/
def print (printer : FolderPrinter) (text : Text) : FolderPrinter where
  ptr := printer.ptr + text.length
  maxLength := printer.maxLength - UInt64.ofNat text.length
  written := printer.written + UInt32.ofNat text.length
  prints := printer.prints ++ [⟨.path, printer.ptr, printer.maxLength, text⟩]

def printCypher (printer : FolderPrinter) (cypher : Block) : FolderPrinter :=
  { printer with prints := printer.prints ++ cypherPrints .folderCypher cypher }

end FolderPrinter

section

variable (cipher : PathCipher) (rendering : Block → Text)

/-- The file name, with the block in its rendering. -/
def renderedFileName (dateTime : AlbumDateTime) (applicationId : UInt64) (type : ContentType) :
    Text :=
  timeStamp dateTime ++ ascii "-" ++
    rendering (cipher.encryptFileExtension applicationId (isExtra type)) ++
    (if isExtra type then ascii "X" else []) ++ (getFileExtension type).getD []

/-- The calls of `GetFolderPath`, and `*out_length`. -/
def folderPathPrints (maxLength : UInt64) (fileId : AlbumFileId) :
    List (Print AlbumPathBuffer) × UInt32 :=
  let mount := (FolderPrinter.start maxLength).print (mountPoint fileId.storageId)
  let folder :=
    if isExtra fileId.type then
      let cypher := cipher.encryptExtraPath fileId.applicationId
      ((mount.print (ascii "Extra")).printCypher cypher).print (rendering cypher)
    else mount
  let date := dateFolder fileId.dateTime
  (folder.prints ++ [⟨.path, folder.ptr, folder.maxLength, date⟩],
    folder.written + UInt32.ofNat date.length)

/-- The calls of `GetFileName`, and `*out_length`. -/
def fileNamePrints (offset : Nat) (max : UInt64) (fileId : AlbumFileId) :
    List (Print AlbumPathBuffer) × UInt32 :=
  let cypher := cipher.encryptFileExtension fileId.applicationId (isExtra fileId.type)
  let name := renderedFileName cipher rendering fileId.dateTime fileId.applicationId fileId.type
  (cypherPrints .nameCypher cypher ++ [⟨.path, offset, max, name⟩], UInt32.ofNat name.length)

/-- The calls of `GetAlbumPath`, and `*out_length`. -/
def albumPathPrints (max : UInt64) (fileId : AlbumFileId) :
    List (Print AlbumPathBuffer) × UInt32 :=
  let folder := folderPathPrints cipher rendering max fileId
  let file := fileNamePrints cipher rendering folder.2.toNat (max - folder.2.toUInt64) fileId
  (folder.1 ++ file.1, folder.2 + file.2)

/-- The calls of `MakeAlbumPath`. -/
def makeAlbumPathPrints (settings : AlbumSettings) (fileId : AlbumFileId) :
    Except Result (List (Print AlbumPathBuffer)) :=
  rTry (fileId.verify settings) .error <|
  .ok (albumPathPrints cipher rendering 0x6d fileId).1

/-- Mount name, folder, date directories and file name. -/
def renderedAlbumPath (fileId : AlbumFileId) : Text :=
  mountPoint fileId.storageId ++
    (if isExtra fileId.type then
      ascii "Extra" ++ rendering (cipher.encryptExtraPath fileId.applicationId)
    else []) ++
    dateFolder fileId.dateTime ++
    renderedFileName cipher rendering fileId.dateTime fileId.applicationId fileId.type

end

/-! ## The conversion of a block -/

section

variable (buffer : AlbumPathBuffer) (cypher : Block)

theorem toNat_size_cypherPrint (index : Fin 16) :
    (cypherPrint buffer cypher index).size.toNat = 0x20 - 2 * index.val := by
  have every : ∀ index : Fin 16, (0x20 - UInt64.ofNat (2 * index.val) : UInt64).toNat =
      0x20 - 2 * index.val := by
    decide
  exact every index

/-- No conversion leaves the array. -/
theorem inside_cypherPrints {print : Print AlbumPathBuffer}
    (member : print ∈ cypherPrints buffer cypher) : print.Inside 0x20 := by
  rcases List.mem_map.mp member with ⟨index, -, rfl⟩
  have length := (cypherPrint buffer cypher index).length_bytes_le
  rw [toNat_size_cypherPrint] at length
  have bound := index.isLt
  change 2 * index.val + _ ≤ 0x20
  omega

theorem buffer_cypherPrints {print : Print AlbumPathBuffer}
    (member : print ∈ cypherPrints buffer cypher) : print.buffer = buffer := by
  rcases List.mem_map.mp member with ⟨index, -, rfl⟩
  rfl

/-- The conversions before the last one are complete. -/
theorem chain_cypherPrints (count : Nat) (few : count ≤ 15) :
    Print.Chain buffer 0x20 (((List.finRange 16).take count).map (cypherPrint buffer cypher))
        (((List.finRange 16).take count).flatMap fun index => Text.hexByte (cypher index)) ∧
      (((List.finRange 16).take count).flatMap fun index =>
        Text.hexByte (cypher index)).length = 2 * count := by
  induction count with
  | zero => exact ⟨.nil, rfl⟩
  | succ count induction =>
      rcases induction (by omega) with ⟨chain, length⟩
      have below : count < (List.finRange 16).length := by
        rw [List.length_finRange]
        omega
      have index : (List.finRange 16)[count] = ⟨count, by omega⟩ := List.getElem_finRange ..
      have room : (cypherPrint buffer cypher ⟨count, by omega⟩).size.toNat = 0x20 - 2 * count :=
        toNat_size_cypherPrint buffer cypher ⟨count, by omega⟩
      rw [List.take_succ_eq_append_getElem below, index, List.map_append, List.flatMap_append,
        List.map_singleton, List.flatMap_singleton]
      constructor
      · apply chain.print rfl length.symm
        · rw [room, length]
          omega
        · rw [room]
          change 2 < 0x20 - 2 * count
          omega
      · rw [List.length_append, length]
        rfl

/-- After the loop the array holds the text of the block. -/
theorem holds_cypherPrints (buffers : AlbumPathBuffer → Nat → UInt8) (index : Nat)
    (below : index ≤ 31) :
    Print.runAll (cypherPrints buffer cypher) buffers buffer index =
      (cypherString cypher).charAt index := by
  rcases chain_cypherPrints buffer cypher 15 (Nat.le_refl 15) with ⟨chain, length⟩
  have holds := chain.holds buffers
  have split : cypherPrints buffer cypher =
      ((List.finRange 16).take 15).map (cypherPrint buffer cypher) ++
        [cypherPrint buffer cypher 15] := rfl
  have last : (cypherPrint buffer cypher 15).bytes =
      [Text.upperHexDigit ((cypher 15).toNat / 16), 0] := rfl
  have text : cypherString cypher =
      (((List.finRange 16).take 15).flatMap fun index => Text.hexByte (cypher index)) ++
        [Text.upperHexDigit ((cypher 15).toNat / 16)] := by
    rw [cypherString_eq]
    rfl
  have offset : (cypherPrint buffer cypher 15).offset = 30 := rfl
  have into : (cypherPrint buffer cypher 15).buffer = buffer := rfl
  rw [split, Print.runAll_append_singleton, into, Function.update_self, Text.charAt, text,
    List.getD_eq_getElem?_getD]
  by_cases before : index < 30
  · rw [Print.write_before (by omega), List.getElem?_append_left (by omega),
      List.getElem?_eq_getElem (by omega)]
    exact holds.characters index (by omega)
  · have position : index = (cypherPrint buffer cypher 15).offset + (index - 30) := by omega
    have inside : index - 30 < (cypherPrint buffer cypher 15).bytes.length := by
      rw [last]
      change index - 30 < 2
      omega
    rw [List.getElem?_append_right (by omega), length]
    conv_lhs => rw [position]
    rw [Print.write_inside inside]
    simp only [last]
    have cases : index - 30 = 0 ∨ index - 30 = 1 := by omega
    rcases cases with digit | nul
    · simp only [digit]
      rfl
    · simp only [nul]
      rfl

end

/-! ## The calls on `path_buffer` -/

namespace FolderPrinter

/-- The variables say where the text ends and what room is left behind it. -/
structure Exact (printer : FolderPrinter) (text : Text) : Prop where
  chain : Print.Chain .path 0x6d printer.prints text
  ptr : printer.ptr = text.length
  room : printer.maxLength.toNat + text.length = 0x6d
  written : printer.written.toNat = text.length

theorem exact_start : (start 0x6d).Exact [] :=
  ⟨.nil, rfl, rfl, rfl⟩

variable {printer : FolderPrinter} {text : Text}

theorem Exact.print (exact : printer.Exact text) (piece : Text)
    (fits : text.length + piece.length < 0x6d) : (printer.print piece).Exact (text ++ piece) := by
  have room := exact.room
  have pieceLength : (UInt64.ofNat piece.length).toNat = piece.length :=
    UInt64.toNat_ofNat_of_lt' (show piece.length < UInt64.size by
      rw [UInt64.size]
      omega)
  have pieceWritten : (UInt32.ofNat piece.length).toNat = piece.length :=
    UInt32.toNat_ofNat_of_lt' (show piece.length < UInt32.size by
      rw [UInt32.size]
      omega)
  constructor
  · exact exact.chain.print rfl exact.ptr room (by dsimp only; omega)
  · rw [FolderPrinter.print, exact.ptr, List.length_append]
  · have subtraction : UInt64.ofNat piece.length ≤ printer.maxLength := by
      rw [UInt64.le_iff_toNat_le, pieceLength]
      omega
    rw [FolderPrinter.print, UInt64.toNat_sub_of_le _ _ subtraction, pieceLength,
      List.length_append]
    omega
  · rw [FolderPrinter.print, UInt32.toNat_add, pieceWritten, exact.written, List.length_append]
    exact Nat.mod_eq_of_lt (by omega)

theorem Exact.printCypher (exact : printer.Exact text) (cypher : Block) :
    (printer.printCypher cypher).Exact text := by
  refine ⟨exact.chain.others fun print member => ?_, exact.ptr, exact.room, exact.written⟩
  rw [buffer_cypherPrints .folderCypher cypher member]
  decide

end FolderPrinter

section

variable {cipher : PathCipher} {rendering : Block → Text} {settings : AlbumSettings}
variable {fileId : AlbumFileId}

/-- The folder of an album path, in its rendering. -/
def renderedFolder (cipher : PathCipher) (rendering : Block → Text) (fileId : AlbumFileId) :
    Text :=
  mountPoint fileId.storageId ++
    (if isExtra fileId.type then
      ascii "Extra" ++ rendering (cipher.encryptExtraPath fileId.applicationId)
    else []) ++
    dateFolder fileId.dateTime

theorem length_renderedFolder_le (short : ∀ cypher, (rendering cypher).length ≤ 32)
    (verified : fileId.Verified settings) :
    (renderedFolder cipher rendering fileId).length ≤ if isExtra fileId.type then 53 else 16 := by
  have date := length_dateFolder verified
  have block := short (cipher.encryptExtraPath fileId.applicationId)
  have extra : (ascii "Extra").length = 5 := by decide
  simp only [renderedFolder, List.length_append, length_mountPoint, date]
  split
  · rw [List.length_append, extra]
    omega
  · rw [List.length_nil]

theorem length_renderedFileName_le (short : ∀ cypher, (rendering cypher).length ≤ 32)
    (verified : fileId.Verified settings) :
    (renderedFileName cipher rendering fileId.dateTime fileId.applicationId fileId.type).length ≤
      if isExtra fileId.type then 54 else 53 := by
  have block := short (cipher.encryptFileExtension fileId.applicationId (isExtra fileId.type))
  have extension := length_getFileExtension
    (AlbumSettings.contentTypeValid_of_isTypeSupported verified.type)
  have dash : (ascii "-").length = 1 := by decide
  have mark : (ascii "X").length = 1 := by decide
  simp only [renderedFileName, List.length_append, length_timeStamp verified, extension, dash]
  split
  · omega
  · rw [List.length_nil]
    omega

/-- The calls of `GetFolderPath` are a chain, and the length it returns is that
of the folder. -/
theorem folderPathPrints_chain (short : ∀ cypher, (rendering cypher).length ≤ 32)
    (verified : fileId.Verified settings) :
    Print.Chain .path 0x6d (folderPathPrints cipher rendering 0x6d fileId).1
        (renderedFolder cipher rendering fileId) ∧
      (folderPathPrints cipher rendering 0x6d fileId).2.toNat =
        (renderedFolder cipher rendering fileId).length := by
  have date := length_dateFolder verified
  have mount : ((FolderPrinter.start 0x6d).print (mountPoint fileId.storageId)).Exact
      (mountPoint fileId.storageId) :=
    FolderPrinter.exact_start.print _ (by rw [length_mountPoint]; decide)
  -- The call with the date is the last one, whatever is in front of it.
  have dated : ∀ (folder : FolderPrinter) (text : Text), folder.Exact text →
      text.length + 12 < 0x6d →
      Print.Chain .path 0x6d
          (folder.prints ++ [⟨.path, folder.ptr, folder.maxLength, dateFolder fileId.dateTime⟩])
          (text ++ dateFolder fileId.dateTime) ∧
        (folder.written + UInt32.ofNat (dateFolder fileId.dateTime).length).toNat =
          (text ++ dateFolder fileId.dateTime).length := by
    intro folder text exact small
    have last := exact.print (dateFolder fileId.dateTime) (by rw [date]; exact small)
    exact ⟨last.chain, last.written⟩
  rw [folderPathPrints, renderedFolder]
  dsimp only
  split
  · have block := short (cipher.encryptExtraPath fileId.applicationId)
    have extra : (ascii "Extra").length = 5 := by decide
    have folder := mount.print (ascii "Extra") (by rw [length_mountPoint, extra]; decide)
    have rendered := (folder.printCypher (cipher.encryptExtraPath fileId.applicationId)).print
      (rendering (cipher.encryptExtraPath fileId.applicationId)) (by
        rw [List.length_append, length_mountPoint, extra]
        omega)
    rw [← List.append_assoc (mountPoint fileId.storageId)]
    apply dated _ _ rendered
    rw [List.length_append, List.length_append, length_mountPoint, extra]
    omega
  · rw [List.append_nil]
    apply dated _ _ mount
    rw [length_mountPoint]
    decide

/-- The calls of `GetAlbumPath` go on with the file name. -/
theorem albumPathPrints_chain (short : ∀ cypher, (rendering cypher).length ≤ 32)
    (verified : fileId.Verified settings) :
    Print.Chain .path 0x6d (albumPathPrints cipher rendering 0x6d fileId).1
      (renderedAlbumPath cipher rendering fileId) := by
  have folder : Print.Chain .path 0x6d (folderPathPrints cipher rendering 0x6d fileId).1
        (renderedFolder cipher rendering fileId) ∧
      (folderPathPrints cipher rendering 0x6d fileId).2.toNat =
        (renderedFolder cipher rendering fileId).length :=
    folderPathPrints_chain short verified
  rcases folder with ⟨chain, written⟩
  have folderLength : (renderedFolder cipher rendering fileId).length ≤ _ :=
    length_renderedFolder_le short verified
  have nameLength : (renderedFileName cipher rendering fileId.dateTime fileId.applicationId
      fileId.type).length ≤ _ :=
    length_renderedFileName_le short verified
  have both : (renderedFolder cipher rendering fileId).length +
      (renderedFileName cipher rendering fileId.dateTime fileId.applicationId
        fileId.type).length ≤ 107 := by
    split at folderLength <;> split at nameLength <;> omega
  have max : (0x6d : UInt64).toNat = 0x6d := rfl
  have room : (0x6d - (folderPathPrints cipher rendering 0x6d fileId).2.toUInt64).toNat =
      0x6d - (renderedFolder cipher rendering fileId).length := by
    have subtraction : (folderPathPrints cipher rendering 0x6d fileId).2.toUInt64 ≤ 0x6d := by
      rw [UInt64.le_iff_toNat_le, UInt32.toNat_toUInt64, written, max]
      omega
    rw [UInt64.toNat_sub_of_le _ _ subtraction, UInt32.toNat_toUInt64, written, max]
  have converted : Print.Chain .path 0x6d
      ((folderPathPrints cipher rendering 0x6d fileId).1 ++ cypherPrints .nameCypher
        (cipher.encryptFileExtension fileId.applicationId (isExtra fileId.type)))
      (renderedFolder cipher rendering fileId) := by
    apply chain.others
    intro print member
    rw [buffer_cypherPrints .nameCypher _ member]
    decide
  rw [albumPathPrints, fileNamePrints]
  dsimp only
  rw [← List.append_assoc]
  apply converted.print
  · rfl
  · exact written
  · rw [room]
    omega
  · rw [room]
    dsimp only
    omega

/-- Only the two loops write to other arrays. -/
theorem mem_albumPathPrints {print : Print AlbumPathBuffer}
    (member : print ∈ (albumPathPrints cipher rendering 0x6d fileId).1) :
    print.buffer = .path ∨
      ∃ buffer cypher, buffer ≠ .path ∧ print ∈ cypherPrints buffer cypher := by
  have last : ∀ {prints : List (Print AlbumPathBuffer)} {offset : Nat} {size : UInt64}
      {text : Text}, (∀ earlier ∈ prints, earlier.buffer = .path ∨
        ∃ buffer cypher, buffer ≠ .path ∧ earlier ∈ cypherPrints buffer cypher) →
      ∀ print ∈ prints ++ [⟨.path, offset, size, text⟩], print.buffer = .path ∨
        ∃ buffer cypher, buffer ≠ .path ∧ print ∈ cypherPrints buffer cypher := by
    intro prints offset size text earlier print member
    rcases List.mem_append.mp member with before | isLast
    · exact earlier print before
    · rw [List.mem_singleton.mp isLast]
      exact .inl rfl
  have mount : ∀ print ∈ ((FolderPrinter.start 0x6d).print
      (mountPoint fileId.storageId)).prints, print.buffer = .path ∨
        ∃ buffer cypher, buffer ≠ .path ∧ print ∈ cypherPrints buffer cypher :=
    last fun print member => by cases member
  rw [albumPathPrints] at member
  rcases List.mem_append.mp member with inFolder | inName
  · revert inFolder
    rw [folderPathPrints]
    dsimp only
    split
    · apply last
      apply last
      intro print inCypher
      rcases List.mem_append.mp inCypher with inExtra | converted
      · exact last mount print inExtra
      · exact .inr ⟨.folderCypher, _, by decide, converted⟩
    · exact last mount print
  · exact last (fun print converted => .inr ⟨.nameCypher, _, by decide, converted⟩) print inName

end

/-! ## The whole path -/

/-- The calls write a text completely, and into their arrays only. -/
structure PathComplete (prints : List (Print AlbumPathBuffer)) (text : Text) : Prop where
  chain : Print.Chain .path 0x6d prints text
  total : text.length + 1 ≤ 0x6d
  inside : ∀ print ∈ prints, print.Inside print.buffer.size
  content : ∀ buffers, Print.Chain.Holds (buffers .path) (Print.runAll prints buffers .path) text

/-- With the conversion of the source the rendered path is the album path. -/
theorem renderedAlbumPath_cypherString (cipher : PathCipher) {settings : AlbumSettings}
    {fileId : AlbumFileId} (verified : fileId.Verified settings) :
    renderedAlbumPath cipher cypherString fileId = getAlbumPath cipher 0x6d fileId := by
  rw [getAlbumPath_eq cipher verified]
  rfl

/-- For every verified id and every rendering of a block that an array has room
for, the album path fits. Under the rendering of the source it is that of the id. -/
theorem makeAlbumPath_complete (cipher : PathCipher) (settings : AlbumSettings)
    (fileId : AlbumFileId) (verified : fileId.verify settings = .success)
    (rendering : Block → Text) (short : ∀ cypher, (rendering cypher).length ≤ 32) :
    (∃ prints, makeAlbumPathPrints cipher rendering settings fileId = .ok prints ∧
      PathComplete prints (renderedAlbumPath cipher rendering fileId)) ∧
      renderedAlbumPath cipher cypherString fileId = getAlbumPath cipher 0x6d fileId := by
  have accepted := (fileId.verify_eq_success_iff settings).mp verified
  have chain : Print.Chain .path 0x6d (albumPathPrints cipher rendering 0x6d fileId).1 _ :=
    albumPathPrints_chain short accepted
  refine ⟨⟨(albumPathPrints cipher rendering 0x6d fileId).1, ?_, chain, chain.total (by decide),
    fun print member => ?_, chain.holds⟩, renderedAlbumPath_cypherString cipher accepted⟩
  · rw [makeAlbumPathPrints, verified]
    rfl
  · rcases mem_albumPathPrints member with into | ⟨buffer, cypher, elsewhere, converted⟩
    · have inRoom := chain.inside member into
      rw [into]
      exact Nat.le_trans inRoom (by decide)
    · have inArray := inside_cypherPrints buffer cypher converted
      rw [buffer_cypherPrints buffer cypher converted]
      cases buffer with
      | path => exact absurd rfl elsewhere
      | folderCypher => exact inArray
      | nameCypher => exact inArray

theorem makeAlbumPath_complete_savedScreenshot :
    (∃ prints, makeAlbumPathPrints (Equiv.refl Block) cypherString .unset savedScreenshot =
        .ok prints ∧
      PathComplete prints
        (renderedAlbumPath (Equiv.refl Block) cypherString savedScreenshot)) ∧
      renderedAlbumPath (Equiv.refl Block) cypherString savedScreenshot =
        getAlbumPath (Equiv.refl Block) 0x6d savedScreenshot :=
  makeAlbumPath_complete (Equiv.refl Block) .unset savedScreenshot
    ((savedScreenshot.verify_eq_success_iff _).mpr verified_savedScreenshot) cypherString
    fun cypher => by rw [length_cypherString]; decide

end Capsrv
