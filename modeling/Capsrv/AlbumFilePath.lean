import Capsrv.AlbumPath
import Capsrv.FileSystem

/-! # Where an album file is

The album path of a verified id resolves to the directories and the name it was
put together from.
-/

namespace Capsrv

namespace Fs

/-- A character that may stand in a name. -/
def isNameCharacter (character : UInt8) : Bool :=
  !isBanned character && !isAnySeparator character

/-- Names behind a separator each. -/
def joinNames (names : List Text) : Text :=
  names.flatMap fun name => 0x2f :: name

theorem joinNames_eq_intercalate (names : List Text) :
    joinNames names = [0x2f].intercalate ([] :: names) := by
  induction names with
  | nil => rfl
  | cons name names induction =>
      rw [joinNames, List.flatMap_cons, List.intercalate_cons_cons]
      cases names with
      | nil => simp [List.intercalate]
      | cons next rest =>
          rw [List.intercalate_cons_cons]
          rw [joinNames, List.intercalate_cons_cons] at induction
          rw [induction]
          simp

section

variable {names : List Text}
  (clean : ∀ name ∈ names, ∀ character ∈ name, isNameCharacter character)

include clean

theorem splitPath_joinNames : splitPath (joinNames names) = names.filter (· ≠ []) := by
  rw [splitPath, joinNames_eq_intercalate, List.splitOn_intercalate 0x2f _ (by simp)]
  · simp
  · intro name member separator
    rcases List.mem_cons.mp member with rfl | member
    · cases separator
    · exact absurd (clean name member 0x2f separator) (by decide)

/-- A path of clean names goes to the service as it is. -/
theorem getPathForServiceObject_joinNames {mount : Text}
    (short : mount.length + 1 + (joinNames names).length ≤ entryNameLengthMax) :
    getPathForServiceObject mount (joinNames names) = .ok (names.filter (· ≠ [])) := by
  have characters : ∀ character ∈ joinNames names,
      character ≠ 0x5c ∧ isBanned character = false := by
    intro character member
    rcases List.mem_flatMap.mp member with ⟨name, inNames, inPiece⟩
    rcases List.mem_cons.mp inPiece with rfl | inName
    · decide
    · have allowed := clean name inNames character inName
      simp only [isNameCharacter, Bool.and_eq_true, Bool.not_eq_true'] at allowed
      refine ⟨?_, allowed.1⟩
      rintro rfl
      exact absurd allowed.2 (by decide)
  have same : (joinNames names).map
      (fun character => if character = 0x5c then 0x2f else character) = joinNames names := by
    rw [List.map_congr_left fun character member => if_neg (characters character member).1,
      List.map_id']
  have allowed : (joinNames names).all (fun character => !isBanned character) = true := by
    rw [List.all_eq_true]
    intro character member
    rw [(characters character member).2]
    rfl
  have fits : mount.length + 1 + min (joinNames names).length entryNameLengthMax ≤
      entryNameLengthMax := by omega
  simp only [getPathForServiceObject, rUnless, if_pos fits, same, allowed, if_true,
    splitPath_joinNames clean]

end

/-- A path on an album mount point is split behind its colon. -/
theorem getMountNameAndSubPath_mountPoint (storageId : StorageId) (rest : Text) :
    getMountNameAndSubPath (mountPoint storageId ++ rest) =
      .ok (mountName storageId, ascii "/" ++ rest) := by
  unfold mountPoint mountName
  split <;>
    simp [getMountNameAndSubPath, rUnless, ascii, isWindowsAbsolutePath, isWindowsDriveCharacter,
      isUnc, isAnySeparator, Text.charAt, mountNameLengthMax]

end Fs

/-- The folder of the Extra types, if there is one. -/
def extraFolder (cipher : PathCipher) (fileId : AlbumFileId) : Text :=
  if isExtra fileId.type then
    ascii "Extra" ++ cypherString (cipher.encryptExtraPath fileId.applicationId)
  else []

/-- The names on the way to an album file. -/
def albumNames (cipher : PathCipher) (fileId : AlbumFileId) : List Text :=
  [extraFolder cipher fileId, Text.decimal 4 fileId.dateTime.year.toNat,
    Text.decimal 2 fileId.dateTime.month.toNat, Text.decimal 2 fileId.dateTime.day.toNat,
    fileName cipher fileId.dateTime fileId.applicationId fileId.type]

def albumFsPath (cipher : PathCipher) (fileId : AlbumFileId) : FsPath where
  mountName := mountName fileId.storageId
  components := (albumNames cipher fileId).filter (· ≠ [])

/-! ## The album path resolves to it -/

section

variable {fileId : AlbumFileId} {settings : AlbumSettings} {character : UInt8}

theorem isNameCharacter_of_mem_decimal {width value : Nat}
    (member : character ∈ Text.decimal width value) : Fs.isNameCharacter character = true := by
  rcases Text.exists_digit_of_mem_decimal member with ⟨low, small, rfl⟩
  have every : ∀ low < 10, Fs.isNameCharacter (Text.digit low) = true := by decide
  exact every low small

theorem isNameCharacter_of_mem_cypherString {cypher : Block}
    (member : character ∈ cypherString cypher) : Fs.isNameCharacter character = true := by
  have every : ∀ low < 16, Fs.isNameCharacter (Text.upperHexDigit low) = true := by decide
  have bound := (cypher 15).toNat_lt
  rw [cypherString_eq, List.mem_append, List.mem_singleton, List.mem_flatMap] at member
  rcases member with ⟨byte, -, inByte⟩ | rfl
  · rcases Text.exists_digit_of_mem_hexByte inByte with ⟨low, small, rfl⟩
    exact every low small
  · exact every _ (by omega)

theorem isNameCharacter_of_mem_extension {type : ContentType}
    (member : character ∈ (getFileExtension type).getD []) :
    Fs.isNameCharacter character = true := by
  have jpg : (ascii ".jpg").all Fs.isNameCharacter = true := by decide
  have mp4 : (ascii ".mp4").all Fs.isNameCharacter = true := by decide
  unfold getFileExtension at member
  split at member
  · exact List.all_eq_true.mp jpg character member
  · split at member
    · exact List.all_eq_true.mp mp4 character member
    · cases member

theorem isNameCharacter_of_mem_albumNames (cipher : PathCipher) {name : Text}
    (inNames : name ∈ albumNames cipher fileId) (member : character ∈ name) :
    Fs.isNameCharacter character = true := by
  have extra : (ascii "Extra").all Fs.isNameCharacter = true := by decide
  have dash : (ascii "-").all Fs.isNameCharacter = true := by decide
  have marker : (ascii "X").all Fs.isNameCharacter = true := by decide
  simp only [albumNames, List.mem_cons, List.not_mem_nil, or_false] at inNames
  rcases inNames with rfl | rfl | rfl | rfl | rfl
  · unfold extraFolder at member
    split at member
    · rcases List.mem_append.mp member with member | member
      · exact List.all_eq_true.mp extra character member
      · exact isNameCharacter_of_mem_cypherString member
    · cases member
  · exact isNameCharacter_of_mem_decimal member
  · exact isNameCharacter_of_mem_decimal member
  · exact isNameCharacter_of_mem_decimal member
  · simp only [fileName, timeStamp, List.mem_append] at member
    rcases member with ((((((((((member | member) | member) | member) | member) | member) |
      member) | member) | member) | member) | member)
    iterate 7 exact isNameCharacter_of_mem_decimal member
    · exact List.all_eq_true.mp dash character member
    · exact isNameCharacter_of_mem_cypherString member
    · split at member
      · exact List.all_eq_true.mp marker character member
      · cases member
    · exact isNameCharacter_of_mem_extension member

theorem getAlbumPath_eq_joinNames (cipher : PathCipher) (verified : fileId.Verified settings) :
    ∃ rest, getAlbumPath cipher 0x6d fileId = mountPoint fileId.storageId ++ rest ∧
      ascii "/" ++ rest = Fs.joinNames (albumNames cipher fileId) := by
  refine ⟨extraFolder cipher fileId ++ dateFolder fileId.dateTime ++
    fileName cipher fileId.dateTime fileId.applicationId fileId.type, ?_, ?_⟩
  · rw [getAlbumPath_eq cipher verified, albumFolder, extraFolder]
    simp only [List.append_assoc]
  · simp [Fs.joinNames, albumNames, dateFolder, ascii]

/-- Where a mounted file is found, and what is found when nothing is mounted. -/
theorem resolve_getAlbumPath (cipher : PathCipher) (verified : fileId.Verified settings)
    (fs : FileSystem) :
    fs.resolve (getAlbumPath cipher 0x6d fileId) =
      if mountName fileId.storageId ∈ fs.names then .ok (albumFsPath cipher fileId)
      else .error Fs.notMounted.result := by
  rcases getAlbumPath_eq_joinNames cipher verified with ⟨rest, path, joined⟩
  have complete := congrArg List.length path
  rw [getAlbumPath_eq cipher verified, List.length_append, length_albumFolder cipher verified,
    length_fileName cipher verified, List.length_append, length_mountPoint] at complete
  have length : 1 + rest.length = (Fs.joinNames (albumNames cipher fileId)).length := by
    rw [← joined, List.length_append]
    rfl
  have short : (mountName fileId.storageId).length + 1 +
      (Fs.joinNames (albumNames cipher fileId)).length ≤ Fs.entryNameLengthMax := by
    have name : (mountName fileId.storageId).length = 2 := by
      unfold mountName
      split <;> rfl
    rw [name, ← length, Fs.entryNameLengthMax]
    split at complete <;> omega
  have components := Fs.getPathForServiceObject_joinNames
    (fun name inNames character member =>
      isNameCharacter_of_mem_albumNames cipher inNames member) short
  rw [FileSystem.resolve, path, Fs.getMountNameAndSubPath_mountPoint, joined]
  change (if mountName fileId.storageId ∈ fs.names then
    (do
      let components ← Fs.getPathForServiceObject (mountName fileId.storageId)
        (Fs.joinNames (albumNames cipher fileId))
      pure (FsPath.mk (mountName fileId.storageId) components))
    else .error Fs.notMounted.result) = _
  rw [components]
  rfl

end

end Capsrv
