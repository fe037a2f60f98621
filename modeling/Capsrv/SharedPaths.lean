import Capsrv.AlbumCounts

/-! # Files that two ids share

The last hexadecimal digit of a cipher block is not printed into an album path. Two
ids lead to one file exactly when nothing that is printed tells them apart.
-/

namespace Capsrv

/-! ## Cipher blocks in a path -/

/-- The blocks agree but for the lower half of the last byte. -/
structure Block.AgreeInText (first second : Block) : Prop where
  bytes : ∀ index : Fin 15, first index.castSucc = second index.castSucc
  half : (first 15).toNat / 16 = (second 15).toNat / 16

theorem cypherString_eq_iff (first second : Block) :
    cypherString first = cypherString second ↔ first.AgreeInText second := by
  constructor
  · intro same
    rw [cypherString_eq, cypherString_eq] at same
    rcases List.append_inj' same rfl with ⟨front, last⟩
    have bytes := List.ofFn_injective (Text.flatMap_hexByte_inj front)
    have firstBound := (first 15).toNat_lt
    have secondBound := (second 15).toNat_lt
    exact ⟨congrFun bytes,
      Text.upperHexDigit_inj (by omega) (by omega) (List.singleton_inj.mp last)⟩
  · intro agree
    have bytes : (fun index : Fin 15 => first index.castSucc) =
        fun index => second index.castSucc := funext agree.bytes
    rw [cypherString_eq, cypherString_eq, bytes, agree.half]

/-! ## Names -/

section

variable {cipher : PathCipher} {first second : AlbumFileId} {settings otherSettings : AlbumSettings}

/-- A time stamp shows its date. -/
theorem dateTime_of_timeStamp (verified : first.Verified settings)
    (otherVerified : second.Verified otherSettings)
    (same : timeStamp first.dateTime = timeStamp second.dateTime) :
    first.dateTime = second.dateTime := by
  rcases verified with ⟨_, year, month, day, hour, minute, second', sequence, _, _⟩
  rcases otherVerified with ⟨_, otherYear, otherMonth, otherDay, otherHour, otherMinute,
    otherSecond, otherSequence, _, _⟩
  simp only [timeStamp, List.append_assoc] at same
  rcases Text.decimal_append_inj (by decide) year otherYear same with ⟨sameYear, rest⟩
  rcases Text.decimal_append_inj (by decide) (by omega) (by omega) rest with ⟨sameMonth, rest⟩
  rcases Text.decimal_append_inj (by decide) (by omega) (by omega) rest with ⟨sameDay, rest⟩
  rcases Text.decimal_append_inj (by decide) (by omega) (by omega) rest with ⟨sameHour, rest⟩
  rcases Text.decimal_append_inj (by decide) (by omega) (by omega) rest with ⟨sameMinute, rest⟩
  rcases Text.decimal_append_inj (by decide) (by omega) (by omega) rest with ⟨sameSecond, rest⟩
  have sameSequence := Text.decimal_inj (by decide) sequence otherSequence rest
  rw [UInt16.toNat_inj] at sameYear
  rw [UInt8.toNat_inj] at sameMonth sameDay sameHour sameMinute sameSecond sameSequence
  exact AlbumDateTime.mk.injEq .. ▸
    ⟨sameYear, sameMonth, sameDay, sameHour, sameMinute, sameSecond, sameSequence⟩

/-- A file name shows everything but the application, and of that what is printed of
its block. -/
theorem fileName_eq_iff (verified : first.Verified settings)
    (otherVerified : second.Verified otherSettings) :
    fileName cipher first.dateTime first.applicationId first.type =
        fileName cipher second.dateTime second.applicationId second.type ↔
      first.dateTime = second.dateTime ∧ first.type = second.type ∧
        (cipher.encryptFileExtension first.applicationId (isExtra first.type)).AgreeInText
          (cipher.encryptFileExtension second.applicationId (isExtra second.type)) := by
  constructor
  · intro same
    have type := type_of_fileName verified otherVerified same
    simp only [fileName, List.append_assoc] at same
    have stamps := (length_timeStamp verified).trans (length_timeStamp otherVerified).symm
    rcases List.append_inj same stamps with ⟨stamp, rest⟩
    have rest := List.append_cancel_left rest
    rcases List.append_inj rest (by rw [length_cypherString, length_cypherString]) with ⟨block, -⟩
    exact ⟨dateTime_of_timeStamp verified otherVerified stamp, type,
      (cypherString_eq_iff _ _).mp block⟩
  · rintro ⟨dateTime, type, block⟩
    rw [fileName, fileName, (cypherString_eq_iff _ _).mpr block, dateTime, type]

/-! ## Paths -/

/-- What two ids of one path have in common. -/
structure AlbumFileId.SharesPath (cipher : PathCipher) (first second : AlbumFileId) : Prop where
  storageId : first.storageId = second.storageId
  dateTime : first.dateTime = second.dateTime
  type : first.type = second.type
  fileName : (cipher.encryptFileExtension first.applicationId (isExtra first.type)).AgreeInText
    (cipher.encryptFileExtension second.applicationId (isExtra second.type))
  folder : isExtra first.type = true →
    (cipher.encryptExtraPath first.applicationId).AgreeInText
      (cipher.encryptExtraPath second.applicationId)

theorem decimal_ne_nil {width value : Nat} (positive : 0 < width) (fits : value < 10 ^ width) :
    Text.decimal width value ≠ [] := by
  apply List.ne_nil_of_length_pos
  rw [Text.length_decimal positive fits]
  exact positive

/-- Only an Extra type has a folder of its own. -/
theorem components_eq (verified : first.Verified settings) :
    (albumFsPath cipher first).components =
      (if isExtra first.type then [extraFolder cipher first] else []) ++
        [Text.decimal 4 first.dateTime.year.toNat, Text.decimal 2 first.dateTime.month.toNat,
          Text.decimal 2 first.dateTime.day.toNat,
          fileName cipher first.dateTime first.applicationId first.type] := by
  have month := verified.month
  have day := verified.day
  have yearName : Text.decimal 4 first.dateTime.year.toNat ≠ [] :=
    decimal_ne_nil (by decide) verified.year
  have monthName : Text.decimal 2 first.dateTime.month.toNat ≠ [] :=
    decimal_ne_nil (by decide) (by omega)
  have dayName : Text.decimal 2 first.dateTime.day.toNat ≠ [] :=
    decimal_ne_nil (by decide) (by omega)
  have name : fileName cipher first.dateTime first.applicationId first.type ≠ [] :=
    fileName_ne_nil
  cases extra : isExtra first.type with
  | true =>
      have folder : extraFolder cipher first ≠ [] := by
        rw [extraFolder, extra]
        simp [ascii]
      simp [albumFsPath, albumNames, yearName, monthName, dayName, name, folder]
  | false =>
      have folder : extraFolder cipher first = [] := by
        rw [extraFolder, extra]
        rfl
      simp [albumFsPath, albumNames, yearName, monthName, dayName, name, folder]

theorem sharesPath_of_eq (verified : first.Verified settings)
    (otherVerified : second.Verified otherSettings)
    (same : albumFsPath cipher first = albumFsPath cipher second) :
    first.SharesPath cipher second := by
  have mounts : mountName first.storageId = mountName second.storageId :=
    congrArg FsPath.mountName same
  have storageId : first.storageId = second.storageId := by
    by_contra different
    exact mountName_ne otherVerified.storage verified.storage different mounts
  have names : fileName cipher first.dateTime first.applicationId first.type =
      fileName cipher second.dateTime second.applicationId second.type := by
    have last := congrArg (fun path => path.components.getLast?) same
    simpa only [getLast_components, Option.some.injEq] using last
  rcases (fileName_eq_iff verified otherVerified).mp names with ⟨dateTime, type, block⟩
  refine ⟨storageId, dateTime, type, block, fun extra => ?_⟩
  have otherExtra : isExtra second.type = true := type ▸ extra
  have components := congrArg FsPath.components same
  rw [components_eq verified, components_eq otherVerified, if_pos extra, if_pos otherExtra]
    at components
  have folder := (List.cons.inj components).1
  rw [extraFolder, extraFolder, if_pos extra, if_pos otherExtra] at folder
  exact (cypherString_eq_iff _ _).mp (List.append_cancel_left folder)

theorem albumFsPath_eq_of_sharesPath (verified : first.Verified settings)
    (otherVerified : second.Verified otherSettings) (shares : first.SharesPath cipher second) :
    albumFsPath cipher first = albumFsPath cipher second := by
  have names : fileName cipher first.dateTime first.applicationId first.type =
      fileName cipher second.dateTime second.applicationId second.type :=
    (fileName_eq_iff verified otherVerified).mpr
      ⟨shares.dateTime, shares.type, shares.fileName⟩
  have folders : extraFolder cipher first = extraFolder cipher second := by
    rw [extraFolder, extraFolder, ← shares.type]
    split
    case isTrue extra => rw [(cypherString_eq_iff _ _).mpr (shares.folder extra)]
    case isFalse => rfl
  have components : albumNames cipher first = albumNames cipher second := by
    rw [albumNames, albumNames, names, folders, shares.dateTime]
  rw [albumFsPath, albumFsPath, shares.storageId, components]

/-- Two accepted ids have one path exactly when they share everything that is
printed of them. -/
theorem albumFsPath_eq_iff (cipher : PathCipher) (first second : AlbumFileId)
    (settings otherSettings : AlbumSettings) (verified : first.Verified settings)
    (otherVerified : second.Verified otherSettings) :
    albumFsPath cipher first = albumFsPath cipher second ↔ first.SharesPath cipher second :=
  ⟨sharesPath_of_eq verified otherVerified, albumFsPath_eq_of_sharesPath verified otherVerified⟩

end

/-- A cipher whose blocks for two applications differ in the last digit only. -/
def collidingCipher : PathCipher :=
  Equiv.swap (Function.update (Block.ofWords 1 0) (Fin.last 15) 0)
    (Function.update (Block.ofWords savedScreenshot.applicationId 0) (Fin.last 15) 1)

/-- Two applications with one screenshot. -/
theorem albumFsPath_eq_iff_colliding :
    albumFsPath collidingCipher savedScreenshot =
      albumFsPath collidingCipher { savedScreenshot with applicationId := 1 } :=
  (albumFsPath_eq_iff collidingCipher savedScreenshot { savedScreenshot with applicationId := 1 }
    .unset .unset verified_savedScreenshot
    ((AlbumFileId.verify_eq_success_iff _ _).mp (by decide))).mpr
    ⟨rfl, rfl, rfl, ⟨by decide, by decide⟩, fun extra => by cases extra⟩

end Capsrv
