import Mathlib.Data.BitVec

/-! # Result codes

A result is one 32-bit word, zero for success, with the module in its low nine
bits and the description above them. An error class of the source names a range
of descriptions; thrown as a value it is the first of them. Ranges are compared
on the raw words, module bits included.
-/

namespace Capsrv

structure Result where
  value : UInt32
deriving DecidableEq, Repr

namespace Result

def success : Result := ⟨0⟩

def isSuccess (result : Result) : Bool :=
  result.value == 0

def isFailure (result : Result) : Bool :=
  !result.isSuccess

/-- `ResultTraits::MakeValue`. -/
def makeValue (moduleId description : UInt32) : Result :=
  ⟨moduleId ||| description <<< 9⟩

@[simp] theorem isSuccess_success : success.isSuccess = true := rfl

@[simp] theorem isSuccess_eq_true_iff (result : Result) :
    result.isSuccess = true ↔ result = success := by
  cases result
  simp [isSuccess, success]

@[simp] theorem isSuccess_eq_false_iff (result : Result) :
    result.isSuccess = false ↔ result ≠ success := by
  rw [← Bool.not_eq_true, ne_eq, isSuccess_eq_true_iff]

end Result

/-- `ResultErrorRangeBase`: the descriptions `first` to `last` of one module. -/
structure ErrorRange where
  moduleId : UInt32
  first : UInt32
  last : UInt32
deriving DecidableEq, Repr

namespace ErrorRange

/-- The error class converted to a result. -/
def result (range : ErrorRange) : Result :=
  Result.makeValue range.moduleId range.first

def includes (range : ErrorRange) (result : Result) : Bool :=
  range.result.value ≤ result.value &&
    result.value ≤ (Result.makeValue range.moduleId range.last).value

end ErrorRange

/-- `R_TRY`: leave with a failed result, go on after a successful one. -/
@[reducible] def rTry (result : Result) (early : Result → α) (rest : α) : α :=
  if result.isSuccess then rest else early result

/-- `R_UNLESS`: go on under the condition, leave otherwise. -/
@[reducible] def rUnless (condition : Prop) [Decidable condition] (early rest : α) : α :=
  if condition then rest else early

theorem rTry_success (early : Result → α) (rest : α) : rTry .success early rest = rest := rfl

theorem rUnless_eq_success_iff {condition : Prop} [Decidable condition]
    {early rest : Result} (failure : early ≠ .success) :
    rUnless condition early rest = .success ↔ condition ∧ rest = .success := by
  by_cases holds : condition <;> simp [rUnless, holds, failure]

theorem rTry_eq_success_iff {result rest : Result} :
    rTry result id rest = .success ↔ result = .success ∧ rest = .success := by
  by_cases succeeded : result = .success <;> simp [rTry, succeeded]

theorem rUnless_error_eq_ok_iff {condition : Prop} [Decidable condition] {result : Result}
    {rest : Except Result α} {value : α} :
    rUnless condition (.error result) rest = .ok value ↔ condition ∧ rest = .ok value := by
  by_cases holds : condition <;> simp [rUnless, holds]

/-- A result that neither end of a check returns. -/
theorem rUnless_ne {condition : Prop} [Decidable condition] {early rest unwanted : Result}
    (left : early ≠ unwanted) (right : rest ≠ unwanted) :
    rUnless condition early rest ≠ unwanted := by
  by_cases holds : condition <;> simp [rUnless, holds, left, right]

/-! ## Module 206 -/

private def capsrvRange (first last : UInt32) : ErrorRange := ⟨206, first, last⟩

private def capsrvError (description : UInt32) : ErrorRange :=
  capsrvRange description description

def albumError := capsrvRange 2 99
def albumWorkMemoryError := capsrvError 3
def albumUnsupportedVersion := capsrvError 4
def albumInvalidState := capsrvError 7
def albumOutOfRange := capsrvError 8
def albumInvalidFileId := capsrvRange 10 19
def albumInvalidApplicationId := capsrvError 11
def albumInvalidStorage := capsrvError 13
def albumInvalidFileContents := capsrvError 14
def albumStorageUnavailable := capsrvRange 20 29
def albumIsNotMounted := capsrvError 21
def albumIsFull := capsrvError 22
def albumFileNotFound := capsrvError 23
def albumInvalidFileData := capsrvError 24
def albumUnexpected := capsrvError 28
def albumPathNotFound := capsrvError 29
def albumReadBufferShortage := capsrvError 30
def albumPathUnavailable := capsrvRange 71 73
def albumUnknown73 := capsrvError 73
def albumDestinationAccessCorrupted := capsrvError 96
def controlResourceLimit := capsrvError 820
def controlAlreadyOpen := capsrvError 821
def controlNotOpened := capsrvError 822
def notSupported := capsrvError 1023
def internalError := capsrvRange 1024 2047
def internalFileDataVerificationEmptyFileData := capsrvError 1301
def internalFileDataVerificationExifExtractionFailed := capsrvError 1302
def internalFileDataVerificationExifAnalyzationFailed := capsrvError 1303
def internalFileDataVerificationDateTimeExtractionFailed := capsrvError 1304
def internalFileDataVerificationInvalidDateTimeLength := capsrvError 1305
def internalFileDataVerificationInconsistentDateTime := capsrvError 1306
def internalFileDataVerificationMakerNoteExtractionFailed := capsrvError 1307
def internalFileDataVerificationInconsistentApplicationId := capsrvError 1308
def internalFileDataVerificationInconsistentSignature := capsrvError 1309
def internalFileDataVerificationInconsistentOrientation := capsrvError 1312
def internalAlbumLimitationFileCountLimit := capsrvError 1401
def internalAlbumTemporaryFileCountLimit := capsrvError 1901
def internalAlbumTemporaryFileCreateError := capsrvError 1902
def internalAlbumTemporaryFileCreateRetryCountLimit := capsrvError 1903
def internalSignatureExifExtractionFailed := capsrvError 1501
def internalSignatureMakerNoteExtractionFailed := capsrvError 1502

namespace Hipc

/-! ## Module 11 -/

private def hipcError (description : UInt32) : ErrorRange :=
  ⟨11, description, description⟩

def invalidRequestSize := hipcError 402
def invalidCmifRequest := hipcError 420

end Hipc

namespace Cmif

/-! ## Module 10 -/

private def cmifError (description : UInt32) : ErrorRange :=
  ⟨10, description, description⟩

def preconditionViolation := cmifError 3
def invalidHeaderSize := cmifError 202
def invalidInHeader := cmifError 211
def unknownCommandId := cmifError 221

end Cmif

namespace Fs

/-! ## Module 2 -/

private def fsRange (first last : UInt32) : ErrorRange := ⟨2, first, last⟩

private def fsError (description : UInt32) : ErrorRange :=
  fsRange description description

def pathNotFound := fsError 1
def pathAlreadyExists := fsError 2
def mountNameAlreadyExists := fsError 60
def sdCardAccessFailed := fsRange 2000 2499
def allocationFailure := fsRange 3200 3499
def tooLongPath := fsError 6003
def invalidCharacter := fsError 6004
def invalidPathFormat := fsError 6005
def invalidMountName := fsError 6065
def notMounted := fsError 6905

end Fs

end Capsrv
