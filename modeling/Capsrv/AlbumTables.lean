import Mathlib.Logic.Function.Basic
import Mathlib.Data.List.FinRange
import Capsrv.Types

/-! # The tables of the album manager

`AlbumManagerCache` and `AlbumReserve`. Two ids are equal to them when all their
bytes are, the padding included.
-/

namespace Capsrv

/-- The counts of `AlbumManagerCache`. Those of invalid ids are never used. -/
structure AlbumManagerCache where
  count : StorageId → ContentType → UInt64

namespace AlbumManagerCache

def getCount (cache : AlbumManagerCache) (storageId : StorageId) (type : ContentType) : UInt64 :=
  if storageValid storageId && contentTypeValid type then cache.count storageId type else 0

def set (cache : AlbumManagerCache) (storageId : StorageId) (type : ContentType)
    (count : UInt64) : AlbumManagerCache :=
  if storageValid storageId && contentTypeValid type then
    ⟨Function.update cache.count storageId
      (Function.update (cache.count storageId) type count)⟩
  else cache

def increment (cache : AlbumManagerCache) (storageId : StorageId) (type : ContentType) :
    AlbumManagerCache :=
  cache.set storageId type (cache.count storageId type + 1)

def decrement (cache : AlbumManagerCache) (storageId : StorageId) (type : ContentType) :
    AlbumManagerCache :=
  cache.set storageId type (cache.count storageId type - 1)

section

variable {cache : AlbumManagerCache} {storageId : StorageId} {type : ContentType}
  (valid : storageValid storageId) (typeValid : contentTypeValid type)

include valid typeValid

theorem getCount_of_valid : cache.getCount storageId type = cache.count storageId type := by
  rw [getCount, if_pos (by simp [valid, typeValid])]

theorem getCount_set (count : UInt64) (other : StorageId) (otherType : ContentType) :
    (cache.set storageId type count).getCount other otherType =
      if other = storageId ∧ otherType = type then count else cache.getCount other otherType := by
  rw [set, if_pos (by simp [valid, typeValid])]
  by_cases same : other = storageId
  · subst same
    by_cases sameType : otherType = type
    · subst sameType
      simp [getCount, valid, typeValid]
    · simp [getCount, sameType]
  · simp [getCount, same]

variable (cache) in
theorem getCount_increment (other : StorageId) (otherType : ContentType) :
    (cache.increment storageId type).getCount other otherType =
      if other = storageId ∧ otherType = type then cache.getCount storageId type + 1
      else cache.getCount other otherType := by
  rw [increment, getCount_set valid typeValid, getCount_of_valid valid typeValid]

variable (cache) in
theorem getCount_decrement (other : StorageId) (otherType : ContentType) :
    (cache.decrement storageId type).getCount other otherType =
      if other = storageId ∧ otherType = type then cache.getCount storageId type - 1
      else cache.getCount other otherType := by
  rw [decrement, getCount_set valid typeValid, getCount_of_valid valid typeValid]

end

end AlbumManagerCache

/-- The ten slots of an `AlbumReserve`; an unused slot holds nothing. -/
structure AlbumReserve where
  reserve : Fin 10 → Option AlbumFileId

namespace AlbumReserve

def empty : AlbumReserve :=
  ⟨fun _ => none⟩

def isReserved (table : AlbumReserve) (fileId : AlbumFileId) : Bool :=
  (List.finRange 10).any fun slot => table.reserve slot = some fileId

theorem isReserved_iff {table : AlbumReserve} {fileId : AlbumFileId} :
    table.isReserved fileId = true ↔ ∃ slot, table.reserve slot = some fileId := by
  simp [isReserved]

end AlbumReserve

end Capsrv
