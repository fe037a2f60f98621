import Capsrv.Foundation.TableProgram
import Capsrv.Image.ExifSlots

/-! # The tag table in memory

`SearchIfdTags` on the memory of its table, where the loop over the slots ends
behind the last one if it finds nothing, and the slot there is read again. The
search on the slots alone, with the one behind them as the last, does the same.
-/

namespace Capsrv.Image

open Capsrv

/-! ## The search -/

/-- The loop over the slots: where it ends. -/
def findTagIndex (marker : UInt16) : (tagIndex left : Nat) → TableProgram IfdTag Nat
  | tagIndex, 0 => return tagIndex
  | tagIndex, left + 1 => do
      let tag ← TableProgram.get tagIndex
      if tag.marker = marker then return tagIndex
      else findTagIndex marker (tagIndex + 1) left

/-- One turn of the loop over the entries. -/
def searchTableEntry (outside : UInt8) (count : Nat) (offset : UInt16) (entry : IfdEntry) :
    TableProgram IfdTag Unit := do
  let tagIndex ← findTagIndex entry.marker 0 count
  let tag ← TableProgram.get tagIndex
  if entry.marker ≠ tag.marker then return ()
  else if entry.format ≠ tag.format then return ()
  else if entry.componentNumber ≥ 0xffff ∨
      (tag.count ≠ 0 ∧ tag.count ≠ entry.componentNumber.toNat) then return ()
  else TableProgram.set tagIndex (tag.fill outside offset entry)

/-- `SearchIfdTags`, given the memory with the directory. -/
def searchTable (outside : UInt8) (memory : Memory) (exifBinary : ExifBinary)
    (header : IfdHeader) (count : Nat) : TableProgram IfdTag Unit :=
  if count = 0 then return ()
  else
    TableProgram.forEach
      (fun entryIndex => searchTableEntry outside count (header.entryOffset entryIndex)
        (header.entry exifBinary memory entryIndex))
      (List.range header.count.toNat)

/-! ## The loop over the slots -/

/-- The first slot with a marker, or the one behind the table. -/
structure IsTagIndex (table : Nat → IfdTag) (count : Nat) (marker : UInt16) (start tagIndex : Nat) :
    Prop where
  first : start ≤ tagIndex
  last : tagIndex ≤ count
  found : tagIndex < count → (table tagIndex).marker = marker
  before : ∀ index, start ≤ index → index < tagIndex → (table index).marker ≠ marker

section

variable {table : Nat → IfdTag} {count : Nat} {marker : UInt16}

variable (table marker) in
theorem run_findTagIndex (tagIndex left : Nat) :
    ∃ found, (findTagIndex marker tagIndex left).run table = (found, table) ∧
      IsTagIndex table (tagIndex + left) marker tagIndex found := by
  induction left generalizing tagIndex with
  | zero =>
      refine ⟨tagIndex, rfl, Nat.le_refl _, Nat.le_refl _, fun below => ?_, fun index _ _ => ?_⟩
      · exact absurd below (Nat.lt_irrefl _)
      · omega
  | succ left induction =>
      rw [findTagIndex, TableProgram.run_bind, TableProgram.run_get, TableProgram.run_ite]
      by_cases same : (table tagIndex).marker = marker
      · rw [if_pos same]
        refine ⟨tagIndex, rfl, Nat.le_refl _, by omega, fun _ => same, fun index _ _ => ?_⟩
        omega
      · rw [if_neg same]
        rcases induction (tagIndex + 1) with ⟨found, run, isTagIndex⟩
        refine ⟨found, run, ?_⟩
        have first := isTagIndex.first
        have last := isTagIndex.last
        constructor
        · omega
        · omega
        · intro below
          exact isTagIndex.found (by omega)
        · intro index behind below
          by_cases start : index = tagIndex
          · rw [start]
            exact same
          · exact isTagIndex.before index (by omega) below

theorem inside_findTagIndex (tagIndex left : Nat) (bound : tagIndex + left ≤ count) :
    (findTagIndex marker tagIndex left).Inside table count := by
  induction left generalizing tagIndex with
  | zero => exact TableProgram.inside_pure _
  | succ left induction =>
      rw [findTagIndex, TableProgram.inside_bind, TableProgram.inside_get,
        TableProgram.inside_ite]
      refine ⟨by omega, fun _ => TableProgram.inside_pure _, fun _ => ?_⟩
      exact induction (tagIndex + 1) (by omega)

/-! ## Slots and memory -/

/-- The slots of a table and the one behind them. -/
def tableTags (table : Nat → IfdTag) (count : Nat) : IfdTags (count + 1) :=
  fun index => table index.val

theorem findTag_eq_some_iff {n : Nat} {tags : IfdTags n} {slot : Fin n} :
    findTag tags count marker = some slot ↔
      (slot.val ≤ count ∧ (tags slot).marker = marker) ∧
        ∀ earlier < slot, ¬ (earlier.val ≤ count ∧ (tags earlier).marker = marker) := by
  rw [findTag, List.find?_eq_some_iff_getElem]
  simp only [decide_eq_true_eq, List.getElem_finRange, Bool.not_eq_true',
    decide_eq_false_iff_not]
  constructor
  · rintro ⟨holds, index, below, rfl, before⟩
    exact ⟨holds, fun earlier smaller => before earlier.val smaller⟩
  · rintro ⟨holds, before⟩
    have below : slot.val < (List.finRange n).length := by
      rw [List.length_finRange]
      exact slot.isLt
    refine ⟨holds, slot.val, below, rfl, fun index smaller => ?_⟩
    exact before ⟨index, by omega⟩ smaller

theorem findTag_tableTags {tagIndex : Nat} (isTagIndex : IsTagIndex table count marker 0 tagIndex) :
    findTag (tableTags table count) count marker =
      if (table tagIndex).marker = marker then
        some ⟨tagIndex, Nat.lt_succ_of_le isTagIndex.last⟩
      else none := by
  split
  · rename_i same
    apply findTag_eq_some_iff.mpr
    refine ⟨⟨isTagIndex.last, same⟩, fun earlier smaller both => ?_⟩
    exact isTagIndex.before earlier.val (Nat.zero_le _) smaller both.2
  · rename_i different
    cases found : findTag (tableTags table count) count marker with
    | none => rfl
    | some slot =>
        rcases findTag_eq_some_iff.mp found with ⟨⟨bound, same⟩, -⟩
        change (table slot.val).marker = marker at same
        have last := isTagIndex.last
        by_cases earlier : slot.val < tagIndex
        · exact absurd same (isTagIndex.before slot.val (Nat.zero_le _) earlier)
        · by_cases stopped : tagIndex < count
          · exact absurd (isTagIndex.found stopped) different
          · have equal : slot.val = tagIndex := by omega
            rw [equal] at same
            exact absurd same different

variable {outside : UInt8} {offset : UInt16} {entry : IfdEntry}

theorem run_searchTableEntry {tagIndex : Nat}
    (run : (findTagIndex entry.marker 0 count).run table = (tagIndex, table)) :
    ((searchTableEntry outside count offset entry).run table).2 =
      if (table tagIndex).marker = entry.marker ∧ entry.format = (table tagIndex).format ∧
          (table tagIndex).Counts entry.componentNumber then
        Function.update table tagIndex ((table tagIndex).fill outside offset entry)
      else table := by
  rw [searchTableEntry, TableProgram.run_bind, run, TableProgram.run_bind, TableProgram.run_get,
    TableProgram.run_ite, TableProgram.run_ite, TableProgram.run_ite, TableProgram.run_set,
    TableProgram.run_pure]
  by_cases marker : (table tagIndex).marker = entry.marker
  case neg =>
    rw [if_pos fun equal => marker equal.symm, if_neg fun accepted => marker accepted.1]
  by_cases format : entry.format = (table tagIndex).format
  case neg =>
    rw [if_neg (not_not.mpr marker.symm), if_pos format, if_neg fun accepted => format accepted.2.1]
  rw [if_neg (not_not.mpr marker.symm), if_neg (not_not.mpr format)]
  by_cases counts : (table tagIndex).Counts entry.componentNumber
  · rw [if_neg ((not_refused_iff _ _).mpr counts), if_pos ⟨marker, format, counts⟩]
  · rw [if_pos (not_not.mp (mt (not_refused_iff _ _).mp counts)),
      if_neg fun accepted => counts accepted.2.2]

/-- One entry on the memory of the table, and on its slots. -/
theorem tableTags_run_searchTableEntry :
    tableTags ((searchTableEntry outside count offset entry).run table).2 count =
      IfdTags.record outside (tableTags table count) count offset entry := by
  rcases run_findTagIndex table entry.marker 0 count with
    ⟨tagIndex, run, isTagIndex⟩
  rw [Nat.zero_add] at isTagIndex
  rw [run_searchTableEntry run, IfdTags.record, findTag_tableTags isTagIndex]
  by_cases marker : (table tagIndex).marker = entry.marker
  case neg => rw [if_neg fun accepted => marker accepted.1, if_neg marker]
  rw [if_pos marker]
  dsimp only
  have inTags : tagIndex < count + 1 := Nat.lt_succ_of_le isTagIndex.last
  by_cases accepted : entry.format = (tableTags table count ⟨tagIndex, inTags⟩).format ∧
      (tableTags table count ⟨tagIndex, inTags⟩).Counts entry.componentNumber
  · rw [if_pos ⟨marker, accepted⟩, if_pos accepted]
    funext index
    rw [tableTags]
    by_cases same : index.val = tagIndex
    · subst same
      rw [Function.update_self, Function.update_self]
      rfl
    · rw [Function.update_of_ne same, Function.update_of_ne]
      · rfl
      · intro equal
        exact same (congrArg Fin.val equal)
  · rw [if_neg fun all => accepted all.2, if_neg accepted]

/-- An entry stays inside the table if its marker is there. -/
theorem inside_searchTableEntry_iff :
    (searchTableEntry outside count offset entry).Inside table count ↔
      ∃ slot < count, (table slot).marker = entry.marker := by
  rcases run_findTagIndex table entry.marker 0 count with
    ⟨tagIndex, run, isTagIndex⟩
  rw [Nat.zero_add] at isTagIndex
  rw [searchTableEntry, TableProgram.inside_bind, run, TableProgram.inside_bind,
    TableProgram.inside_get, TableProgram.run_get, TableProgram.inside_ite,
    TableProgram.inside_ite, TableProgram.inside_ite, TableProgram.inside_set]
  constructor
  · rintro ⟨-, below, -⟩
    exact ⟨tagIndex, below, isTagIndex.found below⟩
  · rintro ⟨slot, inTable, same⟩
    have below : tagIndex < count := by
      by_contra behind
      exact isTagIndex.before slot (Nat.zero_le _) (by omega) same
    have done : ∀ state : Nat → IfdTag,
        (pure () : TableProgram IfdTag Unit).Inside state count := fun _ =>
      TableProgram.inside_pure ()
    refine ⟨inside_findTagIndex 0 count (by omega), below, ?_⟩
    exact ⟨fun _ => done _, fun _ => ⟨fun _ => done _, fun _ => ⟨fun _ => done _, fun _ => below⟩⟩⟩

/-! ## All entries -/

variable {memory : Memory} {exifBinary : ExifBinary} {header : IfdHeader}

/-- The first entries of a directory, on the memory of the table. -/
def tableAfter (outside : UInt8) (memory : Memory) (exifBinary : ExifBinary) (header : IfdHeader)
    (count : Nat) (entries : Nat) : TableProgram IfdTag Unit :=
  TableProgram.forEach
    (fun entryIndex => searchTableEntry outside count (header.entryOffset entryIndex)
      (header.entry exifBinary memory entryIndex))
    (List.range entries)

theorem tableTags_run_tableAfter (entries : Nat) :
    tableTags ((tableAfter outside memory exifBinary header count entries).run table).2 count =
      IfdTags.after outside memory exifBinary header count (tableTags table count) entries := by
  induction entries with
  | zero => rfl
  | succ entries induction =>
      rw [tableAfter, List.range_succ, TableProgram.run_forEach_append_singleton,
        tableTags_run_searchTableEntry, IfdTags.after, ← induction]
      rfl

/-- The memory of the table behind it is the last slot of the search. -/
theorem tableTags_run_searchTable :
    tableTags ((searchTable outside memory exifBinary header count).run table).2 count =
      (searchIfdTags outside (tableTags table count) count header exifBinary).run memory := by
  by_cases empty : count = 0
  · rw [searchTable, searchIfdTags, if_pos empty, if_pos empty]
    rfl
  · rw [searchTable, if_neg empty, run_searchIfdTags outside _ empty]
    exact tableTags_run_tableAfter header.count.toNat

/-- Markers stay as they are. -/
theorem marker_run_tableAfter (entries : Nat) {slot : Nat} (below : slot < count) :
    (((tableAfter outside memory exifBinary header count entries).run table).2 slot).marker =
      (table slot).marker := by
  have after : tableTags ((tableAfter outside memory exifBinary header count entries).run table).2
      count ⟨slot, Nat.lt_succ_of_lt below⟩ = _ :=
    congrFun (tableTags_run_tableAfter entries) _
  exact (congrArg IfdTag.marker after).trans (after_marker entries)

theorem inside_tableAfter_iff (entries : Nat) :
    (tableAfter outside memory exifBinary header count entries).Inside table count ↔
      ∀ index < entries, ∃ slot < count,
        (table slot).marker = (header.entry exifBinary memory index).marker := by
  induction entries with
  | zero =>
      refine iff_of_true (TableProgram.inside_pure ()) fun index below => ?_
      exact absurd below (Nat.not_lt_zero index)
  | succ entries induction =>
      rw [tableAfter, List.range_succ, TableProgram.inside_forEach_append_singleton,
        inside_searchTableEntry_iff, ← tableAfter, induction]
      have last : (∃ slot < count,
            (((tableAfter outside memory exifBinary header count entries).run table).2
              slot).marker = (header.entry exifBinary memory entries).marker) ↔
          ∃ slot < count,
            (table slot).marker = (header.entry exifBinary memory entries).marker := by
        refine exists_congr fun slot => and_congr_right fun below => ?_
        rw [marker_run_tableAfter entries below]
      rw [last]
      constructor
      · rintro ⟨earlier, known⟩ index below
        rcases Nat.lt_succ_iff_lt_or_eq.mp below with before | rfl
        · exact earlier index before
        · exact known
      · intro known
        exact ⟨fun index below => known index (by omega), known entries (by omega)⟩

/-- The search stays inside the table if it knows every marker. -/
theorem inside_searchTable_iff (slots : count ≠ 0) :
    (searchTable outside memory exifBinary header count).Inside table count ↔
      ∀ index < header.count.toNat, ∃ slot < count,
        (table slot).marker = (header.entry exifBinary memory index).marker := by
  rw [searchTable, if_neg slots]
  exact inside_tableAfter_iff header.count.toNat

end

end Capsrv.Image
