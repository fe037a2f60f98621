import Capsrv.Image.TagTable

/-! # The tag lookup

What `SearchIfdTags` is for: each slot of the table gets the location of the
first entry that fits it. The search keeps the count a slot is declared with in
the memory of the location, and it looks for markers that the table does not
have behind its end.
-/

namespace Capsrv.Image

open Capsrv

/-! ## Entries and slots -/

/-- A format with a size in `DataFormatSize`. -/
def IsDataFormat (format : DataFormat) : Prop :=
  1 ≤ format.toNat ∧ format.toNat ≤ 12

instance (format : DataFormat) : Decidable (IsDataFormat format) :=
  inferInstanceAs (Decidable (_ ∧ _))

theorem dataFormatSize_of_isDataFormat (outside : UInt8) {format : DataFormat}
    (known : IsDataFormat format) :
    1 ≤ (dataFormatSize outside format).toNat ∧ (dataFormatSize outside format).toNat ≤ 8 := by
  rcases known with ⟨first, last⟩
  have every : ∀ index < 12,
      1 ≤ (([1, 1, 2, 4, 8, 1, 1, 2, 4, 8, 4, 8] : List UInt8).getD index 0).toNat ∧
        (([1, 1, 2, 4, 8, 1, 1, 2, 4, 8, 4, 8] : List UInt8).getD index 0).toNat ≤ 8 := by
    decide
  rcases Nat.exists_eq_add_of_le' first with ⟨index, equal⟩
  rw [dataFormatSize, equal, List.getD_cons_succ]
  exact every index (by omega)

section

variable {α : Type} {property : α → Prop} [DecidablePred property] {items : List α} {item : α}

theorem find?_eq_none_iff_forall :
    items.find? (fun item => property item) = none ↔ ∀ item ∈ items, ¬ property item := by
  simp only [List.find?_eq_none, decide_eq_true_eq]

theorem find?_eq_some_iff_first :
    items.find? (fun item => property item) = some item ↔ property item ∧
      ∃ before after, items = before ++ item :: after ∧ ∀ earlier ∈ before, ¬ property earlier := by
  simp only [List.find?_eq_some_iff_append, decide_eq_true_eq, Bool.not_eq_true',
    decide_eq_false_iff_not]

end

/-- An entry where its directory has it. -/
structure PlacedEntry where
  offset : UInt16
  entry : IfdEntry

namespace IfdTag

/-- The search fills the slot with an entry of its marker. -/
structure Takes (tag : IfdTag) (entry : IfdEntry) : Prop where
  marker : entry.marker = tag.marker
  format : entry.format = tag.format
  counts : tag.Counts entry.componentNumber

instance (tag : IfdTag) (entry : IfdEntry) : Decidable (tag.Takes entry) :=
  decidable_of_iff
    (entry.marker = tag.marker ∧ entry.format = tag.format ∧ tag.Counts entry.componentNumber)
    ⟨fun all => ⟨all.1, all.2.1, all.2.2⟩, fun takes => ⟨takes.marker, takes.format, takes.counts⟩⟩

/-- The entry is one for the slot. -/
structure Fits (tag : IfdTag) (entry : IfdEntry) : Prop where
  takes : tag.Takes entry
  nonempty : entry.componentNumber ≠ 0

instance (tag : IfdTag) (entry : IfdEntry) : Decidable (tag.Fits entry) :=
  decidable_of_iff (tag.Takes entry ∧ entry.componentNumber ≠ 0)
    ⟨fun both => ⟨both.1, both.2⟩, fun fits => ⟨fits.takes, fits.nonempty⟩⟩

/-- The slot after one entry of its marker or another one. -/
def take (outside : UInt8) (tag : IfdTag) (placed : PlacedEntry) : IfdTag :=
  if tag.Takes placed.entry then tag.fill outside placed.offset placed.entry else tag

/-- The slot after all entries. -/
def takeAll (outside : UInt8) (tag : IfdTag) (entries : List PlacedEntry) : IfdTag :=
  entries.foldl (take outside) tag

/-- The slot with the first entry that fits it. -/
def lookUp (outside : UInt8) (tag : IfdTag) (entries : List PlacedEntry) : IfdTag :=
  match entries.find? fun placed => tag.Fits placed.entry with
  | none => tag
  | some placed => tag.fill outside placed.offset placed.entry

section

variable {outside : UInt8} {tag : IfdTag} {placed : PlacedEntry} {entries : List PlacedEntry}

/-- A slot that nothing fills stays as it is. -/
theorem takeAll_of_refused (refused : ∀ placed ∈ entries, ¬ tag.Takes placed.entry) :
    tag.takeAll outside entries = tag := by
  induction entries with
  | nil => rfl
  | cons placed entries induction =>
      rw [takeAll, List.foldl_cons, take, if_neg (refused placed List.mem_cons_self)]
      apply induction
      intro later member
      exact refused later (List.mem_cons_of_mem placed member)

/-- A slot with a value refuses every other one. -/
theorem not_takes_of_filled (filled : tag.size ≠ 0) (entry : IfdEntry) : ¬ tag.Takes entry := by
  intro takes
  have positive : tag.size.toNat ≠ 0 := fun zero => filled (UInt32.toNat_inj.mp zero)
  have small := UInt32.lt_iff_toNat_lt.mp takes.counts.1
  have limit : (0xffff : UInt32).toNat = 0xffff := rfl
  have large : 2 ^ 32 ≤ tag.count := by
    rw [count]
    omega
  rcases takes.counts.2 with zero | same
  · omega
  · omega

theorem takeAll_of_filled (filled : tag.size ≠ 0) : tag.takeAll outside entries = tag :=
  takeAll_of_refused fun placed _ => not_takes_of_filled filled placed.entry

/-- The first entry that is taken decides how it goes on. -/
theorem takeAll_append_cons {before after : List PlacedEntry}
    (refused : ∀ earlier ∈ before, ¬ tag.Takes earlier.entry) (takes : tag.Takes placed.entry) :
    tag.takeAll outside (before ++ placed :: after) =
      (tag.fill outside placed.offset placed.entry).takeAll outside after := by
  rw [takeAll, List.foldl_append, List.foldl_cons]
  change takeAll outside (take outside (tag.takeAll outside before) placed) after = _
  rw [takeAll_of_refused refused, take, if_pos takes]

variable (outside) in
/-- The size of a value, which is not cut off. -/
theorem toNat_size_of_takes (known : IsDataFormat tag.format) {entry : IfdEntry}
    (takes : tag.Takes entry) :
    (entry.size outside).toNat =
      (dataFormatSize outside tag.format).toNat * entry.componentNumber.toNat := by
  have bounds := dataFormatSize_of_isDataFormat outside known
  have small := UInt32.lt_iff_toNat_lt.mp takes.counts.1
  have limit : (0xffff : UInt32).toNat = 0xffff := rfl
  rw [IfdEntry.size, takes.format, UInt32.toNat_mul, UInt8.toNat_toUInt32]
  apply Nat.mod_eq_of_lt
  have product := Nat.mul_le_mul bounds.2 (Nat.le_of_lt small)
  omega

theorem size_fill_ne_zero (outside : UInt8) (offset : UInt16) (known : IsDataFormat tag.format)
    {entry : IfdEntry} (takes : tag.Takes entry) (nonempty : entry.componentNumber ≠ 0) :
    (tag.fill outside offset entry).size ≠ 0 := by
  intro zero
  have exact := toNat_size_of_takes outside known takes
  have bounds := dataFormatSize_of_isDataFormat outside known
  have positive : entry.componentNumber.toNat ≠ 0 := fun none =>
    nonempty (UInt32.toNat_inj.mp none)
  change entry.size outside = 0 at zero
  rw [zero] at exact
  rcases Nat.mul_eq_zero.mp exact.symm with none | none
  · omega
  · exact positive none

/-- An entry with components fills the slot for good. -/
theorem takeAll_of_takes (known : IsDataFormat tag.format) {before after : List PlacedEntry}
    (refused : ∀ earlier ∈ before, ¬ tag.Takes earlier.entry) (takes : tag.Takes placed.entry)
    (nonempty : placed.entry.componentNumber ≠ 0) :
    tag.takeAll outside (before ++ placed :: after) =
      tag.fill outside placed.offset placed.entry := by
  rw [takeAll_append_cons refused takes,
    takeAll_of_filled (size_fill_ne_zero outside _ known takes nonempty)]

variable (outside tag) in
/-- An entry without components leaves a count behind, that of where its value
would be. -/
theorem count_fill_of_empty (empty : placed.entry.componentNumber = 0) :
    (tag.fill outside placed.offset placed.entry).size = 0 ∧
      (tag.fill outside placed.offset placed.entry).count = placed.offset.toNat + 8 := by
  have size : placed.entry.size outside = 0 := by
    rw [IfdEntry.size, empty, UInt32.mul_zero]
  have inline : (placed.entry.size outside).toNat ≤ 4 := by
    rw [size]
    decide
  have none : (tag.fill outside placed.offset placed.entry).size.toNat = 0 :=
    congrArg UInt32.toNat size
  refine ⟨size, ?_⟩
  rw [count, offset_fill_of_inline inline, none, Nat.zero_mul, Nat.add_zero]

/-- Only a slot declared without a count takes an entry without components. -/
theorem count_of_takes_empty {entry : IfdEntry} (takes : tag.Takes entry)
    (empty : entry.componentNumber = 0) : tag.count = 0 := by
  rcases takes.counts.2 with zero | same
  · exact zero
  · rw [same, empty]
    rfl

/-- After that the slot takes what it took before with that count only. -/
theorem takes_fill_of_empty (takes : tag.Takes placed.entry)
    (empty : placed.entry.componentNumber = 0) {entry : IfdEntry} :
    (tag.fill outside placed.offset placed.entry).Takes entry ↔
      tag.Takes entry ∧ entry.componentNumber.toNat = placed.offset.toNat + 8 := by
  have counted := (count_fill_of_empty outside tag empty).2
  have undeclared := count_of_takes_empty takes empty
  constructor
  · intro later
    refine ⟨⟨later.marker, later.format, later.counts.1, .inl undeclared⟩, ?_⟩
    rcases later.counts.2 with zero | same
    · omega
    · omega
  · rintro ⟨later, same⟩
    exact ⟨later.marker, later.format, later.counts.1, .inr (by omega)⟩

/-- What it takes then fits it. -/
theorem fits_of_takes_fill_of_empty (takes : tag.Takes placed.entry)
    (empty : placed.entry.componentNumber = 0) {entry : IfdEntry}
    (later : (tag.fill outside placed.offset placed.entry).Takes entry) : tag.Fits entry := by
  rcases (takes_fill_of_empty takes empty).mp later with ⟨entryTakes, components⟩
  refine ⟨entryTakes, fun zero => ?_⟩
  rw [zero, UInt32.toNat_zero] at components
  omega

/-- What a slot can still get that has taken an entry without components. -/
theorem size_takeAll_fill_of_empty (outside : UInt8) (known : IsDataFormat tag.format)
    (takes : tag.Takes placed.entry) (empty : placed.entry.componentNumber = 0)
    (entries : List PlacedEntry) :
    ((tag.fill outside placed.offset placed.entry).takeAll outside entries).size.toNat = 0 ∨
      ((tag.fill outside placed.offset placed.entry).takeAll outside entries).size.toNat =
        (dataFormatSize outside tag.format).toNat * (placed.offset.toNat + 8) := by
  cases next : entries.find? fun later =>
      (tag.fill outside placed.offset placed.entry).Takes later.entry with
  | none =>
      rw [takeAll_of_refused (find?_eq_none_iff_forall.mp next),
        (count_fill_of_empty outside tag empty).1]
      exact .inl rfl
  | some later =>
      rcases find?_eq_some_iff_first.mp next with ⟨taken, before, after, rfl, refused⟩
      rcases (takes_fill_of_empty takes empty).mp taken with ⟨laterTakes, components⟩
      have nonempty := (fits_of_takes_fill_of_empty takes empty taken).nonempty
      have stillKnown : IsDataFormat (tag.fill outside placed.offset placed.entry).format := known
      right
      rw [takeAll_of_takes stillKnown refused taken nonempty, ← components]
      exact toNat_size_of_takes outside known laterTakes

theorem takeAll_fill_of_empty_ne (known : IsDataFormat tag.format)
    (takes : tag.Takes placed.entry) (empty : placed.entry.componentNumber = 0)
    {fit : PlacedEntry} (fits : tag.Fits fit.entry)
    (other : fit.entry.componentNumber.toNat ≠ placed.offset.toNat + 8) :
    (tag.fill outside placed.offset placed.entry).takeAll outside entries ≠
      tag.fill outside fit.offset fit.entry := by
  intro equal
  have size := toNat_size_of_takes outside known fits.takes
  have bounds := dataFormatSize_of_isDataFormat outside known
  have reached := size_takeAll_fill_of_empty outside known takes empty entries
  rw [equal] at reached
  change (fit.entry.size outside).toNat = 0 ∨ (fit.entry.size outside).toNat = _ at reached
  rw [size] at reached
  rcases reached with zero | same
  · rcases Nat.mul_eq_zero.mp zero with none | none
    · omega
    · exact fits.nonempty (UInt32.toNat_inj.mp none)
  · exact other (Nat.eq_of_mul_eq_mul_left (by omega) same)

/-- A slot that has taken an entry without components gets the right value
exactly if the entry that fits it has the count that was left behind. -/
theorem takeAll_fill_of_empty_iff (known : IsDataFormat tag.format)
    (takes : tag.Takes placed.entry) (empty : placed.entry.componentNumber = 0) :
    (tag.fill outside placed.offset placed.entry).takeAll outside entries =
        tag.lookUp outside entries ↔
      ∃ fit ∈ entries.find? (fun candidate => tag.Fits candidate.entry),
        fit.entry.componentNumber.toNat = placed.offset.toNat + 8 := by
  have fitting : ∀ {entry : IfdEntry},
      (tag.fill outside placed.offset placed.entry).Takes entry → tag.Fits entry :=
    fits_of_takes_fill_of_empty takes empty
  cases found : entries.find? fun candidate => tag.Fits candidate.entry with
  | none =>
      have unfit := find?_eq_none_iff_forall.mp found
      have refused : ∀ candidate ∈ entries,
          ¬ (tag.fill outside placed.offset placed.entry).Takes candidate.entry :=
        fun candidate member taken => unfit candidate member (fitting taken)
      have kept : tag.lookUp outside entries = tag := by
        rw [lookUp, found]
      rw [takeAll_of_refused refused, kept]
      refine iff_of_false (fun same => ?_) (by simp)
      have count := (count_fill_of_empty outside tag empty).2
      have undeclared := count_of_takes_empty takes empty
      rw [same] at count
      omega
  | some fit =>
      have lookedUp : tag.lookUp outside entries = tag.fill outside fit.offset fit.entry := by
        rw [lookUp, found]
      rcases find?_eq_some_iff_first.mp found with ⟨fits, before, after, rfl, unfit⟩
      simp only [Option.mem_some_iff, exists_eq_left']
      rw [lookedUp]
      by_cases same : fit.entry.componentNumber.toNat = placed.offset.toNat + 8
      · have refused : ∀ earlier ∈ before,
            ¬ (tag.fill outside placed.offset placed.entry).Takes earlier.entry :=
          fun earlier member taken => unfit earlier member (fitting taken)
        have taken : (tag.fill outside placed.offset placed.entry).Takes fit.entry :=
          (takes_fill_of_empty takes empty).mpr ⟨fits.takes, same⟩
        have stillKnown : IsDataFormat (tag.fill outside placed.offset placed.entry).format := known
        rw [takeAll_of_takes stillKnown refused taken fits.nonempty]
        exact iff_of_true rfl same
      · exact iff_of_false (takeAll_fill_of_empty_ne known takes empty fits same) same

/-- A slot gets what is to be looked up unless an entry without components is
the first that it takes. -/
theorem takeAll_eq_lookUp_iff (known : IsDataFormat tag.format) (entries : List PlacedEntry) :
    tag.takeAll outside entries = tag.lookUp outside entries ↔
      ∀ first ∈ entries.find? (fun placed => tag.Takes placed.entry),
        first.entry.componentNumber = 0 →
        ∃ fit ∈ entries.find? (fun placed => tag.Fits placed.entry),
          fit.entry.componentNumber.toNat = first.offset.toNat + 8 := by
  cases taken : entries.find? fun placed => tag.Takes placed.entry with
  | none =>
      have refused := find?_eq_none_iff_forall.mp taken
      have unfound : entries.find? (fun placed => tag.Fits placed.entry) = none :=
        find?_eq_none_iff_forall.mpr fun placed member fits => refused placed member fits.takes
      rw [takeAll_of_refused refused, lookUp, unfound]
      exact iff_of_true rfl fun first member => by cases member
  | some first =>
      rcases find?_eq_some_iff_first.mp taken with ⟨takes, before, after, rfl, refused⟩
      have unfound : before.find? (fun placed => tag.Fits placed.entry) = none :=
        find?_eq_none_iff_forall.mpr fun placed member fits => refused placed member fits.takes
      simp only [Option.mem_some_iff, forall_eq']
      by_cases empty : first.entry.componentNumber = 0
      · have unfit : ¬ tag.Fits first.entry := fun fits => fits.nonempty empty
        have skipped : (before ++ first :: after).find? (fun placed => tag.Fits placed.entry) =
            after.find? (fun placed => tag.Fits placed.entry) := by
          rw [List.find?_append, unfound, Option.none_or,
            List.find?_cons_of_neg (by rwa [decide_eq_true_eq])]
        have same : tag.lookUp outside (before ++ first :: after) = tag.lookUp outside after := by
          rw [lookUp, lookUp, skipped]
        rw [takeAll_append_cons refused takes, same, takeAll_fill_of_empty_iff known takes empty,
          skipped]
        simp only [empty, forall_const]
      · have fits : tag.Fits first.entry := ⟨takes, empty⟩
        have found : tag.lookUp outside (before ++ first :: after) =
            tag.fill outside first.offset first.entry := by
          rw [lookUp, List.find?_append, unfound, Option.none_or,
            List.find?_cons_of_pos (by rwa [decide_eq_true_eq])]
        rw [takeAll_of_takes known refused takes empty, found]
        exact iff_of_true rfl fun zero => absurd zero empty

end

end IfdTag

/-! ## Slots of a table -/

section

variable {outside : UInt8} {n count : Nat} {tags : IfdTags n} {slot : Fin n}

/-- The first slot with its marker takes the entries of this marker. -/
theorem record_of_first {offset : UInt16} {entry : IfdEntry} (bound : slot.val ≤ count)
    (first : ∀ earlier < slot, (tags earlier).marker ≠ (tags slot).marker) :
    IfdTags.record outside tags count offset entry slot =
      (tags slot).take outside ⟨offset, entry⟩ := by
  by_cases same : entry.marker = (tags slot).marker
  · have found : findTag tags count entry.marker = some slot := by
      rw [same]
      apply findTag_eq_some_iff.mpr
      exact ⟨⟨bound, rfl⟩, fun earlier smaller both => first earlier smaller both.2⟩
    rw [IfdTags.record, found, IfdTag.take]
    dsimp only
    by_cases accepted : entry.format = (tags slot).format ∧ (tags slot).Counts entry.componentNumber
    · rw [if_pos accepted, if_pos ⟨same, accepted.1, accepted.2⟩, Function.update_self]
    · rw [if_neg accepted, if_neg fun takes => accepted ⟨takes.format, takes.counts⟩]
  · rw [record_of_ne same, IfdTag.take, if_neg fun takes => same takes.marker]

/-- A slot behind another one with its marker is never filled. -/
theorem record_of_shadowed {offset : UInt16} {entry : IfdEntry} {earlier : Fin n}
    (smaller : earlier < slot) (bound : slot.val ≤ count)
    (same : (tags earlier).marker = (tags slot).marker) :
    IfdTags.record outside tags count offset entry slot = tags slot := by
  rcases IfdTags.record_cases outside tags count offset entry with
      unchanged | ⟨filled, found, -, -, record⟩
  · rw [unchanged]
  · rw [record, Function.update_of_ne]
    rintro rfl
    rcases findTag_eq_some_iff.mp found with ⟨both, before⟩
    exact before earlier smaller ⟨by omega, same.trans both.2⟩

variable {memory : Memory} {exifBinary : ExifBinary} {header : IfdHeader}

/-- An entry of a directory with where it is. -/
def IfdHeader.placed (header : IfdHeader) (exifBinary : ExifBinary) (memory : Memory)
    (index : Nat) : PlacedEntry :=
  ⟨header.entryOffset index, header.entry exifBinary memory index⟩

theorem after_of_first (bound : slot.val ≤ count)
    (first : ∀ earlier < slot, (tags earlier).marker ≠ (tags slot).marker) (entries : Nat) :
    IfdTags.after outside memory exifBinary header count tags entries slot =
      (tags slot).takeAll outside ((List.range entries).map (header.placed exifBinary memory)) := by
  induction entries with
  | zero => rfl
  | succ entries induction =>
      have stillFirst : ∀ earlier < slot,
          (IfdTags.after outside memory exifBinary header count tags entries earlier).marker ≠
            (IfdTags.after outside memory exifBinary header count tags entries slot).marker := by
        intro earlier smaller
        rw [after_marker, after_marker]
        exact first earlier smaller
      rw [IfdTags.after, record_of_first bound stillFirst, induction, List.range_succ,
        List.map_append, IfdTag.takeAll, IfdTag.takeAll, List.foldl_append]
      rfl

theorem after_of_shadowed {earlier : Fin n} (smaller : earlier < slot) (bound : slot.val ≤ count)
    (same : (tags earlier).marker = (tags slot).marker) (entries : Nat) :
    IfdTags.after outside memory exifBinary header count tags entries slot = tags slot := by
  induction entries with
  | zero => rfl
  | succ entries induction =>
      have stillSame :
          (IfdTags.after outside memory exifBinary header count tags entries earlier).marker =
            (IfdTags.after outside memory exifBinary header count tags entries slot).marker := by
        rw [after_marker, after_marker]
        exact same
      rw [IfdTags.after, record_of_shadowed smaller bound stillSame, induction]

end

/-! ## The lookup -/

section

variable (outside : UInt8) (memory : Memory) (exifBinary : ExifBinary) (header : IfdHeader)

/-- The first entry of a directory with a property. -/
structure FirstEntry (property : IfdEntry → Prop) (index : Nat) : Prop where
  below : index < header.count.toNat
  holds : property (header.entry exifBinary memory index)
  before : ∀ earlier < index, ¬ property (header.entry exifBinary memory earlier)

/-- The slot has the location of an entry. -/
structure Located (tag slot : IfdTag) (index : Nat) : Prop where
  marker : slot.marker = tag.marker
  format : slot.format = tag.format
  size : slot.size.toNat = (dataFormatSize outside tag.format).toNat *
    (header.entry exifBinary memory index).componentNumber.toNat
  inline : slot.size.toNat ≤ 4 → slot.offset.toNat = header.offset.toNat + 2 + 12 * index + 8
  offset : 4 < slot.size.toNat →
    slot.offset.toNat = (header.entry exifBinary memory index).value.toNat

/-- A slot before and after the lookup. -/
structure LookedUp (tag slot : IfdTag) : Prop where
  located : ∀ index, FirstEntry memory exifBinary header tag.Fits index →
    Located outside memory exifBinary header tag slot index
  kept : (∀ index < header.count.toNat, ¬ tag.Fits (header.entry exifBinary memory index)) →
    slot = tag

/-- The search stays inside the table and looks every slot up. -/
structure ImplementsLookup (count : Nat) (table : Nat → IfdTag) : Prop where
  inside : (searchTable outside memory exifBinary header count).Inside table count
  slots : ∀ slot < count, LookedUp outside memory exifBinary header (table slot)
    (((searchTable outside memory exifBinary header count).run table).2 slot)

/-- The directories and tables on which it does. -/
structure LookupCondition (count : Nat) (table : Nat → IfdTag) : Prop where
  known : ∀ index < header.count.toNat, ∃ slot < count,
    (table slot).marker = (header.entry exifBinary memory index).marker
  unshadowed : ∀ slot < count, (∃ earlier < slot, (table earlier).marker = (table slot).marker) →
    ∀ index < header.count.toNat, ¬ (table slot).Fits (header.entry exifBinary memory index)
  counted : ∀ slot < count, (∀ earlier < slot, (table earlier).marker ≠ (table slot).marker) →
    ∀ index, FirstEntry memory exifBinary header (table slot).Takes index →
      (header.entry exifBinary memory index).componentNumber = 0 →
      ∃ fit, FirstEntry memory exifBinary header (table slot).Fits fit ∧
        (header.entry exifBinary memory fit).componentNumber.toNat =
          header.offset.toNat + 2 + 12 * index + 8

end

section

variable {outside : UInt8} {memory : Memory} {exifBinary : ExifBinary} {header : IfdHeader}
variable {tag slot : IfdTag}

theorem FirstEntry.unique {property : IfdEntry → Prop} {index other : Nat}
    (first : FirstEntry memory exifBinary header property index)
    (otherFirst : FirstEntry memory exifBinary header property other) : other = index := by
  rcases Nat.lt_trichotomy other index with earlier | equal | later
  · exact absurd otherFirst.holds (first.before other earlier)
  · exact equal
  · exact absurd first.holds (otherFirst.before index later)

theorem find?_placed_eq_none_iff {property : IfdEntry → Prop} [DecidablePred property] :
    ((List.range header.count.toNat).map (header.placed exifBinary memory)).find?
        (fun placed => property placed.entry) = none ↔
      ∀ index < header.count.toNat, ¬ property (header.entry exifBinary memory index) := by
  rw [find?_eq_none_iff_forall, List.forall_mem_map]
  simp only [List.mem_range]
  rfl

theorem find?_placed_eq_some_iff {property : IfdEntry → Prop} [DecidablePred property]
    {placed : PlacedEntry} :
    ((List.range header.count.toNat).map (header.placed exifBinary memory)).find?
        (fun placed => property placed.entry) = some placed ↔
      ∃ index, FirstEntry memory exifBinary header property index ∧
        header.placed exifBinary memory index = placed := by
  rw [List.find?_map, Option.map_eq_some_iff]
  refine exists_congr fun index => and_congr_left fun _ => ?_
  rw [List.find?_range_eq_some]
  simp only [Function.comp_apply, decide_eq_true_eq, List.mem_range, Bool.not_eq_true',
    decide_eq_false_iff_not]
  exact ⟨fun all => ⟨all.2.1, all.1, all.2.2⟩,
    fun first => ⟨first.holds, first.below, first.before⟩⟩

section

variable {size : Nat} (small : size < 0x10000)
  (inside : header.offset.toNat + 2 + 12 * header.count.toNat ≤ size)

include small inside

variable (outside) in
theorem located_fill (known : IsDataFormat tag.format) {index : Nat}
    (first : FirstEntry memory exifBinary header tag.Fits index) :
    Located outside memory exifBinary header tag
      (tag.fill outside (header.entryOffset index) (header.entry exifBinary memory index))
      index := by
  have below := first.below
  have position : (header.entryOffset index).toNat = header.offset.toNat + 2 + 12 * index :=
    IfdHeader.toNat_entryOffset (by omega)
  constructor
  · rfl
  · rfl
  · exact IfdTag.toNat_size_of_takes outside known first.holds.takes
  · intro inline
    rw [IfdTag.offset_fill_of_inline inline, position]
  · intro long
    rw [IfdTag.offset_fill_of_long long]

omit small inside in
theorem Located.unique {other : IfdTag} {index : Nat}
    (located : Located outside memory exifBinary header tag slot index)
    (otherLocated : Located outside memory exifBinary header tag other index) : slot = other := by
  have sizes : slot.size.toNat = other.size.toNat := located.size.trans otherLocated.size.symm
  have offsets : slot.offset.toNat = other.offset.toNat := by
    by_cases inline : slot.size.toNat ≤ 4
    · rw [located.inline inline, otherLocated.inline (by omega)]
    · rw [located.offset (by omega), otherLocated.offset (by omega)]
  have marker : slot.marker = other.marker := located.marker.trans otherLocated.marker.symm
  have format : slot.format = other.format := located.format.trans otherLocated.format.symm
  cases slot
  cases other
  simp only [IfdTag.mk.injEq]
  exact ⟨marker, format, UInt32.toNat_inj.mp offsets, UInt32.toNat_inj.mp sizes⟩

/-- The lookup determines the slot. -/
theorem lookedUp_iff (known : IsDataFormat tag.format) :
    LookedUp outside memory exifBinary header tag slot ↔
      slot = tag.lookUp outside
        ((List.range header.count.toNat).map (header.placed exifBinary memory)) := by
  rw [IfdTag.lookUp]
  cases found : ((List.range header.count.toNat).map (header.placed exifBinary memory)).find?
      fun placed => tag.Fits placed.entry with
  | none =>
      have unfit := find?_placed_eq_none_iff.mp found
      constructor
      · intro lookedUp
        exact lookedUp.kept unfit
      · intro same
        exact ⟨fun index first => absurd first.holds (unfit index first.below), fun _ => same⟩
  | some placed =>
      rcases find?_placed_eq_some_iff.mp found with ⟨index, first, rfl⟩
      have located := located_fill outside small inside known first
      constructor
      · intro lookedUp
        exact (lookedUp.located index first).unique located
      · rintro rfl
        refine ⟨fun other otherFirst => ?_, fun unfit => ?_⟩
        · rw [first.unique otherFirst]
          exact located
        · exact absurd first.holds (unfit index first.below)

/-- A slot is looked up as it is if nothing fits it. -/
theorem lookedUp_self_iff (known : IsDataFormat tag.format) :
    LookedUp outside memory exifBinary header tag tag ↔
      ∀ index < header.count.toNat, ¬ tag.Fits (header.entry exifBinary memory index) := by
  rw [lookedUp_iff small inside known, ← find?_placed_eq_none_iff, IfdTag.lookUp]
  cases found : ((List.range header.count.toNat).map (header.placed exifBinary memory)).find?
      fun placed => tag.Fits placed.entry with
  | none => exact iff_of_true rfl rfl
  | some placed =>
      rcases find?_placed_eq_some_iff.mp found with ⟨index, first, rfl⟩
      have filled := IfdTag.size_fill_ne_zero outside (header.entryOffset index) known
        first.holds.takes first.holds.nonempty
      apply iff_of_false
      · intro same
        have unchanged : tag = tag.fill outside (header.entryOffset index)
            (header.entry exifBinary memory index) := same
        rw [← unchanged] at filled
        exact IfdTag.not_takes_of_filled filled _ first.holds.takes
      · exact Option.some_ne_none _

end

/-! ## The whole table -/

variable {count : Nat} {table : Nat → IfdTag}

/-- A slot of the table after the search. -/
theorem run_searchTable_slot (slots : count ≠ 0) {slot : Nat} (below : slot < count) :
    ((searchTable outside memory exifBinary header count).run table).2 slot =
      IfdTags.after outside memory exifBinary header count (tableTags table count)
        header.count.toNat ⟨slot, Nat.lt_succ_of_lt below⟩ := by
  rw [← tableTags_run_tableAfter, searchTable, if_neg slots]
  rfl

theorem lookedUp_of_first_iff (small : exifBinary.size.toNat < 0x10000)
    (inside : header.offset.toNat + 2 + 12 * header.count.toNat ≤ exifBinary.size.toNat)
    (slots : count ≠ 0) {slot : Nat} (below : slot < count)
    (known : IsDataFormat (table slot).format)
    (first : ∀ earlier < slot, (table earlier).marker ≠ (table slot).marker) :
    LookedUp outside memory exifBinary header (table slot)
        (((searchTable outside memory exifBinary header count).run table).2 slot) ↔
      ∀ index, FirstEntry memory exifBinary header (table slot).Takes index →
        (header.entry exifBinary memory index).componentNumber = 0 →
        ∃ fit, FirstEntry memory exifBinary header (table slot).Fits fit ∧
          (header.entry exifBinary memory fit).componentNumber.toNat =
            header.offset.toNat + 2 + 12 * index + 8 := by
  have after : ((searchTable outside memory exifBinary header count).run table).2 slot =
      (table slot).takeAll outside
        ((List.range header.count.toNat).map (header.placed exifBinary memory)) := by
    rw [run_searchTable_slot slots below, after_of_first (Nat.le_of_lt below)]
    · rfl
    · exact fun earlier smaller => first earlier.val smaller
  have position : ∀ index < header.count.toNat,
      (header.entryOffset index).toNat = header.offset.toNat + 2 + 12 * index :=
    fun index inDirectory => IfdHeader.toNat_entryOffset (by omega)
  rw [lookedUp_iff small inside known, after, IfdTag.takeAll_eq_lookUp_iff known]
  constructor
  · intro counted index taken empty
    have found := find?_placed_eq_some_iff.mpr ⟨index, taken, rfl⟩
    rcases counted _ found empty with ⟨fit, isFirst, same⟩
    rcases find?_placed_eq_some_iff.mp isFirst with ⟨other, otherFirst, rfl⟩
    change _ = (header.entryOffset index).toNat + 8 at same
    rw [position index taken.below] at same
    exact ⟨other, otherFirst, same⟩
  · intro counted placed found empty
    rcases find?_placed_eq_some_iff.mp found with ⟨index, taken, rfl⟩
    rcases counted index taken empty with ⟨fit, isFirst, same⟩
    refine ⟨_, find?_placed_eq_some_iff.mpr ⟨fit, isFirst, rfl⟩, ?_⟩
    change _ = (header.entryOffset index).toNat + 8
    rw [position index taken.below]
    exact same

theorem lookedUp_of_shadowed_iff (small : exifBinary.size.toNat < 0x10000)
    (inside : header.offset.toNat + 2 + 12 * header.count.toNat ≤ exifBinary.size.toNat)
    (slots : count ≠ 0) {slot : Nat} (below : slot < count)
    (known : IsDataFormat (table slot).format)
    (shadowed : ∃ earlier < slot, (table earlier).marker = (table slot).marker) :
    LookedUp outside memory exifBinary header (table slot)
        (((searchTable outside memory exifBinary header count).run table).2 slot) ↔
      ∀ index < header.count.toNat,
        ¬ (table slot).Fits (header.entry exifBinary memory index) := by
  rcases shadowed with ⟨earlier, smaller, same⟩
  have earlierBelow : earlier < count + 1 := by omega
  have isEarlier : (⟨earlier, earlierBelow⟩ : Fin (count + 1)) <
      ⟨slot, Nat.lt_succ_of_lt below⟩ := smaller
  have after : ((searchTable outside memory exifBinary header count).run table).2 slot =
      table slot := by
    rw [run_searchTable_slot slots below,
      after_of_shadowed isEarlier (Nat.le_of_lt below) same]
    rfl
  rw [after]
  exact lookedUp_self_iff small inside known

end

/-- The search implements the lookup exactly if it knows every marker, nothing
fits a slot behind another one with its marker, and no slot takes an entry
without components first, save that the entry that fits has just the count that
this leaves behind. -/
theorem implementsLookup_iff (outside : UInt8) (memory : Memory) (exifBinary : ExifBinary)
    (header : IfdHeader) (count : Nat) (table : Nat → IfdTag)
    (small : exifBinary.size.toNat < 0x10000)
    (inside : header.offset.toNat + 2 + 12 * header.count.toNat ≤ exifBinary.size.toNat)
    (formats : ∀ slot < count, IsDataFormat (table slot).format) :
    ImplementsLookup outside memory exifBinary header count table ↔
      count = 0 ∨ LookupCondition memory exifBinary header count table := by
  by_cases slots : count = 0
  · refine iff_of_true ⟨?_, ?_⟩ (.inl slots)
    · rw [searchTable, if_pos slots]
      exact TableProgram.inside_pure ()
    · intro slot below
      omega
  · rw [or_iff_right slots]
    constructor
    · intro implements
      constructor
      · exact (inside_searchTable_iff slots).mp implements.inside
      · intro slot below shadowed
        exact (lookedUp_of_shadowed_iff small inside slots below (formats slot below)
          shadowed).mp (implements.slots slot below)
      · intro slot below first
        exact (lookedUp_of_first_iff small inside slots below (formats slot below)
          first).mp (implements.slots slot below)
    · intro condition
      refine ⟨(inside_searchTable_iff slots).mpr condition.known, fun slot below => ?_⟩
      by_cases shadowed : ∃ earlier < slot, (table earlier).marker = (table slot).marker
      · exact (lookedUp_of_shadowed_iff small inside slots below (formats slot below)
          shadowed).mpr (condition.unshadowed slot below shadowed)
      · have first : ∀ earlier < slot, (table earlier).marker ≠ (table slot).marker :=
          fun earlier smaller same => shadowed ⟨earlier, smaller, same⟩
        exact (lookedUp_of_first_iff small inside slots below (formats slot below)
          first).mpr (condition.counted slot below first)

/-! ## A tag that the table does not have -/

/-- The table of the main directory, and what is behind it. -/
def mainTable : Nat → IfdTag := fun slot =>
  if inTable : slot < 7 then (ExifBinary.init 0 26).mainTags ⟨slot, inTable⟩
  else .declare 0 0 0

/-- A directory at offset 8 with a single entry, a short. -/
def singleEntry (low high : UInt8) : Memory := fun address =>
  [0x49, 0x49, 0x2a, 0, 8, 0, 0, 0,
    1, 0, low, high, 3, 0, 1, 0, 0, 0, 1, 0, 0, 0, 0, 0, 0, 0].getD address 0

/-- An image width is looked for in all slots and behind them. -/
theorem not_implementsLookup_imageWidth :
    ¬ (∀ (outside : UInt8) (memory : Memory) (exifBinary : ExifBinary) (header : IfdHeader)
        (count : Nat) (table : Nat → IfdTag),
      exifBinary.size.toNat < 0x10000 →
      header.offset.toNat + 2 + 12 * header.count.toNat ≤ exifBinary.size.toNat →
      (∀ slot < count, IsDataFormat (table slot).format) →
      ImplementsLookup outside memory exifBinary header count table) := by
  intro always
  have implements := always 0 (singleEntry 0x00 0x01) (.init 0 26) ⟨8, 1, 0⟩ 7 mainTable
    (by decide) (by decide) (by decide)
  have known := (inside_searchTable_iff (by decide)).mp implements.inside 0 (by decide)
  exact absurd known (by decide)

/-- An orientation. -/
theorem lookupCondition_orientation :
    LookupCondition (singleEntry 0x12 0x01) (.init 0 26) ⟨8, 1, 0⟩ 7 mainTable where
  known := by decide
  unshadowed := by decide
  counted slot _ _ index first empty := by
    have zero : index = 0 := Nat.lt_one_iff.mp first.below
    rw [zero] at empty
    exact absurd empty (by decide)

theorem implementsLookup_iff_orientation :
    ImplementsLookup 0 (singleEntry 0x12 0x01) (.init 0 26) ⟨8, 1, 0⟩ 7 mainTable :=
  (implementsLookup_iff 0 (singleEntry 0x12 0x01) (.init 0 26) ⟨8, 1, 0⟩ 7 mainTable (by decide)
    (by decide) (by decide)).mpr (.inr lookupCondition_orientation)

end Capsrv.Image
