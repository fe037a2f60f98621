import Capsrv.FileName

/-! # The grammar of file names

What a file name looks like, and what `FromString` takes for one: characters
that are no digits, the month and the day `00`, and a last pair that leaves the
buffer as it was.
-/

namespace Capsrv

/-! ## Numbers in a text -/

namespace Text

/-- The number that `width` digits at `start` stand for. -/
def numberAt (value : UInt8 → Option Nat) (base : Nat) (text : Text) (start : Nat) :
    (width : Nat) → Option Nat
  | 0 => some 0
  | width + 1 => do
      let high ← numberAt value base text start width
      let low ← value (text.charAt (start + width))
      some (high * base + low)

/-- What comes out when the characters are not looked at: each counts for its
distance from `0`. -/
def distanceAt (text : Text) (start : Nat) : (width : Nat) → Int
  | 0 => 0
  | width + 1 =>
      distanceAt text start width * 10 + (((text.charAt (start + width)).toNat : Int) - 0x30)

theorem charAt_drop (text : Text) (count index : Nat) :
    charAt (text.drop count) index = text.charAt (count + index) := by
  simp [charAt, List.getD_eq_getElem?_getD]

theorem decimalValue_eq_some {character : UInt8} {digit : Nat}
    (value : decimalValue character = some digit) :
    digit < 10 ∧ (digit : Int) = (character.toNat : Int) - 0x30 := by
  unfold decimalValue at value
  split at value
  case isFalse => cases value
  case isTrue range =>
    rw [UInt8.le_iff_toNat_le, UInt8.le_iff_toNat_le] at range
    have low : (0x30 : UInt8).toNat = 0x30 := rfl
    have high : (0x39 : UInt8).toNat = 0x39 := rfl
    cases value
    omega

theorem numberAt_succ_eq_some {value : UInt8 → Option Nat} {base : Nat} {text : Text}
    {start width number : Nat} :
    numberAt value base text start (width + 1) = some number ↔
      ∃ high low, numberAt value base text start width = some high ∧
        value (text.charAt (start + width)) = some low ∧ high * base + low = number := by
  simp [numberAt, Option.bind_eq_some_iff]

/-- Every text of digits stands for a number. -/
theorem exists_numberAt {value : UInt8 → Option Nat} {base : Nat} {text : Text}
    {start width : Nat} (digits : ∀ index < width, (value (text.charAt (start + index))).isSome) :
    ∃ number, numberAt value base text start width = some number := by
  induction width with
  | zero => exact ⟨0, rfl⟩
  | succ width induction =>
      rcases induction fun index before => digits index (by omega) with ⟨high, read⟩
      rcases Option.isSome_iff_exists.mp (digits width (by omega)) with ⟨low, last⟩
      exact ⟨high * base + low, numberAt_succ_eq_some.mpr ⟨high, low, read, last, rfl⟩⟩

theorem isSome_of_numberAt {value : UInt8 → Option Nat} {base : Nat} {text : Text}
    {start width number : Nat} (read : numberAt value base text start width = some number) :
    ∀ index < width, (value (text.charAt (start + index))).isSome := by
  induction width generalizing number with
  | zero => exact fun index before => absurd before (Nat.not_lt_zero index)
  | succ width induction =>
      rcases numberAt_succ_eq_some.mp read with ⟨high, low, earlier, last, -⟩
      intro index before
      rcases Nat.lt_succ_iff_lt_or_eq.mp before with inside | rfl
      · exact induction earlier index inside
      · rw [last]
        rfl

/-- On digits the distances make up the number. -/
theorem distanceAt_of_numberAt {text : Text} {start width number : Nat}
    (read : numberAt decimalValue 10 text start width = some number) :
    distanceAt text start width = number ∧ number < 10 ^ width := by
  induction width generalizing number with
  | zero =>
      cases read
      exact ⟨rfl, by decide⟩
  | succ width induction =>
      rcases numberAt_succ_eq_some.mp read with ⟨high, low, earlier, last, rfl⟩
      rcases induction earlier with ⟨distance, bound⟩
      rcases decimalValue_eq_some last with ⟨small, value⟩
      constructor
      · rw [distanceAt, distance]
        omega
      · rw [Nat.pow_succ]
        omega

end Text

/-! ## Names -/

/-- How the time stamp of a name and its identifier are read. -/
structure NameReading where
  stamp : Text → AlbumDateTime → Prop
  identifier : Text → Block → Prop

/-- The name of a file: a time stamp, a dash, an identifier with the encrypted
application id and flag, the marker of the Extra types and the extension. -/
structure NameReading.Reads (reading : NameReading) (cipher : PathCipher) (str : Text)
    (dateTime : AlbumDateTime) (applicationId : UInt64) (type : ContentType) : Prop where
  stamp : reading.stamp str dateTime
  dash : str.charAt 16 = 0x2d
  identifier : ∃ block, reading.identifier (str.drop 17) block ∧
    cipher.decrypt block = (applicationId, if isExtra type then 1 else 0)
  ending : ∃ extension, getFileExtension type = some extension ∧
    str.drop 49 = (if isExtra type then ascii "X" else []) ++ extension

/-! ## The exact reading -/

/-- Sixteen digits: a year, a month, a day, a time of the day and a sequence
number. -/
structure IsTimeStamp (str : Text) (dateTime : AlbumDateTime) : Prop where
  year : Text.numberAt Text.decimalValue 10 str 0 4 = some dateTime.year.toNat
  month : Text.numberAt Text.decimalValue 10 str 4 2 = some dateTime.month.toNat
  day : Text.numberAt Text.decimalValue 10 str 6 2 = some dateTime.day.toNat
  hour : Text.numberAt Text.decimalValue 10 str 8 2 = some dateTime.hour.toNat
  minute : Text.numberAt Text.decimalValue 10 str 10 2 = some dateTime.minute.toNat
  second : Text.numberAt Text.decimalValue 10 str 12 2 = some dateTime.second.toNat
  sequence : Text.numberAt Text.decimalValue 10 str 14 2 = some dateTime.id.toNat
  monthRange : 1 ≤ dateTime.month.toNat ∧ dateTime.month.toNat ≤ 12
  dayRange : 1 ≤ dateTime.day.toNat ∧ dateTime.day.toNat ≤ 31
  hourRange : dateTime.hour.toNat < 24
  minuteRange : dateTime.minute.toNat < 60
  secondRange : dateTime.second.toNat < 60

/-- Thirty-two hexadecimal digits. -/
def IsIdentifier (str : Text) (block : Block) : Prop :=
  ∀ index : Fin 16,
    Text.numberAt Text.hexValue 16 str (2 * index.val) 2 = some (block index).toNat

def NameReading.exact : NameReading where
  stamp := IsTimeStamp
  identifier := IsIdentifier

/-! ## The loose reading -/

/-- Sixteen characters whose distances from `0`, cut to the width of their
fields, are in range. -/
structure IsLooseTimeStamp (str : Text) (dateTime : AlbumDateTime) : Prop where
  year : dateTime.year = UInt16.ofInt (str.distanceAt 0 4)
  month : dateTime.month = UInt8.ofInt (str.distanceAt 4 2)
  day : dateTime.day = UInt8.ofInt (str.distanceAt 6 2)
  hour : dateTime.hour = UInt8.ofInt (str.distanceAt 8 2)
  minute : dateTime.minute = UInt8.ofInt (str.distanceAt 10 2)
  second : dateTime.second = UInt8.ofInt (str.distanceAt 12 2)
  sequence : dateTime.id = UInt8.ofInt (str.distanceAt 14 2)
  yearRange : dateTime.year.toNat < 10000
  monthRange : dateTime.month.toNat ≤ 12
  dayRange : dateTime.day.toNat ≤ 31
  hourRange : dateTime.hour.toNat < 24
  minuteRange : dateTime.minute.toNat < 60
  secondRange : dateTime.second.toNat < 60
  sequenceRange : dateTime.id.toNat < 100

/-- The byte of a pair that `strtoul` reads to its end: two digits, or one
behind a blank or a sign. -/
def looseByte (first second : UInt8) : Option UInt8 :=
  match Text.hexValue first, Text.hexValue second with
  | some high, some low => some (UInt8.ofNat (high * 16 + low))
  | none, some low =>
      if first = 0x2d then some (0 - UInt8.ofNat low)
      else if Text.isSpace first ∨ first = 0x2b then some (UInt8.ofNat low)
      else none
  | _, none => none

/-- The byte of the pair with a number. -/
def looseByteAt (str : Text) (number : Nat) : Option UInt8 :=
  looseByte (str.charAt (2 * number)) (str.charAt (2 * number + 1))

/-- Sixteen pairs, of which the last need not be a number: its byte is then
what the buffer held. -/
structure IsLooseIdentifier (stack : Block) (str : Text) (block : Block) : Prop where
  length : 32 ≤ str.length
  numbers : ∀ number < 15, (looseByteAt str number).isSome
  bytes : ∀ index : Fin 16, block index = (looseByteAt str index.val).getD (stack index)

def NameReading.loose (stack : Block) : NameReading where
  stamp := IsLooseTimeStamp
  identifier := IsLooseIdentifier stack

/-! ## Regular names -/

/-- A name with nothing in it that only the loose reading takes. -/
structure IsRegular (str : Text) : Prop where
  digits : ∀ index < 16, (Text.decimalValue (str.charAt index)).isSome
  month : Text.numberAt Text.decimalValue 10 str 4 2 ≠ some 0
  day : Text.numberAt Text.decimalValue 10 str 6 2 ≠ some 0
  identifier : ∀ index < 32, (Text.hexValue (Text.charAt (str.drop 17) index)).isSome

/-! ## Time stamps -/

namespace Text

variable {str : Text} {start number : Nat}

/-- Two digits fit the `u8` they are stored in. -/
theorem eq_ofInt_distanceAt_two_iff (field : UInt8)
    (read : numberAt decimalValue 10 str start 2 = some number) :
    field = UInt8.ofInt (str.distanceAt start 2) ↔ number = field.toNat := by
  rcases distanceAt_of_numberAt read with ⟨distance, bound⟩
  have fits : number < 2 ^ 8 := by omega
  have narrowed : ((number : Int) % 2 ^ 8).toNat = number := by omega
  rw [distance, UInt8.ofInt, narrowed, ← UInt8.toNat_inj, UInt8.toNat_ofNat_of_lt' fits]
  exact eq_comm

/-- Four digits fit the `u16` they are stored in. -/
theorem eq_ofInt_distanceAt_four_iff (field : UInt16)
    (read : numberAt decimalValue 10 str start 4 = some number) :
    field = UInt16.ofInt (str.distanceAt start 4) ↔ number = field.toNat := by
  rcases distanceAt_of_numberAt read with ⟨distance, bound⟩
  have fits : number < 2 ^ 16 := by omega
  have narrowed : ((number : Int) % 2 ^ 16).toNat = number := by omega
  rw [distance, UInt16.ofInt, narrowed, ← UInt16.toNat_inj, UInt16.toNat_ofNat_of_lt' fits]
  exact eq_comm

end Text

theorem IsTimeStamp.loose {str : Text} {dateTime : AlbumDateTime}
    (exact : IsTimeStamp str dateTime) : IsLooseTimeStamp str dateTime where
  year := (Text.eq_ofInt_distanceAt_four_iff _ exact.year).mpr rfl
  month := (Text.eq_ofInt_distanceAt_two_iff _ exact.month).mpr rfl
  day := (Text.eq_ofInt_distanceAt_two_iff _ exact.day).mpr rfl
  hour := (Text.eq_ofInt_distanceAt_two_iff _ exact.hour).mpr rfl
  minute := (Text.eq_ofInt_distanceAt_two_iff _ exact.minute).mpr rfl
  second := (Text.eq_ofInt_distanceAt_two_iff _ exact.second).mpr rfl
  sequence := (Text.eq_ofInt_distanceAt_two_iff _ exact.sequence).mpr rfl
  yearRange := (Text.distanceAt_of_numberAt exact.year).2
  monthRange := exact.monthRange.2
  dayRange := exact.dayRange.2
  hourRange := exact.hourRange
  minuteRange := exact.minuteRange
  secondRange := exact.secondRange
  sequenceRange := (Text.distanceAt_of_numberAt exact.sequence).2

/-- The fields of a regular name are numbers. -/
theorem IsRegular.exists_numberAt {str : Text} (regular : IsRegular str) {start width : Nat}
    (inside : start + width ≤ 16) :
    ∃ number, Text.numberAt Text.decimalValue 10 str start width = some number :=
  Text.exists_numberAt fun index before => regular.digits (start + index) (by omega)

theorem IsRegular.isTimeStamp {str : Text} (regular : IsRegular str) {dateTime : AlbumDateTime}
    (loose : IsLooseTimeStamp str dateTime) : IsTimeStamp str dateTime := by
  have field : ∀ {start : Nat} {value : UInt8}, start + 2 ≤ 16 →
      value = UInt8.ofInt (str.distanceAt start 2) →
      Text.numberAt Text.decimalValue 10 str start 2 = some value.toNat := by
    intro start value inside stored
    rcases regular.exists_numberAt inside with ⟨number, read⟩
    rw [read, (Text.eq_ofInt_distanceAt_two_iff value read).mp stored]
  have month := field (by decide) loose.month
  have day := field (by decide) loose.day
  have monthPositive : dateTime.month.toNat ≠ 0 := fun zero => regular.month (zero ▸ month)
  have dayPositive : dateTime.day.toNat ≠ 0 := fun zero => regular.day (zero ▸ day)
  have yearDigits : ∃ year, Text.numberAt Text.decimalValue 10 str 0 4 = some year :=
    regular.exists_numberAt (by decide)
  rcases yearDigits with ⟨year, readYear⟩
  have yearStored := (Text.eq_ofInt_distanceAt_four_iff dateTime.year readYear).mp loose.year
  exact {
    year := yearStored ▸ readYear
    month := month
    day := day
    hour := field (by decide) loose.hour
    minute := field (by decide) loose.minute
    second := field (by decide) loose.second
    sequence := field (by decide) loose.sequence
    monthRange := ⟨Nat.pos_of_ne_zero monthPositive, loose.monthRange⟩
    dayRange := ⟨Nat.pos_of_ne_zero dayPositive, loose.dayRange⟩
    hourRange := loose.hourRange
    minuteRange := loose.minuteRange
    secondRange := loose.secondRange }

/-- `DateTimeFromString` takes the loose time stamps. -/
theorem dateTimeFromString_eq_ok_iff {str : Text} {dateTime : AlbumDateTime} :
    dateTimeFromString str = .ok dateTime ↔ IsLooseTimeStamp str dateTime := by
  have pair : ∀ start, fieldAt str start = UInt8.ofInt (str.distanceAt start 2) := by
    intro start
    simp only [fieldAt, digitAt, Text.distanceAt, Nat.add_zero]
    congr 1
    omega
  have four : UInt16.ofInt (digitAt str 3 + digitAt str 2 * 10 + digitAt str 1 * 100 +
      digitAt str 0 * 1000) = UInt16.ofInt (str.distanceAt 0 4) := by
    simp only [digitAt, Text.distanceAt, Nat.zero_add]
    congr 1
    omega
  simp only [dateTimeFromString, pair, four, rUnless_error_eq_ok_iff, Except.ok.injEq,
    UInt8.lt_iff_toNat_lt, UInt16.lt_iff_toNat_lt]
  constructor
  · rintro ⟨year, month, day, hour, minute, second, sequence, rfl⟩
    have monthRange : (UInt8.ofInt (str.distanceAt 4 2)).toNat ≤ 12 := by omega
    have dayRange : (UInt8.ofInt (str.distanceAt 6 2)).toNat ≤ 31 := by omega
    exact ⟨rfl, rfl, rfl, rfl, rfl, rfl, rfl, year, monthRange, dayRange, hour, minute, second,
      sequence⟩
  · intro loose
    rw [← loose.year, ← loose.month, ← loose.day, ← loose.hour, ← loose.minute, ← loose.second,
      ← loose.sequence]
    have monthRange := loose.monthRange
    have dayRange := loose.dayRange
    exact ⟨loose.yearRange, by omega, by omega, loose.hourRange, loose.minuteRange,
      loose.secondRange, loose.sequenceRange, rfl⟩

/-! ## Pairs -/

namespace Text

theorem not_isSpace_of_hexValue {character : UInt8} (digit : (hexValue character).isSome) :
    isSpace character = false ∧ character ≠ 0x2d ∧ character ≠ 0x2b := by
  have every : ∀ value < 256, (hexValue (UInt8.ofNat value)).isSome →
      isSpace (UInt8.ofNat value) = false ∧ UInt8.ofNat value ≠ 0x2d ∧
        UInt8.ofNat value ≠ 0x2b := by decide +kernel
  simpa using every character.toNat character.toNat_lt (by simpa using digit)

theorem not_sign_of_isSpace {character : UInt8} (blank : isSpace character = true) :
    character ≠ 0x2d ∧ character ≠ 0x2b := by
  have every : ∀ value < 256, isSpace (UInt8.ofNat value) = true →
      UInt8.ofNat value ≠ 0x2d ∧ UInt8.ofNat value ≠ 0x2b := by decide +kernel
  simpa using every character.toNat character.toNat_lt (by simpa using blank)

theorem hexValue_lt {character : UInt8} {digit : Nat} (value : hexValue character = some digit) :
    digit < 16 := by
  have every : ∀ value < 256, ∀ digit ∈ hexValue (UInt8.ofNat value), digit < 16 := by
    decide +kernel
  exact every character.toNat character.toNat_lt digit (by simpa using value)

theorem sign_cons (character : UInt8) (rest : Text) :
    sign (character :: rest) =
      if character = 0x2d then (true, 1) else if character = 0x2b then (false, 1)
      else (false, 0) := by
  unfold sign
  split <;> simp_all

theorem hexPrefix_short {text : Text} (short : text.length ≤ 2) : hexPrefix text = 0 := by
  unfold hexPrefix
  split
  · simp at short
  · rfl

theorem digitRun_eq_nil {value : UInt8 → Option Nat} {text : Text}
    (noDigit : ∀ character ∈ text, value character = none) : digitRun value text = [] := by
  cases text with
  | nil => rfl
  | cons character rest => rw [digitRun, noDigit character List.mem_cons_self]

theorem strtoul16_of_no_digit {text : Text}
    (noDigit : ∀ character ∈ text, hexValue character = none) : strtoul16 text = (0, 0) := by
  have empty : ∀ start, digitRun hexValue (text.drop start) = [] := fun start =>
    digitRun_eq_nil fun character member => noDigit character (List.mem_of_mem_drop member)
  simp only [strtoul16, empty, List.isEmpty_nil, if_true]

/-- A pair that starts with a digit. -/
theorem strtoul16_digit_cons {first second : UInt8} {high : Nat}
    (value : hexValue first = some high) :
    strtoul16 [first, second] =
      match hexValue second with
      | some low => (UInt64.ofNat (min (high * 16 + low) (2 ^ 64 - 1)), 2)
      | none => (UInt64.ofNat (min high (2 ^ 64 - 1)), 1) := by
  have digit := not_isSpace_of_hexValue (Option.isSome_of_eq_some value)
  have blanks : [first, second].takeWhile isSpace = [] := by simp [digit.1]
  have signed : sign [first, second] = (false, 0) := by
    rw [sign_cons, if_neg digit.2.1, if_neg digit.2.2]
  have start : hexPrefix [first, second] = 0 := hexPrefix_short (by simp)
  cases last : hexValue second with
  | none => simp [strtoul16, blanks, signed, start, digitRun, value, last, ofDigits]
  | some low => simp [strtoul16, blanks, signed, start, digitRun, value, last, ofDigits]

/-- A digit that does not come first. -/
theorem strtoul16_cons_digit {first second : UInt8} {low : Nat}
    (noDigit : hexValue first = none) (value : hexValue second = some low) :
    strtoul16 [first, second] =
      if first = 0x2d then (0 - UInt64.ofNat (min low (2 ^ 64 - 1)), 2)
      else if isSpace first = true ∨ first = 0x2b then (UInt64.ofNat (min low (2 ^ 64 - 1)), 2)
      else (0, 0) := by
  have digit := not_isSpace_of_hexValue (Option.isSome_of_eq_some value)
  have unsigned : sign [second] = (false, 0) := by
    rw [sign_cons, if_neg digit.2.1, if_neg digit.2.2]
  have start : ∀ text : Text, text.length ≤ 2 → hexPrefix text = 0 := fun _ => hexPrefix_short
  by_cases blank : isSpace first = true
  · have unlike := not_sign_of_isSpace blank
    simp [strtoul16, blank, digit, unsigned, unlike, start, digitRun, value, ofDigits]
  · have blanks : [first, second].takeWhile isSpace = [] := by simp [blank]
    by_cases minus : first = 0x2d
    · have signed : sign [first, second] = (true, 1) := by rw [sign_cons, if_pos minus]
      rw [if_pos minus]
      simp [strtoul16, blanks, signed, start, digitRun, value, ofDigits]
    · rw [if_neg minus]
      by_cases plus : first = 0x2b
      · have signed : sign [first, second] = (false, 1) := by
          rw [sign_cons, if_neg minus, if_pos plus]
        rw [if_pos (Or.inr plus)]
        simp [strtoul16, blanks, signed, start, digitRun, value, ofDigits]
      · simp [strtoul16, blanks, blank, sign_cons, minus, plus, start, digitRun, noDigit]

end Text

/-- The pairs that `strtoul` reads to their end. -/
theorem strtoul16_of_looseByte {first second byte : UInt8}
    (read : looseByte first second = some byte) :
    ∃ value, Text.strtoul16 [first, second] = (value, 2) ∧ value.toUInt8 = byte := by
  have narrowed : ∀ number < 256,
      (UInt64.ofNat (min number (2 ^ 64 - 1))).toUInt8 = UInt8.ofNat number := by
    intro number small
    rw [Nat.min_eq_left (by omega), UInt64.toUInt8_ofNat']
  unfold looseByte at read
  split at read
  case h_1 high low firstValue secondValue =>
    have highBound := Text.hexValue_lt firstValue
    have lowBound := Text.hexValue_lt secondValue
    cases read
    rw [Text.strtoul16_digit_cons firstValue, secondValue]
    exact ⟨_, rfl, narrowed (high * 16 + low) (by omega)⟩
  case h_2 low firstValue secondValue =>
    have lowBound := Text.hexValue_lt secondValue
    rw [Text.strtoul16_cons_digit firstValue secondValue]
    split at read
    case isTrue minus =>
      cases read
      rw [if_pos minus]
      exact ⟨_, rfl, by rw [UInt64.toUInt8_sub, narrowed low (by omega)]; rfl⟩
    case isFalse minus =>
      rw [if_neg minus]
      split at read
      case isTrue blank =>
        cases read
        rw [if_pos blank]
        exact ⟨_, rfl, narrowed low (by omega)⟩
      case isFalse => cases read
  case h_3 => cases read

theorem strtoul16_of_looseByte_none {first second : UInt8}
    (read : looseByte first second = none) : (Text.strtoul16 [first, second]).2 ≠ 2 := by
  unfold looseByte at read
  split at read
  case h_1 => cases read
  case h_2 low firstValue secondValue =>
    rw [Text.strtoul16_cons_digit firstValue secondValue]
    split at read
    case isTrue => cases read
    case isFalse minus =>
      rw [if_neg minus]
      split at read
      case isTrue => cases read
      case isFalse blank =>
        rw [if_neg blank]
        decide
  case h_3 secondValue =>
    cases firstValue : Text.hexValue first with
    | none =>
        rw [Text.strtoul16_of_no_digit (by simp [firstValue, secondValue])]
        decide
    | some high =>
        rw [Text.strtoul16_digit_cons firstValue, secondValue]
        exact (by decide : (1 : Nat) ≠ 2)

theorem looseByteAt_cons (first second : UInt8) (rest : Text) (number : Nat) :
    looseByteAt (first :: second :: rest) (number + 1) = looseByteAt rest number := by
  have position : 2 * (number + 1) = 2 * number + 1 + 1 := by omega
  simp only [looseByteAt, position, Text.charAt, List.getD_cons_succ]

/-- The loop has consumed pairs up to the first that is no number. Where it has
come to its end, only the last pair can be none, and leaves its byte as it was. -/
structure PairsConsumed (remaining index : Nat) (block : Block) (str : Text)
    (result : Block × Text) (consumed : Nat) : Prop where
  bound : consumed ≤ remaining
  rest : result.2 = str.drop (2 * consumed)
  complete : consumed = remaining ↔
    ∀ number, number + 1 < remaining → (looseByteAt str number).isSome
  filled : consumed = remaining → ∀ position : Fin 16,
    result.1 position =
      if index ≤ position.val ∧ position.val < index + remaining then
        (looseByteAt str (position.val - index)).getD (block position)
      else block position

namespace PairsConsumed

variable {remaining index consumed : Nat} {block : Block} {first second : UInt8} {str : Text}
  {result : Block × Text}

theorem looseByteAt_zero (first second : UInt8) (str : Text) :
    looseByteAt (first :: second :: str) 0 = looseByte first second := rfl

/-- A pair that is no number is the last one. -/
theorem stop (unread : looseByte first second = none) :
    PairsConsumed (remaining + 1) index block (first :: second :: str) (block, str) 1 := by
  refine ⟨by omega, rfl, ⟨fun last number before => by omega, fun numbers => ?_⟩,
    fun last position => ?_⟩
  · by_contra more
    have number := numbers 0 (by omega)
    rw [looseByteAt_zero, unread] at number
    cases number
  · split
    case isTrue inside =>
      have here : position.val - index = 0 := by omega
      rw [here, looseByteAt_zero, unread]
      rfl
    case isFalse => rfl

/-- Behind a pair that is a number the loop goes on. -/
theorem next {byte : UInt8} (read : looseByte first second = some byte)
    (later : PairsConsumed remaining (index + 1) (block.set index byte) str result consumed) :
    PairsConsumed (remaining + 1) index block (first :: second :: str) result
      (consumed + 1) := by
  have bound := later.bound
  refine ⟨by omega, later.rest, ?_, fun last position => ?_⟩
  · rw [Nat.add_right_cancel_iff, later.complete]
    constructor
    · intro numbers number before
      cases number with
      | zero =>
          rw [looseByteAt_zero, read]
          rfl
      | succ number =>
          rw [looseByteAt_cons]
          exact numbers number (by omega)
    · intro numbers number before
      rw [← looseByteAt_cons first second]
      exact numbers (number + 1) (by omega)
  · rw [later.filled (by omega)]
    by_cases here : position.val = index
    · have set : block.set index byte position = byte := if_pos here
      rw [if_neg (by omega), if_pos (by omega), set, here, Nat.sub_self, looseByteAt_zero, read]
      rfl
    · have set : block.set index byte position = block position := if_neg here
      rw [set]
      by_cases inside : index ≤ position.val ∧ position.val < index + (remaining + 1)
      · have next : position.val - index = position.val - (index + 1) + 1 := by omega
        rw [if_pos (by omega), if_pos inside, next, looseByteAt_cons]
      · rw [if_neg (by omega), if_neg inside]

end PairsConsumed

theorem readPairs_consumed (remaining index : Nat) (block : Block) (str : Text)
    (long : 2 * remaining ≤ str.length) :
    ∃ consumed, PairsConsumed remaining index block str (readPairs remaining index block str)
      consumed := by
  induction remaining generalizing index block str with
  | zero =>
      refine ⟨0, le_rfl, rfl, by simp, fun _ position => ?_⟩
      rw [readPairs, if_neg (by omega)]
  | succ remaining induction =>
      rcases str with - | ⟨first, - | ⟨second, rest⟩⟩
      · simp at long
      · simp at long
        omega
      · have shorter : 2 * remaining ≤ rest.length := by
          simp only [List.length_cons] at long
          omega
        have pair : List.take 2 (first :: second :: rest) = [first, second] := rfl
        have tail : List.drop 2 (first :: second :: rest) = rest := rfl
        rw [readPairs, pair, tail]
        cases read : looseByte first second with
        | none =>
            rw [if_pos (strtoul16_of_looseByte_none read)]
            exact ⟨1, .stop read⟩
        | some byte =>
            rcases strtoul16_of_looseByte read with ⟨value, parsed, narrowed⟩
            rw [parsed, if_neg (fun different => different rfl), narrowed]
            rcases induction (index + 1) (block.set index byte) rest shorter with
              ⟨consumed, later⟩
            exact ⟨consumed + 1, later.next read⟩

/-- The loop of `DecryptFileIdentifier` takes the loose identifiers. -/
theorem isLooseIdentifier_iff {stack : Block} {str : Text} {block : Block}
    (long : 32 ≤ str.length) :
    IsLooseIdentifier stack str block ↔
      readPairs 0x10 0 stack str = (block, str.drop 32) := by
  rcases readPairs_consumed 0x10 0 stack str long with
    ⟨consumed, bound, stopped, complete, filled⟩
  simp only [Nat.zero_le, true_and, Nat.zero_add, Nat.sub_zero] at filled
  constructor
  · intro loose
    have whole := complete.mpr fun number before => loose.numbers number (by omega)
    refine Prod.ext (funext fun position => ?_) (by rw [stopped, whole])
    rw [filled whole position, if_pos position.isLt]
    exact (loose.bytes position).symm
  · intro read
    have rest := congrArg (fun read => read.2.length) read
    simp only [stopped, List.length_drop] at rest
    have whole : consumed = 0x10 := by omega
    refine ⟨long, fun number before => complete.mp whole number (by omega), fun position => ?_⟩
    have bytes := filled whole position
    rwa [if_pos position.isLt, read] at bytes

/-- A loop that leaves too little for another pair has come to its end. -/
theorem isLooseIdentifier_of_short_rest {stack block : Block} {str rest : Text}
    (long : 32 ≤ str.length) (read : readPairs 0x10 0 stack str = (block, rest))
    (short : rest.length + 30 < str.length) :
    IsLooseIdentifier stack str block ∧ rest = str.drop 32 := by
  rcases readPairs_consumed 0x10 0 stack str long with ⟨consumed, bound, stopped, -, -⟩
  rw [read] at stopped
  have lengths := congrArg List.length stopped
  rw [List.length_drop] at lengths
  have whole : consumed = 0x10 := by
    dsimp only at lengths
    omega
  subst whole
  exact ⟨(isLooseIdentifier_iff long).mpr (read.trans (Prod.ext rfl stopped)), stopped⟩

/-! ## The reader -/

theorem getFileType_eq_ok_iff {extra : Bool} {str : Text} {type : ContentType} :
    getFileType extra str = .ok type ↔
      getFileExtension type = some str ∧ isExtra type = extra := by
  unfold getFileType
  constructor
  · intro found
    split at found
    case isTrue screenshot =>
      cases found
      cases extra
      · exact ⟨screenshot, rfl⟩
      · exact ⟨screenshot, rfl⟩
    case isFalse =>
      split at found
      case isTrue movie =>
        cases found
        cases extra
        · exact ⟨movie, rfl⟩
        · exact ⟨movie, rfl⟩
      case isFalse => cases found
  · rintro ⟨extension, rfl⟩
    rw [← extension]
    unfold getFileExtension at extension
    split at extension
    case isTrue screenshot =>
      rcases screenshot with rfl | rfl
      · rfl
      · rfl
    case isFalse =>
      split at extension
      case isTrue movie =>
        rcases movie with rfl | rfl
        · rfl
        · rfl
      case isFalse => cases extension

theorem decryptFileIdentifier_eq_ok_iff {cipher : PathCipher} {stack : Block} {str rest : Text}
    {applicationId : UInt64} {extra : Bool} :
    decryptFileIdentifier cipher stack str = .ok ⟨applicationId, extra, rest⟩ ↔
      ∃ block, readPairs 0x10 0 stack str = (block, rest) ∧
        cipher.decrypt block = (applicationId, if extra then 1 else 0) := by
  have flag : ∀ out : UInt64 × UInt64, (out.2 ≤ 1 ∧ out.1 = applicationId ∧ (out.2 == 1) = extra) ↔
      out = (applicationId, if extra then 1 else 0) := by
    rintro ⟨first, second⟩
    cases extra <;> simp [UInt64.le_iff_toNat_le, ← UInt64.toNat_inj] <;> omega
  rw [decryptFileIdentifier, rUnless_error_eq_ok_iff]
  rcases readPairs 0x10 0 stack str with ⟨block, tail⟩
  simp only [Except.ok.injEq, FileIdentifier.mk.injEq, Prod.mk.injEq]
  constructor
  · rintro ⟨small, application, equal, rfl⟩
    exact ⟨block, ⟨rfl, rfl⟩, (flag _).mp ⟨small, application, equal⟩⟩
  · rintro ⟨block, ⟨rfl, rfl⟩, decrypted⟩
    rcases (flag _).mpr decrypted with ⟨small, application, equal⟩
    exact ⟨small, application, equal, rfl⟩

/-- What `FromString` wants behind the identifier. -/
theorem ending_iff {extra : Bool} {rest : Text} {type : ContentType} :
    ((extra = true → Text.charAt rest 0 = 0x58) ∧
        getFileType extra (if extra then rest.drop 1 else rest) = .ok type) ↔
      isExtra type = extra ∧ ∃ extension, getFileExtension type = some extension ∧
        rest = (if extra then ascii "X" else []) ++ extension := by
  rw [getFileType_eq_ok_iff]
  cases extra with
  | false => simp [and_comm]
  | true =>
      have marker : ascii "X" = [0x58] := by decide
      cases rest with
      | nil => simp [Text.charAt, marker]
      | cons first tail =>
          simp only [Text.charAt, List.getD_cons_zero, forall_const, if_true, List.drop_one,
            List.tail_cons, marker, List.singleton_append, List.cons.injEq]
          constructor
          · rintro ⟨rfl, extension, extra⟩
            exact ⟨extra, tail, extension, rfl, rfl⟩
          · rintro ⟨extra, extension, found, rfl, rfl⟩
            exact ⟨rfl, found, extra⟩

/-- An extension is a dot with three letters. -/
theorem getFileExtension_form {type : ContentType} {extension : Text}
    (found : getFileExtension type = some extension) :
    extension.length = 4 ∧ extension.charAt 0 = 0x2e := by
  unfold getFileExtension at found
  split at found
  · cases found
    decide
  · split at found
    · cases found
      decide
    · cases found

theorem NameParts.reads {cipher : PathCipher} {stack : Block} {str rest : Text}
    {dateTime : AlbumDateTime} {applicationId : UInt64} {extra : Bool} {type : ContentType}
    (parts : NameParts cipher stack str dateTime applicationId extra rest type) :
    (NameReading.loose stack).Reads cipher str dateTime applicationId type := by
  have length := parts.length
  have dash := parts.dash
  rcases ending_iff.mp ⟨parts.marked, parts.type⟩ with ⟨rfl, extension, isExtension, rfl⟩
  rcases decryptFileIdentifier_eq_ok_iff.mp parts.identifier with ⟨block, read, decrypted⟩
  have four := (getFileExtension_form isExtension).1
  have short : ((if isExtra type = true then ascii "X" else []) ++ extension).length ≤ 5 := by
    have marker : (ascii "X").length = 1 := by decide
    split
    · rw [List.length_append, marker, four]
    · rw [List.nil_append, four]
      omega
  have long : 36 ≤ (str.drop 0x11).length := by
    rw [List.length_drop]
    omega
  rcases isLooseIdentifier_of_short_rest (by omega) read (by omega) with ⟨loose, ending⟩
  rw [List.drop_drop] at ending
  rw [Text.charAt_drop] at dash
  exact ⟨dateTimeFromString_eq_ok_iff.mp parts.stamp, dash, ⟨block, loose, decrypted⟩,
    ⟨extension, isExtension, ending.symm⟩⟩

theorem NameReading.Reads.parts {cipher : PathCipher} {stack : Block} {str : Text}
    {dateTime : AlbumDateTime} {applicationId : UInt64} {type : ContentType}
    (reads : (NameReading.loose stack).Reads cipher str dateTime applicationId type) :
    NameParts cipher stack str dateTime applicationId (isExtra type) (str.drop 49) type := by
  rcases reads.identifier with ⟨block, loose, decrypted⟩
  rcases reads.ending with ⟨extension, isExtension, ending⟩
  rcases getFileExtension_form isExtension with ⟨four, dot⟩
  have length : str.length = 0x35 ∨ str.length = 0x36 := by
    have marker : (ascii "X").length = 1 := by decide
    have lengths := congrArg List.length ending
    rw [List.length_drop, List.length_append, four] at lengths
    split at lengths
    · omega
    · simp only [List.length_nil] at lengths
      omega
  have long : 32 ≤ (str.drop 17).length := by
    rw [List.length_drop]
    omega
  have read := (isLooseIdentifier_iff long).mp loose
  rw [List.drop_drop] at read
  have dash : Text.charAt (str.drop 0x10) 0 = 0x2d := by
    rw [Text.charAt_drop]
    exact reads.dash
  rcases ending_iff.mpr ⟨rfl, extension, isExtension, ending⟩ with ⟨marked, found⟩
  have tail : (if isExtra type = true then (str.drop 49).drop 1 else str.drop 49) = extension := by
    rw [ending]
    cases isExtra type
    · rfl
    · rfl
  exact ⟨length, dateTimeFromString_eq_ok_iff.mpr reads.stamp, dash,
    decryptFileIdentifier_eq_ok_iff.mpr ⟨block, read, decrypted⟩, marked, tail ▸ dot, found⟩

/-- `FromString` takes the loose names, and leaves what they say in the id. -/
theorem AlbumFileId.fromString_eq_success_iff {cipher : PathCipher} {storage : StorageId}
    {stack : Block} {initial fileId : AlbumFileId} {str : Text} :
    fromString cipher storage stack initial str = (.success, fileId) ↔
      ∃ dateTime applicationId type,
        (NameReading.loose stack).Reads cipher str dateTime applicationId type ∧
        fileId = { initial with dateTime, applicationId, type, storageId := storage } := by
  rw [fromString_success_iff]
  constructor
  · rintro ⟨dateTime, applicationId, extra, rest, type, parts, equal⟩
    exact ⟨dateTime, applicationId, type, parts.reads, equal⟩
  · rintro ⟨dateTime, applicationId, type, reads, equal⟩
    exact ⟨dateTime, applicationId, isExtra type, str.drop 49, type, reads.parts, equal⟩

/-! ## The two readings -/

theorem looseByteAt_of_numberAt {str : Text} {number value : Nat}
    (read : Text.numberAt Text.hexValue 16 str (2 * number) 2 = some value) :
    looseByteAt str number = some (UInt8.ofNat value) ∧ value < 256 := by
  rcases Text.numberAt_succ_eq_some.mp read with ⟨front, low, earlier, last, rfl⟩
  rcases Text.numberAt_succ_eq_some.mp earlier with ⟨nothing, high, zero, first, rfl⟩
  cases zero
  rw [Nat.add_zero] at first
  have highBound := Text.hexValue_lt first
  have lowBound := Text.hexValue_lt last
  rw [Nat.zero_mul, Nat.zero_add]
  exact ⟨by rw [looseByteAt, looseByte, first, last], by omega⟩

theorem IsIdentifier.loose {stack block : Block} {str : Text} (exact : IsIdentifier str block)
    (long : 32 ≤ str.length) : IsLooseIdentifier stack str block where
  length := long
  numbers number before := by
    rw [(looseByteAt_of_numberAt (exact ⟨number, by omega⟩)).1]
    rfl
  bytes index := by
    rw [(looseByteAt_of_numberAt (exact index)).1, UInt8.ofNat_toNat]
    rfl

theorem IsRegular.isIdentifier {str : Text} (regular : IsRegular str) {stack block : Block}
    (loose : IsLooseIdentifier stack (str.drop 17) block) : IsIdentifier (str.drop 17) block := by
  intro index
  have digits : ∃ value, Text.numberAt Text.hexValue 16 (str.drop 17) (2 * index.val) 2 =
      some value :=
    Text.exists_numberAt fun offset before => regular.identifier _ (by omega)
  rcases digits with ⟨value, read⟩
  rcases looseByteAt_of_numberAt read with ⟨byte, small⟩
  rw [read, loose.bytes, byte, Option.getD_some, UInt8.toNat_ofNat_of_lt' small]

theorem NameReading.Reads.loose {cipher : PathCipher} {stack : Block} {str : Text}
    {dateTime : AlbumDateTime} {applicationId : UInt64} {type : ContentType}
    (reads : NameReading.exact.Reads cipher str dateTime applicationId type) :
    (NameReading.loose stack).Reads cipher str dateTime applicationId type where
  stamp := reads.stamp.loose
  dash := reads.dash
  identifier := by
    rcases reads.identifier with ⟨block, exact, decrypted⟩
    rcases reads.ending with ⟨extension, isExtension, ending⟩
    have lengths := congrArg List.length ending
    rw [List.length_drop, List.length_append, (getFileExtension_form isExtension).1] at lengths
    refine ⟨block, IsIdentifier.loose exact ?_, decrypted⟩
    rw [List.length_drop]
    omega
  ending := reads.ending

theorem NameReading.Reads.exact {cipher : PathCipher} {stack : Block} {str : Text}
    {dateTime : AlbumDateTime} {applicationId : UInt64} {type : ContentType}
    (reads : (NameReading.loose stack).Reads cipher str dateTime applicationId type)
    (regular : IsRegular str) :
    NameReading.exact.Reads cipher str dateTime applicationId type where
  stamp := regular.isTimeStamp reads.stamp
  dash := reads.dash
  identifier := by
    rcases reads.identifier with ⟨block, loose, decrypted⟩
    exact ⟨block, regular.isIdentifier loose, decrypted⟩
  ending := reads.ending

theorem IsTimeStamp.digits {str : Text} {dateTime : AlbumDateTime}
    (stamp : IsTimeStamp str dateTime) :
    ∀ index < 16, (Text.decimalValue (str.charAt index)).isSome := by
  intro index before
  have field : ∀ {start width number : Nat},
      Text.numberAt Text.decimalValue 10 str start width = some number →
      start ≤ index → index < start + width → (Text.decimalValue (str.charAt index)).isSome := by
    intro start width number read behind inside
    have digit := Text.isSome_of_numberAt read (index - start) (by omega)
    rwa [Nat.add_sub_cancel' behind] at digit
  have place : index < 4 ∨ (4 ≤ index ∧ index < 6) ∨ (6 ≤ index ∧ index < 8) ∨
      (8 ≤ index ∧ index < 10) ∨ (10 ≤ index ∧ index < 12) ∨ (12 ≤ index ∧ index < 14) ∨
      14 ≤ index := by omega
  rcases place with year | month | day | hour | minute | second | sequence
  · exact field stamp.year (Nat.zero_le index) (by omega)
  · exact field stamp.month month.1 month.2
  · exact field stamp.day day.1 day.2
  · exact field stamp.hour hour.1 hour.2
  · exact field stamp.minute minute.1 minute.2
  · exact field stamp.second second.1 second.2
  · exact field stamp.sequence sequence (by omega)

theorem NameReading.Reads.isRegular {cipher : PathCipher} {str : Text}
    {dateTime : AlbumDateTime} {applicationId : UInt64} {type : ContentType}
    (reads : NameReading.exact.Reads cipher str dateTime applicationId type) :
    IsRegular str where
  digits := IsTimeStamp.digits reads.stamp
  month zero := by
    have stamp : IsTimeStamp str dateTime := reads.stamp
    have positive := stamp.monthRange.1
    rw [stamp.month] at zero
    cases Option.some.inj zero ▸ positive
  day zero := by
    have stamp : IsTimeStamp str dateTime := reads.stamp
    have positive := stamp.dayRange.1
    rw [stamp.day] at zero
    cases Option.some.inj zero ▸ positive
  identifier index before := by
    rcases reads.identifier with ⟨block, exact, -⟩
    have identifier : IsIdentifier (str.drop 17) block := exact
    have digit := Text.isSome_of_numberAt (identifier ⟨index / 2, by omega⟩) (index % 2)
      (by omega)
    rwa [Nat.div_add_mod] at digit

/-- What a regular name says does not depend on the buffer. -/
theorem IsRegular.fromString_eq {cipher : PathCipher} {storage : StorageId} {stack : Block}
    {initial fileId : AlbumFileId} {str : Text} (regular : IsRegular str)
    (read : AlbumFileId.fromString cipher storage stack initial str = (.success, fileId))
    (other : Block) :
    AlbumFileId.fromString cipher storage other initial str = (.success, fileId) := by
  rcases AlbumFileId.fromString_eq_success_iff.mp read with
    ⟨dateTime, applicationId, type, reads, equal⟩
  exact AlbumFileId.fromString_eq_success_iff.mpr
    ⟨dateTime, applicationId, type, (reads.exact regular).loose, equal⟩

/-! ## What is accepted -/

/-- `FromString` takes a name exactly when it follows the grammar, and leaves in
the id exactly what it says. -/
def ReadsExactly (cipher : PathCipher) (storage : StorageId) (stack : Block)
    (initial : AlbumFileId) (str : Text) : Prop :=
  ∀ fileId, AlbumFileId.fromString cipher storage stack initial str = (.success, fileId) ↔
    ∃ dateTime applicationId type,
      NameReading.exact.Reads cipher str dateTime applicationId type ∧
      fileId = { initial with dateTime, applicationId, type, storageId := storage }

/-- Irregular names are where the reader goes wrong, as far as it takes them. -/
theorem readsExactly_iff (cipher : PathCipher) (storage : StorageId) (stack : Block)
    (initial : AlbumFileId) (str : Text) :
    ReadsExactly cipher storage stack initial str ↔
      (IsRegular str ∨ ¬ ∃ dateTime applicationId type,
        (NameReading.loose stack).Reads cipher str dateTime applicationId type) := by
  constructor
  · intro exactly
    by_cases accepted : ∃ dateTime applicationId type,
        (NameReading.loose stack).Reads cipher str dateTime applicationId type
    · rcases accepted with ⟨dateTime, applicationId, type, reads⟩
      have exact := (exactly _).mp (AlbumFileId.fromString_eq_success_iff.mpr
        ⟨dateTime, applicationId, type, reads, rfl⟩)
      rcases exact with ⟨_, _, _, exact, -⟩
      exact .inl exact.isRegular
    · exact .inr accepted
  · intro condition fileId
    rw [AlbumFileId.fromString_eq_success_iff]
    constructor
    · rintro ⟨dateTime, applicationId, type, reads, equal⟩
      rcases condition with regular | rejected
      · exact ⟨dateTime, applicationId, type, reads.exact regular, equal⟩
      · exact absurd ⟨dateTime, applicationId, type, reads⟩ rejected
    · rintro ⟨dateTime, applicationId, type, reads, equal⟩
      exact ⟨dateTime, applicationId, type, reads.loose, equal⟩

/-- A month `00`, and a pair `zz` over a buffer of zeros. -/
theorem not_readsExactly_irregular :
    ¬ ReadsExactly (Equiv.refl Block) .sd (fun _ => 0) .zero
        (ascii "2021001720310400-00000000000000000000000000000000.jpg") ∧
      ¬ ReadsExactly (Equiv.refl Block) .sd (fun _ => 0) .zero
        (ascii "2021051720310400-000000000000000000000000000000zz.jpg") := by
  constructor
  · intro exactly
    have accepted : AlbumFileId.fromString (Equiv.refl Block) .sd (fun _ => 0) .zero
        (ascii "2021001720310400-00000000000000000000000000000000.jpg") =
        (.success, ⟨0, ⟨2021, 0, 17, 20, 31, 4, 0⟩, .sd, .screenshot, .replicate 6 0⟩) := by
      decide
    rcases (exactly _).mp accepted with ⟨_, _, _, reads, -⟩
    exact absurd reads.isRegular.month (by decide)
  · intro exactly
    have accepted : AlbumFileId.fromString (Equiv.refl Block) .sd (fun _ => 0) .zero
        (ascii "2021051720310400-000000000000000000000000000000zz.jpg") =
        (.success, ⟨0, ⟨2021, 5, 17, 20, 31, 4, 0⟩, .sd, .screenshot, .replicate 6 0⟩) := by
      decide
    rcases (exactly _).mp accepted with ⟨_, _, _, reads, -⟩
    exact absurd (reads.isRegular.identifier 31 (by decide)) (by decide)

end Capsrv
