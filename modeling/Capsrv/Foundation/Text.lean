import Mathlib.Algebra.Group.Nat.Defs
import Mathlib.Data.Nat.Log

/-! # C text

A C string is the list of its characters up to the terminator, and reading the
character after the last one yields the terminator itself. The functions here
are the formatting and scanning steps of the C library on such lists: the
conversions `%0wd`, `%02X` and `%s` of `snprintf`, and `strtoul` and `atoi`.
-/

namespace Capsrv

abbrev Text := List UInt8

/-- The characters of an ASCII literal. -/
def ascii (literal : String) : Text :=
  literal.toList.map fun character => character.toNat.toUInt8

namespace Text

/-- `text[index]` in C, the terminator included. -/
def charAt (text : Text) (index : Nat) : UInt8 :=
  text.getD index 0

/-! ## Formatting -/

/-- What `snprintf(buffer, size, "%s", text)` leaves in `buffer`. -/
def snprintf (size : Nat) (text : Text) : Text :=
  text.take (size - 1)

/-- The text left in a buffer that held `text` after
`snprintf(buffer + offset, size, "%s", piece)`. What is written beyond the old
terminator stays hidden behind it. -/
def snprintfAt (text : Text) (offset size : Nat) (piece : Text) : Text :=
  if size = 0 ∨ text.length < offset then text
  else text.take offset ++ snprintf size piece

def digit (value : Nat) : UInt8 :=
  (48 + value).toUInt8

def upperHexDigit (value : Nat) : UInt8 :=
  if value < 10 then (48 + value).toUInt8 else (55 + value).toUInt8

/-- The `width` low decimal digits of a number, most significant first. -/
def lowDigits : (width : Nat) → Nat → Text
  | 0, _ => []
  | width + 1, value => lowDigits width (value / 10) ++ [digit (value % 10)]

/-- The conversion `%0<width>d` of a non-negative number: at least `width`
digits, and as many as the number needs. -/
def decimal (width value : Nat) : Text :=
  lowDigits (max width (Nat.log 10 value + 1)) value

/-- The conversion `%0<width>X` of a number with at most `width` hexadecimal
digits. -/
def upperHex : (width : Nat) → Nat → Text
  | 0, _ => []
  | width + 1, value => upperHex width (value / 16) ++ [upperHexDigit (value % 16)]

/-- The conversion `%02X` of one byte. -/
def hexByte (byte : UInt8) : Text :=
  [upperHexDigit (byte.toNat / 16), upperHexDigit (byte.toNat % 16)]

@[simp] theorem length_hexByte (byte : UInt8) : (hexByte byte).length = 2 := rfl

@[simp] theorem length_upperHex (width value : Nat) : (upperHex width value).length = width := by
  induction width generalizing value with
  | zero => rfl
  | succ width induction => simp [upperHex, induction]

@[simp] theorem length_lowDigits (width value : Nat) :
    (lowDigits width value).length = width := by
  induction width generalizing value with
  | zero => rfl
  | succ width induction => simp [lowDigits, induction]

theorem decimal_eq_lowDigits {width value : Nat} (positive : 0 < width)
    (fits : value < 10 ^ width) : decimal width value = lowDigits width value := by
  have digits : Nat.log 10 value + 1 ≤ width := by
    by_cases zero : value = 0
    · subst zero
      simpa [Nat.lt_iff_add_one_le] using positive
    · exact Nat.log_lt_of_lt_pow zero fits
  rw [decimal, Nat.max_eq_left digits]

theorem length_decimal {width value : Nat} (positive : 0 < width)
    (fits : value < 10 ^ width) : (decimal width value).length = width := by
  rw [decimal_eq_lowDigits positive fits, length_lowDigits]

theorem length_decimal_two {value : Nat} (fits : value < 100) :
    (decimal 2 value).length = 2 :=
  length_decimal (by decide) fits

theorem exists_digit_of_mem_decimal {width value : Nat} {character : UInt8}
    (member : character ∈ decimal width value) : ∃ low < 10, character = digit low := by
  rw [decimal] at member
  generalize max width (Nat.log 10 value + 1) = digits at member
  induction digits generalizing value with
  | zero => cases member
  | succ digits induction =>
      rw [lowDigits, List.mem_append, List.mem_singleton] at member
      rcases member with earlier | rfl
      · exact induction earlier
      · exact ⟨value % 10, Nat.mod_lt _ (by decide), rfl⟩

theorem ne_zero_of_mem_decimal {width value : Nat} {character : UInt8}
    (member : character ∈ decimal width value) : character ≠ 0 := by
  rcases exists_digit_of_mem_decimal member with ⟨low, small, rfl⟩
  have every : ∀ low < 10, digit low ≠ 0 := by decide
  exact every low small

theorem exists_digit_of_mem_hexByte {byte character : UInt8} (member : character ∈ hexByte byte) :
    ∃ low < 16, character = upperHexDigit low := by
  have bound := byte.toNat_lt
  simp only [hexByte, List.mem_cons, List.not_mem_nil, or_false] at member
  rcases member with rfl | rfl
  · exact ⟨byte.toNat / 16, by omega, rfl⟩
  · exact ⟨byte.toNat % 16, by omega, rfl⟩

/-- A text that fits with its terminator is written completely. -/
theorem snprintf_eq_self {size : Nat} {text : Text} (fits : text.length < size) :
    snprintf size text = text :=
  List.take_of_length_le (by omega)

theorem snprintfAt_of_fits {text piece : Text} {offset size : Nat}
    (atEnd : offset = text.length) (fits : piece.length < size) :
    snprintfAt text offset size piece = text ++ piece := by
  have positive : size ≠ 0 := by omega
  simp [snprintfAt, atEnd, positive, snprintf_eq_self fits]

/-- Whatever fits of the text is written, from its start. -/
theorem snprintfAt_nil_isPrefix (size : Nat) (text : Text) :
    snprintfAt [] 0 size text <+: text := by
  unfold snprintfAt
  split
  · exact List.nil_prefix
  · exact List.take_prefix (size - 1) text

/-- What stands before the offset stays. -/
theorem prefix_snprintfAt {start text : Text} {offset : Nat} (starts : start <+: text)
    (before : start.length ≤ offset) (size : Nat) (piece : Text) :
    start <+: snprintfAt text offset size piece := by
  unfold snprintfAt
  split
  · exact starts
  · exact (List.prefix_take_iff.mpr ⟨starts, before⟩).trans (List.prefix_append _ _)

/-! ## Numbers in a text

Conversions of numbers that fit show which number it was. -/

theorem digit_inj {first second : Nat} (firstSmall : first < 10) (secondSmall : second < 10)
    (same : digit first = digit second) : first = second := by
  have every : ∀ first < 10, ∀ second < 10, digit first = digit second → first = second := by
    decide
  exact every first firstSmall second secondSmall same

theorem upperHexDigit_inj {first second : Nat} (firstSmall : first < 16) (secondSmall : second < 16)
    (same : upperHexDigit first = upperHexDigit second) : first = second := by
  have every : ∀ first < 16, ∀ second < 16,
      upperHexDigit first = upperHexDigit second → first = second := by decide
  exact every first firstSmall second secondSmall same

theorem lowDigits_inj {width first second : Nat} (firstFits : first < 10 ^ width)
    (secondFits : second < 10 ^ width)
    (same : lowDigits width first = lowDigits width second) : first = second := by
  induction width generalizing first second with
  | zero => omega
  | succ width induction =>
      rw [Nat.pow_succ, Nat.mul_comm] at firstFits secondFits
      rw [lowDigits, lowDigits] at same
      rcases List.append_inj' same rfl with ⟨front, last⟩
      have high := induction (Nat.div_lt_of_lt_mul firstFits) (Nat.div_lt_of_lt_mul secondFits) front
      have low := digit_inj (Nat.mod_lt first (by decide)) (Nat.mod_lt second (by decide))
        (List.singleton_inj.mp last)
      omega

theorem decimal_inj {width first second : Nat} (positive : 0 < width) (firstFits : first < 10 ^ width)
    (secondFits : second < 10 ^ width) (same : decimal width first = decimal width second) :
    first = second := by
  rw [decimal_eq_lowDigits positive firstFits, decimal_eq_lowDigits positive secondFits] at same
  exact lowDigits_inj firstFits secondFits same

/-- Numbers of one width, and what follows them. -/
theorem decimal_append_inj {width first second : Nat} {rest otherRest : Text}
    (positive : 0 < width) (firstFits : first < 10 ^ width) (secondFits : second < 10 ^ width)
    (same : decimal width first ++ rest = decimal width second ++ otherRest) :
    first = second ∧ rest = otherRest := by
  have lengths : (decimal width first).length = (decimal width second).length := by
    rw [length_decimal positive firstFits, length_decimal positive secondFits]
  rcases List.append_inj same lengths with ⟨front, back⟩
  exact ⟨decimal_inj positive firstFits secondFits front, back⟩

theorem hexByte_inj {first second : UInt8} (same : hexByte first = hexByte second) :
    first = second := by
  have firstBound := first.toNat_lt
  have secondBound := second.toNat_lt
  rcases List.cons.inj same with ⟨high, rest⟩
  have upper := upperHexDigit_inj (by omega) (by omega) high
  have lower := upperHexDigit_inj (by omega) (by omega) (List.singleton_inj.mp rest)
  apply UInt8.toNat_inj.mp
  omega

theorem flatMap_hexByte_inj {first second : List UInt8}
    (same : first.flatMap hexByte = second.flatMap hexByte) : first = second := by
  induction first generalizing second with
  | nil =>
      cases second with
      | nil => rfl
      | cons byte bytes => cases same
  | cons byte bytes induction =>
      cases second with
      | nil => cases same
      | cons other others =>
          rw [List.flatMap_cons, List.flatMap_cons] at same
          rcases List.append_inj same rfl with ⟨head, tail⟩
          rw [hexByte_inj head, induction tail]

/-! ## Scanning -/

def isSpace (character : UInt8) : Bool :=
  character == 0x20 || (0x09 ≤ character && character ≤ 0x0d)

def hexValue (character : UInt8) : Option Nat :=
  if 0x30 ≤ character ∧ character ≤ 0x39 then some (character.toNat - 0x30)
  else if 0x41 ≤ character ∧ character ≤ 0x46 then some (character.toNat - 0x37)
  else if 0x61 ≤ character ∧ character ≤ 0x66 then some (character.toNat - 0x57)
  else none

def decimalValue (character : UInt8) : Option Nat :=
  if 0x30 ≤ character ∧ character ≤ 0x39 then some (character.toNat - 0x30)
  else none

/-- The longest run of digits at the front of `text`, as their values. -/
def digitRun (value : UInt8 → Option Nat) : Text → List Nat
  | [] => []
  | character :: rest =>
      match value character with
      | some digit => digit :: digitRun value rest
      | none => []

def ofDigits (base : Nat) (digits : List Nat) : Nat :=
  digits.foldl (fun value digit => value * base + digit) 0

/-- The optional sign of a number: whether it negates, and its length. -/
def sign : Text → Bool × Nat
  | 0x2d :: _ => (true, 1)
  | 0x2b :: _ => (false, 1)
  | _ => (false, 0)

/-- The length of an `0x` that a hexadecimal digit follows. -/
def hexPrefix : Text → Nat
  | 0x30 :: marker :: next :: _ =>
      if (marker = 0x78 ∨ marker = 0x58) ∧ (hexValue next).isSome then 2 else 0
  | _ => 0

/-- `strtoul(text, &end, 16)`: the value, and how far `end` is from `text`. -/
def strtoul16 (text : Text) : UInt64 × Nat :=
  let blanks := (text.takeWhile isSpace).length
  let signed := sign (text.drop blanks)
  let start := blanks + signed.2
  let start := start + hexPrefix (text.drop start)
  let digits := digitRun hexValue (text.drop start)
  if digits.isEmpty then (0, 0)
  else
    let magnitude := UInt64.ofNat (min (ofDigits 16 digits) (2 ^ 64 - 1))
    (if signed.1 then 0 - magnitude else magnitude, start + digits.length)

/-- `atoi(text)`, which is `strtol` in base ten cut to an `int`. -/
def atoi (text : Text) : Int :=
  let blanks := (text.takeWhile isSpace).length
  let signed := sign (text.drop blanks)
  let magnitude := ofDigits 10 (digitRun decimalValue (text.drop (blanks + signed.2)))
  let value : Int :=
    if signed.1 then -(min magnitude (2 ^ 63) : Nat) else (min magnitude (2 ^ 63 - 1) : Nat)
  Int.bmod value (2 ^ 32)

example : strtoul16 (ascii "7f") = (0x7f, 2) := by decide

example : atoi (ascii "-12x") = -12 := by decide

end Text

end Capsrv
