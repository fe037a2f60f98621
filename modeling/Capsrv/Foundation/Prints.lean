import Mathlib.Logic.Function.Basic
import Mathlib.Data.List.Basic
import Mathlib.Tactic.Common

/-! # Prints into buffers

Calls of `snprintf`, each with the buffer and the offset it writes to, the room
it is told and the text its format asks for. The caller keeps count of offset
and room. A chain of prints is one where that count is right and every text
fits, and then the buffer holds all of them.
-/

namespace Capsrv

structure Print (β : Type) where
  buffer : β
  offset : Nat
  size : UInt64
  text : List UInt8
deriving DecidableEq, Repr

namespace Print

variable {β : Type}

/-- What `snprintf` writes: the text as far as it fits, and a terminator. -/
def bytes (print : Print β) : List UInt8 :=
  if print.size = 0 then []
  else print.text.take (print.size.toNat - 1) ++ [0]

/-- What is in a buffer after a print into it. -/
def write (print : Print β) (buffer : Nat → UInt8) : Nat → UInt8 := fun index =>
  if print.offset ≤ index then (print.bytes[index - print.offset]?).getD (buffer index)
  else buffer index

/-- The buffers after a list of prints. -/
def runAll [DecidableEq β] (prints : List (Print β)) (buffers : β → Nat → UInt8) :
    β → Nat → UInt8 :=
  prints.foldl (fun buffers print =>
    Function.update buffers print.buffer (print.write (buffers print.buffer))) buffers

/-- The print stays inside a buffer of the given size. -/
def Inside (print : Print β) (size : Nat) : Prop :=
  print.offset + print.bytes.length ≤ size

instance (print : Print β) (size : Nat) : Decidable (print.Inside size) :=
  inferInstanceAs (Decidable (_ ≤ _))

section

variable {print : Print β} {buffer : Nat → UInt8} {index : Nat}

theorem bytes_of_fits (fits : print.text.length < print.size.toNat) :
    print.bytes = print.text ++ [0] := by
  have positive : print.size ≠ 0 := by
    intro zero
    rw [zero] at fits
    exact absurd fits (Nat.not_lt_zero _)
  rw [bytes, if_neg positive, List.take_of_length_le (by omega)]

theorem length_bytes_le (print : Print β) : print.bytes.length ≤ print.size.toNat := by
  unfold bytes
  split
  · exact Nat.zero_le _
  · rename_i positive
    have nonzero : print.size.toNat ≠ 0 := fun zero => positive (UInt64.toNat_inj.mp zero)
    rw [List.length_append, List.length_take, List.length_singleton]
    omega

theorem write_before (before : index < print.offset) : print.write buffer index = buffer index := by
  rw [write, if_neg (by omega)]

theorem write_behind (behind : print.offset + print.bytes.length ≤ index) :
    print.write buffer index = buffer index := by
  rw [write, if_pos (by omega), List.getElem?_eq_none (by omega)]
  rfl

theorem write_inside {position : Nat} (below : position < print.bytes.length) :
    print.write buffer (print.offset + position) = print.bytes[position] := by
  rw [write, if_pos (Nat.le_add_right _ _), Nat.add_sub_cancel_left,
    List.getElem?_eq_getElem below]
  rfl

end

variable [DecidableEq β] in
theorem runAll_append_singleton (prints : List (Print β)) (last : Print β)
    (buffers : β → Nat → UInt8) :
    runAll (prints ++ [last]) buffers =
      Function.update (runAll prints buffers) last.buffer
        (last.write (runAll prints buffers last.buffer)) := by
  rw [runAll, List.foldl_append]
  rfl

/-! ## Chains -/

/-- Every print into the buffer starts where the text so far ends, is told what
is left of the room, and fits. -/
inductive Chain (buffer : β) (room : Nat) : List (Print β) → List UInt8 → Prop
  | nil : Chain buffer room [] []
  | print {prints : List (Print β)} {text : List UInt8} {last : Print β}
      (earlier : Chain buffer room prints text) (into : last.buffer = buffer)
      (atEnd : last.offset = text.length) (left : last.size.toNat + text.length = room)
      (fits : last.text.length < last.size.toNat) :
      Chain buffer room (prints ++ [last]) (text ++ last.text)
  | other {prints : List (Print β)} {text : List UInt8} {last : Print β}
      (earlier : Chain buffer room prints text) (elsewhere : last.buffer ≠ buffer) :
      Chain buffer room (prints ++ [last]) text

namespace Chain

variable {buffer : β} {room : Nat} {prints : List (Print β)} {text : List UInt8}

/-- Prints into other buffers. -/
theorem others (chain : Chain buffer room prints text) {rest : List (Print β)}
    (elsewhere : ∀ print ∈ rest, print.buffer ≠ buffer) :
    Chain buffer room (prints ++ rest) text := by
  induction rest generalizing prints with
  | nil =>
      rw [List.append_nil]
      exact chain
  | cons print rest induction =>
      rw [List.append_cons]
      apply induction
      · exact chain.other (elsewhere print List.mem_cons_self)
      · intro later member
        exact elsewhere later (List.mem_cons_of_mem print member)

/-- All of the text fits with its terminator. -/
theorem total (chain : Chain buffer room prints text) (positive : 0 < room) :
    text.length + 1 ≤ room := by
  induction chain with
  | nil => exact positive
  | print _ _ _ left fits _ =>
      rw [List.length_append]
      omega
  | other _ _ induction => exact induction

/-- Every print into the buffer stays in the room. -/
theorem inside (chain : Chain buffer room prints text) {print : Print β} (member : print ∈ prints)
    (into : print.buffer = buffer) : print.Inside room := by
  induction chain with
  | nil => cases member
  | @print prints text last earlier _ atEnd left fits induction =>
      rcases List.mem_append.mp member with before | isLast
      · exact induction before
      · rw [List.mem_singleton.mp isLast, Inside, atEnd]
        have length := length_bytes_le last
        omega
  | other earlier elsewhere induction =>
      rcases List.mem_append.mp member with before | isLast
      · exact induction before
      · rw [List.mem_singleton.mp isLast] at into
        exact absurd into elsewhere

/-- The buffer holds the text, and what is behind it has not changed. -/
structure Holds (before after : Nat → UInt8) (text : List UInt8) : Prop where
  characters : ∀ index (below : index < text.length), after index = text[index]
  nul : text ≠ [] → after text.length = 0
  behind : ∀ index, text.length < index → after index = before index

variable [DecidableEq β] in
theorem holds (chain : Chain buffer room prints text) (buffers : β → Nat → UInt8) :
    Holds (buffers buffer) (runAll prints buffers buffer) text := by
  induction chain with
  | nil =>
      exact ⟨fun index below => absurd below (Nat.not_lt_zero index), fun empty => absurd rfl empty,
        fun index _ => rfl⟩
  | @print prints text last earlier into atEnd left fits induction =>
      have length : last.bytes.length = last.text.length + 1 := by
        rw [bytes_of_fits fits, List.length_append, List.length_singleton]
      rw [runAll_append_singleton, into, Function.update_self]
      constructor
      · intro index below
        rw [List.length_append] at below
        by_cases earlier : index < text.length
        · rw [write_before (by omega), induction.characters index earlier,
            List.getElem_append_left earlier]
        · have position : index = last.offset + (index - text.length) := by omega
          have inText : index - text.length < last.text.length := by omega
          rw [List.getElem_append_right (by omega)]
          conv_lhs => rw [position]
          rw [write_inside (by omega)]
          simp only [bytes_of_fits fits, List.getElem_append_left inText]
      · intro _
        rw [List.length_append, ← atEnd, write_inside (by omega)]
        simp only [bytes_of_fits fits, List.getElem_concat_length]
      · intro index behind
        rw [List.length_append] at behind
        rw [write_behind (by omega)]
        exact induction.behind index (by omega)
  | @other prints text last earlier elsewhere induction =>
      rw [runAll_append_singleton, Function.update_of_ne (Ne.symm elsewhere)]
      exact induction

end Chain

end Print

end Capsrv
