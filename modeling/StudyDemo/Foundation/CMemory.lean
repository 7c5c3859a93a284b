import Mathlib.Data.BitVec
import Mathlib.Data.List.GetD
import Mathlib.Data.List.TakeWhile

/-! # Byte memory and C strings

Memory as bytes at addresses, with the stores and loads of the string functions of
the C library. What a range of addresses holds is a list of bytes; stores change
only their own range. -/

namespace StudyDemo.CMemory

abbrev Byte := BitVec 8
abbrev Memory := Nat → Byte

/-- The characters of a string literal. -/
def literal (text : String) : List Byte := text.toList.map fun char => BitVec.ofNat 8 char.toNat

/-- Store bytes from an address on. -/
def store (memory : Memory) (address : Nat) (bytes : List Byte) : Memory :=
  fun position =>
    if address ≤ position then bytes.getD (position - address) (memory position)
    else memory position

def memset (memory : Memory) (address : Nat) (value : Byte) (count : Nat) : Memory :=
  store memory address (List.replicate count value)

/-- `strcpy` of a string that does not overlap its target. -/
def strcpy (memory : Memory) (address : Nat) (text : List Byte) : Memory :=
  store memory address (text ++ [0])

/-- `strncpy` copies no more than `count` bytes, and fills up with zeros. -/
def strncpy (memory : Memory) (address : Nat) (text : List Byte) (count : Nat) : Memory :=
  store memory address ((text.takeWhile (· ≠ 0) ++ List.replicate count 0).take count)

/-- The string at an address, of which at most `limit` bytes are read. -/
def readString (memory : Memory) : Nat → Nat → List Byte
  | 0, _ => []
  | limit + 1, address =>
      if memory address = 0 then []
      else memory address :: readString memory limit (address + 1)

theorem takeWhile_append_of_noNul {text : List Byte} (noNul : 0 ∉ text) (rest : List Byte) :
    (text ++ rest).takeWhile (· ≠ 0) = text ++ rest.takeWhile (· ≠ 0) := by
  apply List.takeWhile_append_of_pos
  intro byte member
  exact decide_eq_true fun zero => noNul (zero ▸ member)

/-- The bytes that stand from an address on. -/
def Holds (memory : Memory) (address : Nat) (bytes : List Byte) : Prop :=
  ∀ index (inside : index < bytes.length), memory (address + index) = bytes[index]

theorem store_outside (memory : Memory) {address position : Nat} {bytes : List Byte}
    (outside : position < address ∨ address + bytes.length ≤ position) :
    store memory address bytes position = memory position := by
  rw [store]
  split_ifs with reached
  · rw [List.getD_eq_default]
    omega
  · rfl

section Holds

variable {memory : Memory} {address : Nat} {bytes : List Byte}

theorem holds_store (memory : Memory) (address : Nat) (bytes : List Byte) :
    Holds (store memory address bytes) address bytes := by
  intro index inside
  rw [store, if_pos (Nat.le_add_right _ _), Nat.add_sub_cancel_left,
    List.getD_eq_getElem _ _ inside]

theorem Holds.store_apart (holds : Holds memory address bytes) {target : Nat}
    {stored : List Byte}
    (apart : address + bytes.length ≤ target ∨ target + stored.length ≤ address) :
    Holds (store memory target stored) address bytes := by
  intro index inside
  rw [← holds index inside]
  exact store_outside memory (by omega)

theorem Holds.before (holds : Holds memory address bytes) {target : Nat} (stored : List Byte)
    (ordered : address + bytes.length ≤ target) :
    Holds (store memory target stored) address bytes :=
  holds.store_apart (Or.inl ordered)

theorem Holds.take (holds : Holds memory address bytes) (count : Nat) :
    Holds memory address (bytes.take count) := by
  intro index inside
  have within : index < bytes.length := by
    rw [List.length_take] at inside
    omega
  rw [holds index within, List.getElem_take]

theorem Holds.append (holds : Holds memory address bytes) {rest : List Byte}
    (after : Holds memory (address + bytes.length) rest) :
    Holds memory address (bytes ++ rest) := by
  intro index inside
  rw [List.length_append] at inside
  by_cases first : index < bytes.length
  · rw [List.getElem_append_left first, holds index first]
  · rw [List.getElem_append_right (by omega), ← after (index - bytes.length) (by omega)]
    congr 1
    omega

theorem Holds.left {second : List Byte} (holds : Holds memory address (bytes ++ second)) :
    Holds memory address bytes := by
  have first := holds.take bytes.length
  rw [List.take_left] at first
  exact first

theorem Holds.right {first : List Byte} (holds : Holds memory address (first ++ bytes)) :
    Holds memory (address + first.length) bytes := by
  intro index inside
  rw [Nat.add_assoc, holds (first.length + index) (by rw [List.length_append]; omega),
    List.getElem_append_right (Nat.le_add_right _ _)]
  congr 1
  omega

theorem Holds.head {byte : Byte} (holds : Holds memory address (byte :: bytes)) :
    memory address = byte :=
  holds 0 (Nat.succ_pos _)

theorem Holds.tail {byte : Byte} (holds : Holds memory address (byte :: bytes)) :
    Holds memory (address + 1) bytes := by
  intro index inside
  have next := holds (index + 1) (Nat.succ_lt_succ inside)
  rw [show address + 1 + index = address + (index + 1) by omega, next]
  rfl

theorem holds_strncpy {text : List Byte} {count : Nat}
    (zeros : Holds memory address (List.replicate count 0)) (noNul : 0 ∉ text)
    (short : text.length < count) :
    Holds (strncpy memory address text text.length) address (text ++ [0]) := by
  have whole : text.takeWhile (· ≠ 0) = text := by
    simpa using takeWhile_append_of_noNul noNul []
  have copied : (text.takeWhile (· ≠ 0) ++ List.replicate text.length 0).take text.length =
      text := by
    rw [whole, List.take_left]
  rw [strncpy, copied]
  apply (holds_store memory address text).append
  intro index inside
  have first : index = 0 := Nat.lt_one_iff.mp inside
  subst first
  have stays := zeros text.length (by rw [List.length_replicate]; exact short)
  rw [store, if_pos (by omega), List.getD_eq_default _ _ (by omega)]
  simpa using stays

theorem Holds.readString {text : List Byte} (holds : Holds memory address (text ++ [0]))
    (noNul : 0 ∉ text) {limit : Nat} (long : text.length < limit) :
    readString memory limit address = text := by
  induction text generalizing address limit with
  | nil =>
      cases limit with
      | zero => exact absurd long (Nat.not_lt_zero _)
      | succ limit => exact if_pos holds.head
  | cons byte text induction =>
      cases limit with
      | zero => exact absurd long (Nat.not_lt_zero _)
      | succ limit =>
          have here : memory address = byte := holds.head
          have nonzero : byte ≠ 0 := fun zero => noNul (zero ▸ List.mem_cons_self)
          rw [CMemory.readString, here, if_neg nonzero,
            induction holds.tail (fun member => noNul (List.mem_cons_of_mem _ member))
              (Nat.lt_of_succ_lt_succ long)]

end Holds

end StudyDemo.CMemory
