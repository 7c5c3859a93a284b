import StudyDemo.Foundation.CMemory

/-! # Computations that read memory

A computation that reads bytes has a result and the addresses that it reads. Whether
all of them stand below a limit is decided along the computation: a bind is within
the limit if both of its parts are. -/

namespace StudyDemo.CMemory

/-- A result, and the addresses of the bytes that were read for it. -/
structure Reading (Result : Type) where
  result : Result
  addresses : List Nat

namespace Reading

variable {First Second : Type}

instance : Monad Reading where
  pure result := { result := result, addresses := [] }
  bind first next :=
    { result := (next first.result).result
      addresses := first.addresses ++ (next first.result).addresses }

@[simp] theorem result_pure (result : First) : (pure result : Reading First).result = result :=
  rfl

@[simp] theorem result_bind (first : Reading First) (next : First → Reading Second) :
    (first >>= next).result = (next first.result).result := rfl

/-- All addresses are below a limit. -/
def Within (reading : Reading First) (limit : Nat) : Prop :=
  ∀ address ∈ reading.addresses, address < limit

instance (reading : Reading First) (limit : Nat) : Decidable (reading.Within limit) :=
  inferInstanceAs (Decidable (∀ address ∈ reading.addresses, address < limit))

variable {limit : Nat}

@[simp] theorem within_pure (result : First) : (pure result : Reading First).Within limit :=
  fun _ member => absurd member List.not_mem_nil

@[simp] theorem within_bind (first : Reading First) (next : First → Reading Second) :
    (first >>= next).Within limit ↔ first.Within limit ∧ (next first.result).Within limit :=
  List.forall_mem_append

end Reading

/-! ## Little-endian numbers -/

def readByte (memory : Memory) (address : Nat) : Reading Byte where
  result := memory address
  addresses := [address]

/-- The number that two bytes are, the lower one first. -/
def shortOf (low high : Byte) : BitVec 16 := high ++ low

/-- The number that four bytes are, the lowest one first. -/
def wordOf (first second third fourth : Byte) : BitVec 32 := fourth ++ third ++ second ++ first

def readShort (memory : Memory) (address : Nat) : Reading (BitVec 16) where
  result := shortOf (memory address) (memory (address + 1))
  addresses := [address, address + 1]

def readWord (memory : Memory) (address : Nat) : Reading (BitVec 32) where
  result := wordOf (memory address) (memory (address + 1)) (memory (address + 2))
    (memory (address + 3))
  addresses := [address, address + 1, address + 2, address + 3]

section Reads

variable (memory : Memory) {address limit : Nat}

@[simp] theorem result_readByte : (readByte memory address).result = memory address := rfl

@[simp] theorem within_readByte : (readByte memory address).Within limit ↔ address < limit := by
  simp [Reading.Within, readByte]

@[simp] theorem within_readShort :
    (readShort memory address).Within limit ↔ address + 2 ≤ limit := by
  simp only [Reading.Within, readShort, List.forall_mem_cons, List.not_mem_nil, false_imp_iff,
    implies_true, and_true]
  omega

@[simp] theorem within_readWord :
    (readWord memory address).Within limit ↔ address + 4 ≤ limit := by
  simp only [Reading.Within, readWord, List.forall_mem_cons, List.not_mem_nil, false_imp_iff,
    implies_true, and_true]
  omega

variable {memory}

theorem Holds.readShort_result {low high : Byte} {rest : List Byte}
    (holds : Holds memory address (low :: high :: rest)) :
    (readShort memory address).result = shortOf low high := by
  simp only [readShort]
  rw [holds.head, holds.tail.head]

theorem Holds.readWord_result {first second third fourth : Byte} {rest : List Byte}
    (holds : Holds memory address (first :: second :: third :: fourth :: rest)) :
    (readWord memory address).result = wordOf first second third fourth := by
  have secondHere : memory (address + 1) = second := holds.tail.head
  have thirdHere : memory (address + 2) = third := holds.tail.tail.head
  have fourthHere : memory (address + 3) = fourth := holds.tail.tail.tail.head
  simp only [readWord]
  rw [holds.head, secondHere, thirdHere, fourthHere]

end Reads

end StudyDemo.CMemory
