import Mathlib.Data.Finset.Basic
import Mathlib.Logic.Function.Basic
import StudyDemo.Foundation.Rings

/-! # The doubly linked lists of `list.h`

The links stand inside the records that a list holds, so a record and its link have one
address here. A function that follows `NULL`, or a link that is not allocated, has no
result. -/

namespace StudyDemo.Lists

open Rings

abbrev Address := Nat

/-- `struct dl_list`; `none` is `NULL`. -/
structure DlList where
  next : Option Address
  prev : Option Address
  deriving DecidableEq

/-- The links, and which of them are allocated. -/
structure Memory where
  links : Address → DlList
  allocated : Finset Address

namespace Memory

def read (memory : Memory) (address : Address) : Option DlList :=
  if address ∈ memory.allocated then some (memory.links address) else none

def setNext (memory : Memory) (address : Address) (next : Option Address) : Option Memory :=
  if address ∈ memory.allocated then
    some { memory with
      links := Function.update memory.links address { memory.links address with next := next } }
  else
    none

def setPrev (memory : Memory) (address : Address) (prev : Option Address) : Option Memory :=
  if address ∈ memory.allocated then
    some { memory with
      links := Function.update memory.links address { memory.links address with prev := prev } }
  else
    none

/-- `malloc` hands out an address that is not in use; nothing is known about what
stands there. -/
def malloc (memory : Memory) (address : Address) : Memory :=
  { memory with allocated := insert address memory.allocated }

def free (memory : Memory) (address : Address) : Option Memory :=
  if address ∈ memory.allocated then
    some { memory with allocated := memory.allocated.erase address }
  else
    none

/-- `item->next`. -/
def nextOf (memory : Memory) (item : Address) : Option Address :=
  (memory.read item).bind DlList.next

/-- `item->prev`. -/
def prevOf (memory : Memory) (item : Address) : Option Address :=
  (memory.read item).bind DlList.prev

end Memory

/-! ## The functions -/

def dlListInit (list : Address) (memory : Memory) : Option Memory := do
  let memory ← memory.setNext list (some list)
  memory.setPrev list (some list)

def dlListAdd (list item : Address) (memory : Memory) : Option Memory := do
  let link ← memory.read list
  let memory ← memory.setNext item link.next
  let memory ← memory.setPrev item (some list)
  let behind ← memory.nextOf list
  let memory ← memory.setPrev behind (some item)
  memory.setNext list (some item)

def dlListAddTail (list item : Address) (memory : Memory) : Option Memory := do
  let last ← memory.prevOf list
  dlListAdd last item memory

def dlListDel (item : Address) (memory : Memory) : Option Memory := do
  let link ← memory.read item
  let behind ← link.next
  let memory ← memory.setPrev behind link.prev
  let link ← memory.read item
  let inFront ← link.prev
  let memory ← memory.setNext inFront link.next
  let memory ← memory.setNext item none
  memory.setPrev item none

def dlListEmpty (list : Address) (memory : Memory) : Option Bool := do
  let link ← memory.read list
  some (link.next = some list)

/-- The loop of `dl_list_len`. -/
def lenLoop (memory : Memory) (list : Address) : Nat → Address → BitVec 32 → Option (BitVec 32)
  | fuel, item, count =>
      if item = list then some count
      else match fuel with
        | 0 => none
        | fuel + 1 => do
            let item ← memory.nextOf item
            lenLoop memory list fuel item (count + 1)

def dlListLen (fuel : Nat) (list : Address) (memory : Memory) : Option (BitVec 32) := do
  let item ← memory.nextOf list
  lenLoop memory list fuel item 0

/-- The items that the body of `dl_list_for_each` is run for. -/
def dlListForEach (fuel : Nat) (list : Address) (memory : Memory) : Option (List Address) :=
  (memory.nextOf list).bind (walk list memory.nextOf fuel)

def dlListForEachReverse (fuel : Nat) (list : Address) (memory : Memory) :
    Option (List Address) :=
  (memory.prevOf list).bind (walk list memory.prevOf fuel)

section Safe

variable {State : Type} (memoryOf : State → Memory) (body : Address → State → Option (Bool × State))

/-- The loop of `dl_list_for_each_safe`, whose body may change the list; `true` breaks
out of it. -/
def safeLoop (list : Address) : Nat → Address → Address → State → Option State
  | fuel, item, n, state =>
      if item = list then some state
      else match fuel with
        | 0 => none
        | fuel + 1 => do
            let (breaks, state) ← body item state
            if breaks then some state
            else
              let item := n
              let n ← (memoryOf state).nextOf n
              safeLoop list fuel item n state

def dlListForEachSafe (fuel : Nat) (list : Address) (state : State) : Option State := do
  let item ← (memoryOf state).nextOf list
  let n ← (memoryOf state).nextOf item
  safeLoop memoryOf body list fuel item n state

end Safe

/-! ## What the functions do to the links -/

namespace Memory

/-- One node is linked to the next. -/
structure Adjacent (memory : Memory) (left right : Address) : Prop where
  next : memory.nextOf left = some right
  prev : memory.prevOf right = some left

theorem read_of_nextOf {memory : Memory} {item next : Address}
    (equal : memory.nextOf item = some next) :
    item ∈ memory.allocated ∧ (memory.links item).next = some next := by
  rw [nextOf, read] at equal
  split_ifs at equal with allocated
  · exact ⟨allocated, equal⟩
  · cases equal

theorem read_of_prevOf {memory : Memory} {item prev : Address}
    (equal : memory.prevOf item = some prev) :
    item ∈ memory.allocated ∧ (memory.links item).prev = some prev := by
  rw [prevOf, read] at equal
  split_ifs at equal with allocated
  · exact ⟨allocated, equal⟩
  · cases equal

theorem adjacent_iff {memory : Memory} {left right : Address} :
    memory.Adjacent left right ↔ left ∈ memory.allocated ∧ right ∈ memory.allocated ∧
      (memory.links left).next = some right ∧ (memory.links right).prev = some left := by
  constructor
  · intro adjacent
    obtain ⟨isLeft, next⟩ := read_of_nextOf adjacent.next
    obtain ⟨isRight, prev⟩ := read_of_prevOf adjacent.prev
    exact ⟨isLeft, isRight, next, prev⟩
  · rintro ⟨isLeft, isRight, next, prev⟩
    exact ⟨by rw [nextOf, read, if_pos isLeft, Option.bind_some, next],
      by rw [prevOf, read, if_pos isRight, Option.bind_some, prev]⟩

/-- The links after an item has come in between two neighbours. -/
def linked (memory : Memory) (left item right : Address) : Memory where
  allocated := memory.allocated
  links := fun address =>
    { next :=
        if address = item then some right
        else if address = left then some item
        else (memory.links address).next
      prev :=
        if address = item then some left
        else if address = right then some item
        else (memory.links address).prev }

/-- The links after an item has gone from between its neighbours. -/
def unlinked (memory : Memory) (left item right : Address) : Memory where
  allocated := memory.allocated
  links := fun address =>
    { next :=
        if address = item then none
        else if address = left then some right
        else (memory.links address).next
      prev :=
        if address = item then none
        else if address = right then some left
        else (memory.links address).prev }

/-- The links after `dl_list_init`. -/
def initialised (memory : Memory) (list : Address) : Memory where
  allocated := memory.allocated
  links := Function.update memory.links list ⟨some list, some list⟩

end Memory

theorem dlListInit_eq {memory : Memory} {list : Address} (allocated : list ∈ memory.allocated) :
    dlListInit list memory = some (memory.initialised list) := by
  simp [dlListInit, Memory.setNext, Memory.setPrev, Memory.initialised, allocated]

theorem dlListAdd_eq {memory : Memory} {left item right : Address}
    (adjacent : memory.Adjacent left right) (allocated : item ∈ memory.allocated)
    (notLeft : item ≠ left) (notRight : item ≠ right) :
    dlListAdd left item memory = some (memory.linked left item right) := by
  obtain ⟨leftAllocated, next⟩ := Memory.read_of_nextOf adjacent.next
  obtain ⟨rightAllocated, prev⟩ := Memory.read_of_prevOf adjacent.prev
  simp only [dlListAdd, Memory.setNext, Memory.setPrev, Memory.read, Memory.nextOf, allocated,
    leftAllocated, rightAllocated, next, notLeft.symm, notRight.symm, Memory.linked, if_true,
    Option.bind_eq_bind, Option.bind_some, Function.update_self, Function.update_of_ne, ne_eq,
    not_false_eq_true, Function.update_idem, Option.some.injEq, Memory.mk.injEq, and_true]
  funext address
  by_cases isItem : address = item <;> by_cases isLeft : address = left <;>
    by_cases isRight : address = right <;> simp_all [Function.update_apply]

theorem dlListAddTail_eq {memory : Memory} {list item last : Address}
    (adjacent : memory.Adjacent last list) (allocated : item ∈ memory.allocated)
    (notLast : item ≠ last) (notList : item ≠ list) :
    dlListAddTail list item memory = some (memory.linked last item list) := by
  rw [dlListAddTail, adjacent.prev]
  exact dlListAdd_eq adjacent allocated notLast notList

theorem dlListDel_eq {memory : Memory} {left item right : Address}
    (before : memory.Adjacent left item) (after : memory.Adjacent item right)
    (notLeft : item ≠ left) (notRight : item ≠ right) :
    dlListDel item memory = some (memory.unlinked left item right) := by
  obtain ⟨leftAllocated, leftNext⟩ := Memory.read_of_nextOf before.next
  obtain ⟨allocated, prev⟩ := Memory.read_of_prevOf before.prev
  obtain ⟨rightAllocated, rightPrev⟩ := Memory.read_of_prevOf after.prev
  have next := (Memory.read_of_nextOf after.next).2
  simp only [dlListDel, Memory.setNext, Memory.setPrev, Memory.read, allocated,
    leftAllocated, rightAllocated, next, prev, notLeft, notRight, Memory.unlinked, if_true,
    Option.bind_eq_bind, Option.bind_some, Function.update_self,
    Function.update_of_ne, ne_eq, not_false_eq_true, Function.update_idem, Option.some.injEq,
    Memory.mk.injEq, and_true]
  funext address
  by_cases isItem : address = item <;> by_cases isLeft : address = left <;>
    by_cases isRight : address = right <;> simp_all [Function.update_apply]

end StudyDemo.Lists
