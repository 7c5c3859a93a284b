import StudyDemo.Foundation.Execution
import StudyDemo.Lists.Memory

/-! # Lists under any sequence of operations

What the lists of `list.h` hold, told without links: each list head has a sequence of
items. The functions keep the links in step with that, as long as an item is in one
list at most. -/

namespace StudyDemo.Lists

open Rings

/-- The items of each list. -/
abbrev Contents := Address → Option (List Address)

inductive Operation
  | init (list : Address)
  | add (list item : Address)
  | addTail (list item : Address)
  | del (item : Address)

namespace Operation

/-- What the function does to the links. -/
def perform : Operation → Memory → Option Memory
  | .init list => dlListInit list
  | .add list item => dlListAdd list item
  | .addTail list item => dlListAddTail list item
  | .del item => dlListDel item

/-- What the function is for. -/
def meaning (contents : Contents) : Operation → Contents
  | .init list => Function.update contents list (some [])
  | .add list item => Function.update contents list ((contents list).map (item :: ·))
  | .addTail list item => Function.update contents list ((contents list).map (· ++ [item]))
  | .del item => fun list => (contents list).map (·.erase item)

/-- The address is neither a list head nor an item. -/
def Loose (contents : Contents) (address : Address) : Prop :=
  ∀ list items, contents list = some items → address ∉ list :: items

/-- A head is no item when it is initialised, an item is in no list when it is added
and in some list when it is deleted. -/
def Permitted (allocated : Finset Address) (contents : Contents) : Operation → Prop
  | .init list => list ∈ allocated ∧ ∀ other items, contents other = some items → list ∉ items
  | .add list item => (contents list).isSome ∧ item ∈ allocated ∧ Loose contents item
  | .addTail list item => (contents list).isSome ∧ item ∈ allocated ∧ Loose contents item
  | .del item => ∃ list items, contents list = some items ∧ item ∈ items

end Operation

/-- The links show the lists. -/
structure Shows (memory : Memory) (contents : Contents) : Prop where
  rings : ∀ list items, contents list = some items → Ring memory.Adjacent list items
  apart : ∀ first second items others, contents first = some items →
    contents second = some others → first ≠ second → ∀ address ∈ first :: items,
      address ∉ second :: others

theorem Memory.allocated_of_ring {memory : Memory} {list : Address} {items : List Address}
    (ring : Ring memory.Adjacent list items) {address : Address}
    (member : address ∈ list :: items) : address ∈ memory.allocated := by
  rcases List.mem_cons.mp member with rfl | member
  · exact (Memory.read_of_nextOf ring.links_head.1.next).1
  · obtain ⟨before, after, rfl⟩ := List.append_of_mem member
    exact (Memory.read_of_nextOf ring.links_of_split.2.next).1

/-! ## One operation on one ring -/

section Steps

variable {memory : Memory} {list left item right : Address} {before after items : List Address}

theorem Memory.adjacent_linked {first second : Address} (notLeft : first ≠ left)
    (notRight : second ≠ right) (notFirst : first ≠ item) (notSecond : second ≠ item)
    (adjacent : memory.Adjacent first second) :
    (memory.linked left item right).Adjacent first second := by
  rw [adjacent_iff] at adjacent ⊢
  simpa [linked, notLeft, notRight, notFirst, notSecond] using adjacent

theorem Memory.adjacent_unlinked {first second : Address} (notLeft : first ≠ left)
    (notRight : second ≠ right) (notFirst : first ≠ item) (notSecond : second ≠ item)
    (adjacent : memory.Adjacent first second) :
    (memory.unlinked left item right).Adjacent first second := by
  rw [adjacent_iff] at adjacent ⊢
  simpa [unlinked, notLeft, notRight, notFirst, notSecond] using adjacent

theorem ring_linked (ring : Ring memory.Adjacent list (before ++ after))
    (allocated : item ∈ memory.allocated) (new : item ∉ list :: (before ++ after)) :
    Ring (memory.linked (lastOf list before) item (firstOf list after)).Adjacent list
      (before ++ item :: after) := by
  have isLast : lastOf list before ∈ list :: (before ++ after) := by
    have member := lastOf_mem list before
    grind
  have isFirst : firstOf list after ∈ list :: (before ++ after) := by
    have member := firstOf_mem list after
    grind
  have notLast : item ≠ lastOf list before := fun same => new (same ▸ isLast)
  have notFirst : item ≠ firstOf list after := fun same => new (same ▸ isFirst)
  refine ring.insert new (fun first second notFirst notSecond notLeft notRight =>
    Memory.adjacent_linked notLeft notRight notFirst notSecond) ?_ ?_
  · rw [Memory.adjacent_iff]
    refine ⟨Memory.allocated_of_ring ring isLast, allocated, ?_, ?_⟩
    · simp [Memory.linked, notLast.symm]
    · simp [Memory.linked]
  · rw [Memory.adjacent_iff]
    refine ⟨allocated, Memory.allocated_of_ring ring isFirst, ?_, ?_⟩
    · simp [Memory.linked]
    · simp [Memory.linked, notFirst.symm]

theorem ring_unlinked (ring : Ring memory.Adjacent list (before ++ item :: after)) :
    Ring (memory.unlinked (lastOf list before) item (firstOf list after)).Adjacent list
      (before ++ after) := by
  refine ring.remove (fun first second notFirst notSecond notLeft notRight =>
    Memory.adjacent_unlinked notLeft notRight notFirst notSecond) ?_
  have isLast : lastOf list before ∈ list :: (before ++ item :: after) := by
    have member := lastOf_mem list before
    grind
  have isFirst : firstOf list after ∈ list :: (before ++ item :: after) := by
    have member := firstOf_mem list after
    grind
  have apart : item ∉ list :: before ∧ item ∉ after ++ [list] := by
    have unique := ring.distinct
    simp only [List.nodup_cons, List.nodup_append, List.mem_append, List.mem_cons] at unique
    grind
  have notLast : lastOf list before ≠ item := fun same => apart.1 (same ▸ lastOf_mem list before)
  have notFirst : firstOf list after ≠ item :=
    fun same => apart.2 (same ▸ firstOf_mem list after)
  rw [Memory.adjacent_iff]
  refine ⟨Memory.allocated_of_ring ring isLast, Memory.allocated_of_ring ring isFirst, ?_, ?_⟩
  · simp [Memory.unlinked, notLast]
  · simp [Memory.unlinked, notFirst]

/-- What happens to an item and its neighbours leaves the other rings alone. -/
theorem ring_of_apart {changed : Memory} {touched : List Address}
    (ring : Ring memory.Adjacent list items)
    (kept : ∀ first second, first ∉ touched → second ∉ touched →
      memory.Adjacent first second → changed.Adjacent first second)
    (apart : ∀ address ∈ list :: items, address ∉ touched) :
    Ring changed.Adjacent list items :=
  ring.kept fun first isFirst second isSecond =>
    kept first second (apart first isFirst) (apart second isSecond)

end Steps

/-! ## One operation on all the lists -/

section Shows

variable {memory : Memory} {contents : Contents} {list item : Address}
variable {before after : List Address}

theorem Shows.others {changed : Memory} {items : List Address} (shows_ : Shows memory contents)
    (touched : List Address)
    (kept : ∀ first second, first ∉ touched → second ∉ touched →
      memory.Adjacent first second → changed.Adjacent first second)
    (apart : ∀ other others, contents other = some others → other ≠ list →
      ∀ address ∈ other :: others, address ∉ touched)
    (ring : Ring changed.Adjacent list items)
    (separate : ∀ other others, contents other = some others → other ≠ list →
      ∀ address ∈ list :: items, address ∉ other :: others) :
    Shows changed (Function.update contents list (some items)) where
  rings := by
    intro other others equal
    by_cases same : other = list
    · subst same
      rw [Function.update_self] at equal
      rw [← Option.some.inj equal]
      exact ring
    · rw [Function.update_of_ne same] at equal
      exact ring_of_apart (shows_.rings other others equal) kept (apart other others equal same)
  apart := by
    intro first second mine others isFirst isSecond different address member
    by_cases firstSame : first = list
    · subst firstSame
      rw [Function.update_self] at isFirst
      rw [Function.update_of_ne different.symm] at isSecond
      rw [← Option.some.inj isFirst] at member
      exact separate second others isSecond different.symm address member
    · rw [Function.update_of_ne firstSame] at isFirst
      by_cases secondSame : second = list
      · subst secondSame
        rw [Function.update_self] at isSecond
        rw [← Option.some.inj isSecond]
        exact fun inside => separate first mine isFirst firstSame address inside member
      · rw [Function.update_of_ne secondSame] at isSecond
        exact shows_.apart first second mine others isFirst isSecond different address member

theorem Shows.linked (shows_ : Shows memory contents)
    (listed : contents list = some (before ++ after)) (allocated : item ∈ memory.allocated)
    (loose : Operation.Loose contents item) :
    Shows (memory.linked (lastOf list before) item (firstOf list after))
      (Function.update contents list (some (before ++ item :: after))) := by
  have inside := lastOf_mem list before
  have inside' := firstOf_mem list after
  refine shows_.others [lastOf list before, item, firstOf list after] ?_ ?_
    (ring_linked (shows_.rings list _ listed) allocated (loose list _ listed)) ?_
  · intro first second isFirst isSecond
    simp only [List.mem_cons, not_or] at isFirst isSecond
    exact Memory.adjacent_linked isFirst.1 isSecond.2.2.1 isFirst.2.1 isSecond.2.1
  · intro other others equal different address member
    have apart := shows_.apart list other _ others listed equal different.symm
    have new := loose other others equal
    grind
  · intro other others equal different address member
    have apart := shows_.apart list other _ others listed equal different.symm
    have new := loose other others equal
    grind

theorem Shows.unlinked (shows_ : Shows memory contents)
    (listed : contents list = some (before ++ item :: after)) :
    Shows (memory.unlinked (lastOf list before) item (firstOf list after))
      (Function.update contents list (some (before ++ after))) := by
  have inside := lastOf_mem list before
  have inside' := firstOf_mem list after
  refine shows_.others [lastOf list before, item, firstOf list after] ?_ ?_
    (ring_unlinked (shows_.rings list _ listed)) ?_
  · intro first second isFirst isSecond
    simp only [List.mem_cons, not_or] at isFirst isSecond
    exact Memory.adjacent_unlinked isFirst.1 isSecond.2.2.1 isFirst.2.1 isSecond.2.1
  · intro other others equal different address member
    have apart := shows_.apart list other _ others listed equal different.symm
    grind
  · intro other others equal different address member
    have apart := shows_.apart list other _ others listed equal different.symm
    grind

theorem ring_initialised (allocated : list ∈ memory.allocated) :
    Ring (memory.initialised list).Adjacent list [] := by
  apply Ring.empty
  rw [Memory.adjacent_iff]
  simp [Memory.initialised, allocated]

theorem Shows.initialised (shows_ : Shows memory contents) (allocated : list ∈ memory.allocated)
    (noItem : ∀ other items, contents other = some items → list ∉ items) :
    Shows (memory.initialised list) (Function.update contents list (some [])) := by
  refine shows_.others [list] ?_ ?_ (ring_initialised allocated) ?_
  · intro first second isFirst isSecond adjacent
    rw [List.mem_singleton] at isFirst isSecond
    rw [Memory.adjacent_iff] at adjacent ⊢
    simpa [Memory.initialised, Function.update_of_ne isFirst, Function.update_of_ne isSecond]
      using adjacent
  · intro other others equal different address member
    rw [List.mem_singleton]
    rintro rfl
    rcases List.mem_cons.mp member with same | member
    · exact different same.symm
    · exact noItem other others equal member
  · intro other others equal different address member inside
    rw [List.mem_singleton.mp member] at inside
    rcases List.mem_cons.mp inside with same | inside
    · exact different same.symm
    · exact noItem other others equal inside

theorem Operation.meaning_del (shows_ : Shows memory contents)
    (listed : contents list = some (before ++ item :: after)) :
    Operation.meaning contents (.del item) =
      Function.update contents list (some (before ++ after)) := by
  funext other
  by_cases same : other = list
  · subst same
    have unique := (shows_.rings other _ listed).distinct
    have notBefore : item ∉ before := by
      simp only [List.nodup_cons, List.nodup_append, List.mem_cons] at unique
      grind
    rw [Function.update_self]
    change Option.map _ (contents other) = _
    rw [listed, Option.map_some, List.erase_append_right _ notBefore, List.erase_cons_head]
  · rw [Function.update_of_ne same]
    change Option.map _ (contents other) = _
    cases equal : contents other with
    | none => rfl
    | some others =>
        have apart := shows_.apart list other _ others listed equal (Ne.symm same) item (by simp)
        rw [Option.map_some, List.erase_of_not_mem fun member =>
          apart (List.mem_cons_of_mem other member)]

theorem Operation.perform_shows {operation : Operation} (shows_ : Shows memory contents)
    (permitted : operation.Permitted memory.allocated contents) :
    ∃ changed, operation.perform memory = some changed ∧
      changed.allocated = memory.allocated ∧ Shows changed (operation.meaning contents) := by
  cases operation with
  | init list =>
      exact ⟨_, dlListInit_eq permitted.1, rfl, shows_.initialised permitted.1 permitted.2⟩
  | add list item =>
      obtain ⟨isList, allocated, loose⟩ := permitted
      obtain ⟨items, listed⟩ := Option.isSome_iff_exists.mp isList
      have adjacent := (shows_.rings list items listed).links_head.1
      have apart := loose list items listed
      refine ⟨_, dlListAdd_eq adjacent allocated ?_ ?_, rfl, ?_⟩
      · exact fun same => apart (same ▸ List.mem_cons_self)
      · have first := firstOf_mem list items
        grind
      · have whole : contents list = some ([] ++ items) := listed
        have linked := shows_.linked whole allocated loose
        rwa [meaning, listed, Option.map_some]
  | addTail list item =>
      obtain ⟨isList, allocated, loose⟩ := permitted
      obtain ⟨items, listed⟩ := Option.isSome_iff_exists.mp isList
      have adjacent := (shows_.rings list items listed).links_head.2
      have apart := loose list items listed
      refine ⟨_, dlListAddTail_eq adjacent allocated ?_ ?_, rfl, ?_⟩
      · have last := lastOf_mem list items
        grind
      · exact fun same => apart (same ▸ List.mem_cons_self)
      · have whole : contents list = some (items ++ []) := by rw [List.append_nil, listed]
        have linked := shows_.linked whole allocated loose
        rwa [meaning, listed, Option.map_some]
  | del item =>
      obtain ⟨list, items, listed, member⟩ := permitted
      obtain ⟨before, after, rfl⟩ := List.append_of_mem member
      have ring := shows_.rings list _ listed
      have adjacent := ring.links_of_split
      have unique := ring.distinct
      simp only [List.nodup_cons, List.nodup_append, List.mem_append, List.mem_cons] at unique
      refine ⟨_, dlListDel_eq adjacent.1 adjacent.2 ?_ ?_, rfl, ?_⟩
      · have last := lastOf_mem list before
        grind
      · have first := firstOf_mem list after
        grind
      · rw [meaning_del shows_ listed]
        exact shows_.unlinked listed

end Shows

/-! ## What can be seen of a list -/

theorem lenLoop_eq (memory : Memory) (list : Address) (fuel : Nat) (item : Address)
    (count : BitVec 32) :
    lenLoop memory list fuel item count =
      (walk list memory.nextOf fuel item).map fun items =>
        count + BitVec.ofNat 32 items.length := by
  induction fuel generalizing item count with
  | zero =>
      rw [lenLoop, walk]
      split_ifs <;> simp
  | succ fuel induction =>
      rw [lenLoop, walk]
      split_ifs
      · simp
      · cases memory.nextOf item with
        | none => rfl
        | some next =>
            simp only [Option.bind_eq_bind, Option.bind_some, induction, Option.map_map]
            congr 1
            funext items
            simp only [Function.comp_apply, List.length_cons]
            rw [Nat.add_comm, BitVec.ofNat_add, BitVec.add_assoc]
            rfl

/-- The functions that look at a list see these items. -/
structure Observed (memory : Memory) (list : Address) (items : List Address) : Prop where
  empty : dlListEmpty list memory = some (decide (items = []))
  length : ∀ fuel, items.length ≤ fuel →
    dlListLen fuel list memory = some (BitVec.ofNat 32 items.length)
  forward : ∀ fuel, items.length ≤ fuel → dlListForEach fuel list memory = some items
  backward : ∀ fuel, items.length ≤ fuel →
    dlListForEachReverse fuel list memory = some items.reverse

theorem observed_of_ring {memory : Memory} {list : Address} {items : List Address}
    (ring : Ring memory.Adjacent list items) : Observed memory list items := by
  have forward : ∀ fuel, items.length ≤ fuel →
      dlListForEach fuel list memory = some items := fun fuel enough =>
    ring.walk_eq (fun left right adjacent => adjacent.next) enough
  constructor
  · have adjacent := ring.links_head.1
    obtain ⟨allocated, -, next, -⟩ := Memory.adjacent_iff.mp adjacent
    simp only [dlListEmpty, Memory.read, allocated, if_true, Option.bind_eq_bind,
      Option.bind_some, next, Option.some.injEq, decide_eq_decide]
    cases items with
    | nil => simp
    | cons item items =>
        have other : item ≠ list := fun same =>
          (List.nodup_cons.mp ring.distinct).1 (same ▸ List.mem_cons_self)
        simp [other]
  · intro fuel enough
    have seen := forward fuel enough
    rw [dlListForEach] at seen
    obtain ⟨first, next, walked⟩ := Option.bind_eq_some_iff.mp seen
    simp only [dlListLen, next, Option.bind_eq_bind, Option.bind_some, lenLoop_eq, walked,
      Option.map_some]
    rw [show (0 : BitVec 32) = 0#32 from rfl, BitVec.zero_add]
  · exact forward
  · intro fuel enough
    exact ring.reversed.walk_eq (fun left right adjacent => adjacent.prev)
      (by rwa [List.length_reverse])

/-! ## Whole runs -/

/-- The operations as steps of what the lists hold. -/
def contentsStep : Execution.Step Contents Operation Empty := fun contents operation =>
  (operation.meaning contents, none)

/-- The operations, one after the other, on the links. -/
def performAll (operations : List Operation) (memory : Memory) : Option Memory :=
  operations.foldlM (fun memory operation => operation.perform memory) memory

/-- No list yet. -/
def noLists : Contents := fun _ => none

theorem performAll_shows {memory : Memory} {contents : Contents} {operations : List Operation}
    (shows_ : Shows memory contents)
    (permitted : Execution.EachCall contentsStep
      (fun contents operation => operation.Permitted memory.allocated contents) contents
      operations) :
    ∃ changed, performAll operations memory = some changed ∧
      Shows changed (Execution.finalState contentsStep contents operations) := by
  induction operations generalizing memory contents with
  | nil => exact ⟨memory, rfl, shows_⟩
  | cons operation operations induction =>
      obtain ⟨here, later⟩ := Execution.eachCall_cons.mp permitted
      obtain ⟨middle, performed, allocated, shown⟩ := Operation.perform_shows shows_ here
      rw [← allocated] at later
      obtain ⟨changed, rest, final⟩ := induction shown later
      refine ⟨changed, ?_, final⟩
      rw [performAll, List.foldlM_cons, performed]
      exact rest

/-- Under any sequence of operations that adds an item to one list only, no function
follows a link that is not there, and every list shows what its operations put into it. -/
theorem lists_hold_contents (memory : Memory) (operations : List Operation)
    (permitted : Execution.EachCall contentsStep
      (fun contents operation => operation.Permitted memory.allocated contents) noLists
      operations) :
    ∃ changed, performAll operations memory = some changed ∧
      ∀ list items, Execution.finalState contentsStep noLists operations list = some items →
        Observed changed list items := by
  have none_ : Shows memory noLists :=
    ⟨fun _ _ listed => (nomatch listed), fun _ _ _ _ listed => (nomatch listed)⟩
  obtain ⟨changed, performed, shown⟩ := performAll_shows none_ permitted
  exact ⟨changed, performed, fun list items listed =>
    observed_of_ring (shown.rings list items listed)⟩

/-- Four links in memory, all `NULL`. -/
def fourLinks : Memory := ⟨fun _ => ⟨none, none⟩, {0, 1, 2, 3}⟩

/-- An item moves from one list to another. -/
def moving : List Operation := [.init 0, .addTail 0 1, .add 0 2, .init 3, .del 1, .addTail 3 1]

theorem lists_hold_contents_moving :
    ∃ changed, performAll moving fourLinks = some changed ∧ Observed changed 0 [2] ∧
      Observed changed 3 [1] := by
  obtain ⟨changed, performed, observed⟩ := lists_hold_contents fourLinks moving (by
    simp only [moving, Execution.eachCall_cons, contentsStep, Operation.Permitted,
      Operation.meaning, Operation.Loose, noLists, fourLinks]
    refine ⟨by simp, ⟨by simp, by simp, ?_⟩, ⟨by simp, by simp, ?_⟩, ⟨by simp, ?_⟩,
      ⟨0, [2, 1], by simp, by simp⟩, ⟨by simp, by simp, ?_⟩, Execution.eachCall_nil _ _ _⟩
    all_goals
      intro list items listed
      grind [noLists, Function.update_apply])
  exact ⟨changed, performed, observed 0 [2] rfl, observed 3 [1] rfl⟩

end StudyDemo.Lists
