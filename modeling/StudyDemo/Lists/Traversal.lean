import StudyDemo.Lists.Runs

/-! # Loops that change the list they walk

`dl_list_for_each_safe` fetches the next item before its body runs, so the body may
delete the item it stands at. -/

namespace StudyDemo.Lists

open Rings

/-- The items that a walk has not met yet lead to the list head. -/
structure Remaining (memory : Memory) (list : Address) (items : List Address) : Prop where
  apart : list ∉ items
  links : (items ++ [list]).IsChain fun left right => memory.nextOf left = some right
  first : (memory.nextOf list).isSome

theorem remaining_of_ring {memory : Memory} {list : Address} {items : List Address}
    (ring : Ring memory.Adjacent list items) : Remaining memory list items where
  apart := (List.nodup_cons.mp ring.distinct).1
  links := (List.IsChain.tail ring.links).imp fun _ _ adjacent => adjacent.next
  first := by simp [ring.links_head.1.next]

namespace Remaining

variable {memory : Memory} {list item : Address} {items : List Address}

theorem tail (remaining : Remaining memory list (item :: items)) :
    memory.nextOf item = some (firstOf list items) ∧ Remaining memory list items := by
  have links := remaining.links
  rw [List.cons_append, ← firstOf_cons_tail, List.isChain_cons_cons, firstOf_cons_tail] at links
  exact ⟨links.1, fun member => remaining.apart (List.mem_cons_of_mem item member), links.2,
    remaining.first⟩

theorem fetch (remaining : Remaining memory list items) :
    ∃ n, memory.nextOf (firstOf list items) = some n := by
  cases items with
  | nil => exact Option.isSome_iff_exists.mp remaining.first
  | cons item items => exact ⟨_, remaining.tail.1⟩

end Remaining

section Loops

variable {State : Type} {memoryOf : State → Memory}
variable {body : Address → State → Option (Bool × State)} {list : Address}
variable (Left : List Address → State → Prop) (Broken : State → Prop)

theorem safeLoop_runs
    (remaining : ∀ items state, Left items state → Remaining (memoryOf state) list items)
    (turn : ∀ item items state, Left (item :: items) state → ∃ breaks after,
      body item state = some (breaks, after) ∧ if breaks then Broken after else Left items after)
    {items : List Address} {state : State} (left : Left items state) {n : Address}
    (fetched : (memoryOf state).nextOf (firstOf list items) = some n) {fuel : Nat}
    (enough : items.length ≤ fuel) :
    ∃ final, safeLoop memoryOf body list fuel (firstOf list items) n state = some final ∧
      (Left [] final ∨ Broken final) := by
  induction items generalizing state n fuel with
  | nil =>
      refine ⟨state, ?_, Or.inl left⟩
      cases fuel <;> simp [safeLoop]
  | cons item items induction =>
      have here := remaining _ _ left
      have next : n = firstOf list items := by
        rw [firstOf_cons, here.tail.1] at fetched
        exact (Option.some.inj fetched).symm
      have other : item ≠ list := fun same => here.apart (same ▸ List.mem_cons_self)
      obtain ⟨breaks, after, ran, later⟩ := turn item items state left
      cases fuel with
      | zero => simp at enough
      | succ fuel =>
          rw [firstOf_cons, safeLoop, if_neg other]
          cases breaks with
          | true => exact ⟨after, by simp [ran], Or.inr later⟩
          | false =>
              obtain ⟨n', fetched'⟩ := (remaining _ _ later).fetch
              obtain ⟨final, looped, ended⟩ :=
                induction later fetched' (Nat.le_of_succ_le_succ enough)
              exact ⟨final, by simp [ran, next, fetched', looped], ended⟩

/-- The loop meets the items in order, each with what the body left of the list, until
the body breaks out. -/
theorem dlListForEachSafe_runs
    (remaining : ∀ items state, Left items state → Remaining (memoryOf state) list items)
    (turn : ∀ item items state, Left (item :: items) state → ∃ breaks after,
      body item state = some (breaks, after) ∧ if breaks then Broken after else Left items after)
    {items : List Address} {state : State} (left : Left items state)
    (start : (memoryOf state).nextOf list = some (firstOf list items)) {fuel : Nat}
    (enough : items.length ≤ fuel) :
    ∃ final, dlListForEachSafe memoryOf body fuel list state = some final ∧
      (Left [] final ∨ Broken final) := by
  obtain ⟨n, fetched⟩ := (remaining _ _ left).fetch
  obtain ⟨final, looped, ended⟩ := safeLoop_runs Left Broken remaining turn left fetched enough
  exact ⟨final, by simp [dlListForEachSafe, start, fetched, looped], ended⟩

/-- Nothing has changed, and what is looked for has not been met. -/
structure Searching (memory : Memory) (list : Address) (items : List Address)
    (wanted : Address → Bool) (left : List Address) : Prop where
  remaining : Remaining memory list left
  among : left ⊆ items
  missed : items.find? wanted = left.find? wanted

theorem dlListForEachSafe_finds {state : State} {items : List Address} (wanted : Address → Bool)
    (found : Address → State) (ring : Ring (memoryOf state).Adjacent list items)
    (passes : ∀ item ∈ items, wanted item = false → body item state = some (false, state))
    (breaks : ∀ item ∈ items, wanted item = true → body item state = some (true, found item))
    {fuel : Nat} (enough : items.length ≤ fuel) :
    dlListForEachSafe memoryOf body fuel list state =
      some (((items.find? wanted).map found).getD state) := by
  obtain ⟨final, looped, ended⟩ := dlListForEachSafe_runs
    (fun left after => after = state ∧ Searching (memoryOf state) list items wanted left)
    (fun after => after = ((items.find? wanted).map found).getD state)
    (fun left after searching => searching.1 ▸ searching.2.remaining)
    (by
      rintro item left after ⟨rfl, searching⟩
      have member := searching.among List.mem_cons_self
      have missed := searching.missed
      cases isWanted : wanted item with
      | true => exact ⟨true, found item, breaks item member isWanted, by simp [missed, isWanted]⟩
      | false =>
          refine ⟨false, after, passes item member isWanted, rfl, searching.remaining.tail.2, ?_,
              ?_⟩
          · exact fun other inside => searching.among (List.mem_cons_of_mem item inside)
          · simp [missed, isWanted])
    ⟨rfl, remaining_of_ring ring, List.Subset.refl items, rfl⟩ ring.links_head.1.next enough
  rw [looped]
  rcases ended with ⟨rfl, searching⟩ | rfl
  · simp [searching.missed]
  · rfl

end Loops

/-! ## Releasing a list -/

/-- The body of a loop that deletes and frees every item. -/
def releaseTurn (item : Address) (memory : Memory) : Option (Bool × Memory) := do
  let memory ← dlListDel item memory
  let memory ← memory.free item
  some (false, memory)

namespace Memory

/-- The links without a freed one. -/
def without (memory : Memory) (item : Address) : Memory :=
  { memory with allocated := memory.allocated.erase item }

theorem adjacent_without {memory : Memory} {item first second : Address}
    (notFirst : first ≠ item) (notSecond : second ≠ item)
    (adjacent : memory.Adjacent first second) :
    (memory.without item).Adjacent first second := by
  rw [adjacent_iff] at adjacent ⊢
  simpa [without, notFirst, notSecond] using adjacent

end Memory

section Release

variable {memory : Memory} {list item : Address} {before after : List Address}

theorem ring_released (ring : Ring memory.Adjacent list (before ++ item :: after)) :
    ∃ changed, dlListDel item memory = some changed ∧
      changed.free item = some (changed.without item) ∧ changed.allocated = memory.allocated ∧
      Ring (changed.without item).Adjacent list (before ++ after) := by
  have adjacent := ring.links_of_split
  have unique := ring.distinct
  have apart : item ∉ list :: (before ++ after) := by
    simp only [List.nodup_cons, List.nodup_append, List.mem_append, List.mem_cons] at unique ⊢
    grind
  have last := lastOf_mem list before
  have first := firstOf_mem list after
  refine ⟨_, dlListDel_eq adjacent.1 adjacent.2 ?_ ?_, ?_, rfl, ?_⟩
  · grind
  · grind
  · have member : item ∈ list :: (before ++ item :: after) := by simp
    have allocated := Memory.allocated_of_ring ring member
    simp [Memory.free, Memory.without, Memory.unlinked, allocated]
  · refine (ring_unlinked ring).kept fun left isLeft right isRight => ?_
    exact Memory.adjacent_without (fun same => apart (same ▸ isLeft))
      (fun same => apart (same ▸ isRight))

/-- These items of the list are not freed yet. -/
structure Unreleased (memory : Memory) (list : Address) (items left : List Address)
    (after : Memory) : Prop where
  ring : Ring after.Adjacent list left
  among : left ⊆ items
  allocated : ∀ address, address ∈ after.allocated ↔
    address ∈ memory.allocated ∧ (address ∈ items → address ∈ left)

theorem Unreleased.turn {items left : List Address} {current : Memory}
    (unreleased : Unreleased memory list items (item :: left) current) :
    ∃ changed, releaseTurn item current = some (false, changed) ∧
      Unreleased memory list items left changed := by
  have ring : Ring current.Adjacent list ([] ++ item :: left) := unreleased.ring
  obtain ⟨changed, deleted, freed, allocated, rest⟩ := ring_released ring
  have once : item ∉ left := by
    have unique := ring.distinct
    simp at unique
    exact unique.2.1
  refine ⟨changed.without item, ?_, rest, ?_, ?_⟩
  · simp [releaseTurn, deleted, freed]
  · exact fun other inside => unreleased.among (List.mem_cons_of_mem item inside)
  · intro address
    have member := unreleased.among (List.mem_cons_self (a := item))
    have before := unreleased.allocated address
    simp only [Memory.without, Finset.mem_erase, allocated, before, List.mem_cons]
    grind

theorem release_list {items : List Address} (ring : Ring memory.Adjacent list items) {fuel : Nat}
    (enough : items.length ≤ fuel) :
    ∃ changed, dlListForEachSafe id releaseTurn fuel list memory = some changed ∧
      Ring changed.Adjacent list [] ∧ changed.allocated = memory.allocated \ items.toFinset := by
  have runs : ∃ final, dlListForEachSafe id releaseTurn fuel list memory = some final ∧
      (Unreleased memory list items [] final ∨ False) :=
    dlListForEachSafe_runs _ (fun _ => False)
      (fun left after unreleased => remaining_of_ring unreleased.ring)
      (fun item left after unreleased => ⟨false, unreleased.turn⟩)
      ⟨ring, List.Subset.refl items, fun _ => by simp⟩ ring.links_head.1.next enough
  obtain ⟨final, looped, unreleased | impossible⟩ := runs
  · refine ⟨final, looped, unreleased.ring, ?_⟩
    ext address
    simp [unreleased.allocated]
  · exact impossible.elim

end Release

end StudyDemo.Lists
