import Mathlib.Data.List.Basic
import Mathlib.Data.List.Nodup

/-! # First occurrences

The items of a list whose key no earlier item has. A loop that puts an item into a
list unless the list has its key already builds exactly these. -/

namespace StudyDemo.Distinct

variable {Item Key Listed : Type*} [DecidableEq Key]

/-- The items with a key that was not seen before. -/
def firstOccurrences (key : Item → Key) : List Key → List Item → List Item
  | _, [] => []
  | seen, item :: items =>
      let later := firstOccurrences key (key item :: seen) items
      if key item ∈ seen then later else item :: later

section FirstOccurrences

variable (key : Item → Key)

theorem firstOccurrences_sublist (seen : List Key) (items : List Item) :
    (firstOccurrences key seen items).Sublist items := by
  induction items generalizing seen with
  | nil => exact List.Sublist.refl []
  | cons item items induction =>
      rw [firstOccurrences]
      split_ifs
      · exact (induction _).cons item
      · exact (induction _).cons_cons item

theorem mem_map_firstOccurrences (seen : List Key) (items : List Item) (value : Key) :
    value ∈ (firstOccurrences key seen items).map key ↔ value ∈ items.map key ∧ value ∉ seen := by
  induction items generalizing seen with
  | nil => exact iff_of_false List.not_mem_nil fun both => List.not_mem_nil both.1
  | cons item items induction =>
      rw [firstOccurrences]
      split_ifs with already
      · rw [induction, List.map_cons, List.mem_cons, List.mem_cons]
        constructor
        · rintro ⟨later, new⟩
          exact ⟨Or.inr later, fun old => new (Or.inr old)⟩
        · rintro ⟨rfl | later, new⟩
          · exact absurd already new
          · refine ⟨later, ?_⟩
            rintro (rfl | old)
            · exact new already
            · exact new old
      · rw [List.map_cons, List.mem_cons, induction, List.map_cons, List.mem_cons, List.mem_cons]
        constructor
        · rintro (rfl | ⟨later, new⟩)
          · exact ⟨Or.inl rfl, already⟩
          · exact ⟨Or.inr later, fun old => new (Or.inr old)⟩
        · rintro ⟨rfl | later, new⟩
          · exact Or.inl rfl
          · by_cases isItem : value = key item
            · exact Or.inl isItem
            · exact Or.inr ⟨later, fun old => old.elim isItem new⟩

theorem nodup_map_firstOccurrences (seen : List Key) (items : List Item) :
    ((firstOccurrences key seen items).map key).Nodup := by
  induction items generalizing seen with
  | nil => exact List.nodup_nil
  | cons item items induction =>
      rw [firstOccurrences]
      split_ifs
      · exact induction _
      · rw [List.map_cons]
        refine List.nodup_cons.mpr ⟨fun later => ?_, induction _⟩
        exact ((mem_map_firstOccurrences key _ _ _).mp later).2 List.mem_cons_self

end FirstOccurrences

/-- The loop's turn: an entry for the item, unless the list has its key. -/
def addNew (entryOf : Item → Listed) (keyOf : Listed → Key) (item : Item)
    (list : List Listed) : List Listed :=
  if list.any fun listed => decide (keyOf listed = keyOf (entryOf item)) then list
  else list ++ [entryOf item]

section Loops

variable {entryOf : Item → Listed} {keyOf : Listed → Key}

theorem mem_map_addNew (item : Item) (list : List Listed) (value : Key) :
    value ∈ (addNew entryOf keyOf item list).map keyOf ↔
      value = keyOf (entryOf item) ∨ value ∈ list.map keyOf := by
  rw [addNew]
  split_ifs with listed
  · obtain ⟨entry, member, same⟩ := List.any_eq_true.mp listed
    have already : keyOf (entryOf item) ∈ list.map keyOf :=
      List.mem_map.mpr ⟨entry, member, of_decide_eq_true same⟩
    constructor
    · exact Or.inr
    · rintro (rfl | old)
      · exact already
      · exact old
  · rw [List.map_append, List.mem_append, List.map_singleton, List.mem_singleton, or_comm]

/-- The invariant of the loop: the keys in the list are those seen so far. -/
theorem foldl_addNew {seen : List Key} {list : List Listed} (items : List Item)
    (keys : ∀ value, value ∈ list.map keyOf ↔ value ∈ seen) :
    items.foldl (fun list item => addNew entryOf keyOf item list) list =
      list ++ (firstOccurrences (fun item => keyOf (entryOf item)) seen items).map entryOf := by
  induction items generalizing seen list with
  | nil => exact (List.append_nil list).symm
  | cons item items induction =>
      have next : ∀ value, value ∈ (addNew entryOf keyOf item list).map keyOf ↔
          value ∈ keyOf (entryOf item) :: seen := by
        intro value
        rw [mem_map_addNew, List.mem_cons, keys]
      have isListed : list.any (fun listed => decide (keyOf listed = keyOf (entryOf item))) = true ↔
          keyOf (entryOf item) ∈ seen := by
        rw [← keys, List.mem_map, List.any_eq_true]
        simp only [decide_eq_true_eq]
      rw [List.foldl_cons, induction next, firstOccurrences]
      by_cases already : keyOf (entryOf item) ∈ seen
      · rw [if_pos already, addNew, if_pos (isListed.mpr already)]
      · rw [if_neg already, addNew, if_neg (isListed.not.mpr already), List.map_cons,
          List.append_assoc, List.singleton_append]

end Loops

end StudyDemo.Distinct
