import Mathlib.Data.List.Perm.Basic
import Mathlib.Data.List.Nodup
import Mathlib.Data.List.Count
import Mathlib.Tactic.Common

/-! # Following links to keyed rows

The rows that a list of links names, one entry for each link. The rows have different
keys, so such lists are told apart by how often each row is named. -/

namespace StudyDemo.Joins

variable {Link Row Key Entry : Type*} [DecidableEq Key]

/-- The rows that the links name. -/
def follow (keyOf : Row → Key) (names : Link → Key → Bool) (rows : List Row)
    (links : List Link) : List Row :=
  links.flatMap fun link => rows.filter fun row => names link (keyOf row)

variable {keyOf : Row → Key} {names : Link → Key → Bool} {rows : List Row}

omit [DecidableEq Key] in
theorem mem_of_mem_follow {links : List Link} {row : Row}
    (member : row ∈ follow keyOf names rows links) :
    row ∈ rows ∧ ∃ link ∈ links, names link (keyOf row) = true := by
  obtain ⟨link, isLink, inside⟩ := List.mem_flatMap.mp member
  exact ⟨List.mem_of_mem_filter inside, link, isLink, (List.mem_filter.mp inside).2⟩

theorem count_follow (distinct : (rows.map keyOf).Nodup) {row : Row} (member : row ∈ rows)
    (links : List Link) :
    ((follow keyOf names rows links).map keyOf).count (keyOf row) =
      links.countP fun link => names link (keyOf row) := by
  have one : ∀ link, ((rows.filter fun other => names link (keyOf other)).map keyOf).count
      (keyOf row) = if names link (keyOf row) then 1 else 0 := by
    intro link
    have kept : (rows.filter fun other => names link (keyOf other)).map keyOf =
        (rows.map keyOf).filter (names link) := List.filter_map.symm
    rw [kept]
    split_ifs with named
    · rw [List.count_filter named]
      exact List.count_eq_one_of_mem distinct (List.mem_map_of_mem member)
    · exact List.count_eq_zero_of_not_mem fun inside => named (List.of_mem_filter inside)
  induction links with
  | nil => rfl
  | cons link links induction =>
      rw [follow] at induction ⊢
      rw [List.flatMap_cons, List.map_append, List.count_append, induction, one, List.countP_cons,
        Nat.add_comm]

theorem exists_rowOf (distinct : (rows.map keyOf).Nodup) :
    ∃ rowOf : Key → Option Row, ∀ row ∈ rows, rowOf (keyOf row) = some row := by
  refine ⟨fun key => rows.find? fun row => keyOf row = key, fun row member => ?_⟩
  have found : (rows.find? fun other => keyOf other = keyOf row).isSome := by
    rw [List.find?_isSome]
    exact ⟨row, member, decide_eq_true rfl⟩
  obtain ⟨other, isOther⟩ := Option.isSome_iff_exists.mp found
  have same := (List.find?_eq_some_iff_append.mp isOther).1
  have isRow := List.inj_on_of_nodup_map distinct (List.mem_of_find?_eq_some isOther) member
    (of_decide_eq_true same)
  exact isOther.trans (congrArg some isRow)

theorem perm_of_keys (distinct : (rows.map keyOf).Nodup) {left right : List Row}
    (isLeft : left ⊆ rows) (isRight : right ⊆ rows)
    (keys : (left.map keyOf).Perm (right.map keyOf)) : left.Perm right := by
  obtain ⟨rowOf, isRow⟩ := exists_rowOf distinct
  have back : ∀ list : List Row, list ⊆ rows → (list.map keyOf).filterMap rowOf = list := by
    intro list inside
    rw [List.filterMap_map]
    induction list with
    | nil => rfl
    | cons row list induction =>
        obtain ⟨first, rest⟩ := List.cons_subset.mp inside
        have isFirst : (rowOf ∘ keyOf) row = some row := isRow row first
        rw [List.filterMap_cons_some isFirst, induction rest]
  have rowsPerm := keys.filterMap rowOf
  rwa [back left isLeft, back right isRight] at rowsPerm

/-- Two lists of links give the same entries if and only if each row is named as often
by the one as by the other. The key must be read back from an entry. -/
theorem perm_map_follow_iff (distinct : (rows.map keyOf).Nodup) {entryOf : Row → Entry}
    (keyBack : Entry → Key) {left right : List Link}
    (reads : ∀ link ∈ left ++ right, ∀ row ∈ rows, names link (keyOf row) = true →
      keyBack (entryOf row) = keyOf row) :
    ((follow keyOf names rows left).map entryOf).Perm
        ((follow keyOf names rows right).map entryOf) ↔
      ∀ row ∈ rows, (left.countP fun link => names link (keyOf row)) =
        right.countP fun link => names link (keyOf row) := by
  have keys : ∀ links ⊆ left ++ right, ((follow keyOf names rows links).map entryOf).map keyBack =
      (follow keyOf names rows links).map keyOf := by
    intro links inside
    rw [List.map_map]
    apply List.map_congr_left
    intro row member
    obtain ⟨isRow, link, isLink, named⟩ := mem_of_mem_follow member
    exact reads link (inside isLink) row isRow named
  constructor
  · intro perm row member
    have keysPerm := perm.map keyBack
    rw [keys left (List.subset_append_left _ _), keys right (List.subset_append_right _ _)]
      at keysPerm
    have counts := keysPerm.count_eq (keyOf row)
    rwa [count_follow distinct member, count_follow distinct member] at counts
  · intro counts
    refine (perm_of_keys distinct (fun row member => (mem_of_mem_follow member).1)
      (fun row member => (mem_of_mem_follow member).1) ?_).map entryOf
    rw [List.perm_iff_count]
    intro key
    by_cases held : key ∈ rows.map keyOf
    · obtain ⟨row, member, rfl⟩ := List.mem_map.mp held
      rw [count_follow distinct member, count_follow distinct member]
      exact counts row member
    · have absent : ∀ links, key ∉ (follow keyOf names rows links).map keyOf := by
        intro links inside
        obtain ⟨row, member, rfl⟩ := List.mem_map.mp inside
        exact held (List.mem_map_of_mem (mem_of_mem_follow member).1)
      rw [List.count_eq_zero_of_not_mem (absent left), List.count_eq_zero_of_not_mem (absent right)]

end StudyDemo.Joins
