import Mathlib.Data.List.Basic
import Mathlib.Order.Bounds.Basic

/-! # The first gap of a sorted list

Counting up along a sorted list until the count and the list differ finds the least
number that the list leaves out. -/

namespace StudyDemo.Gaps

def firstGap : Nat → List Nat → Nat
  | start, [] => start
  | start, value :: values => if start = value then firstGap (start + 1) values else start

theorem firstGap_le (start : Nat) (values : List Nat) :
    firstGap start values ≤ start + values.length := by
  induction values generalizing start with
  | nil => exact Nat.le_refl start
  | cons value values induction =>
      have later := induction (start + 1)
      rw [firstGap, List.length_cons]
      split_ifs <;> omega

theorem firstGap_isLeast {start : Nat} {values : List Nat} (sorted : values.Pairwise (· < ·))
    (above : ∀ value ∈ values, start ≤ value) :
    IsLeast {gap | start ≤ gap ∧ gap ∉ values} (firstGap start values) := by
  induction values generalizing start with
  | nil => exact ⟨⟨Nat.le_refl start, List.not_mem_nil⟩, fun gap isGap => isGap.1⟩
  | cons value values induction =>
      obtain ⟨first, rest⟩ := List.pairwise_cons.mp sorted
      rw [firstGap]
      split_ifs with equal
      · subst equal
        have next : ∀ later ∈ values, start + 1 ≤ later := first
        obtain ⟨⟨low, absent⟩, least⟩ := induction rest next
        refine ⟨⟨by omega, ?_⟩, ?_⟩
        · intro member
          rcases List.mem_cons.mp member with isFirst | later
          · omega
          · exact absent later
        · rintro gap ⟨low, absent⟩
          apply least
          have notFirst : gap ≠ start := fun isFirst => absent (isFirst ▸ List.mem_cons_self)
          exact ⟨by omega, fun later => absent (List.mem_cons_of_mem start later)⟩
      · have low := above value List.mem_cons_self
        refine ⟨⟨Nat.le_refl start, ?_⟩, fun gap isGap => isGap.1⟩
        intro member
        rcases List.mem_cons.mp member with isFirst | later
        · exact equal isFirst
        · have := first start later
          omega

theorem le_firstGap (start : Nat) (values : List Nat) : start ≤ firstGap start values := by
  induction values generalizing start with
  | nil => exact Nat.le_refl start
  | cons value values induction =>
      have later := induction (start + 1)
      rw [firstGap]
      split_ifs <;> omega

/-- The list has a number before the first one, or has a number twice, and leaves out
none up to the next number. -/
def Crowded (start : Nat) (values : List Nat) : Prop :=
  (start ∈ values ∧ ∃ low < start, low ∈ values) ∨
    ∃ twice ≥ start, 2 ≤ values.count twice ∧
      ∀ value, start ≤ value → value ≤ twice + 1 → value ∈ values

theorem crowded_cons {start : Nat} {values : List Nat} (first : ∀ value ∈ values, start ≤ value) :
    Crowded start (start :: values) ↔ Crowded (start + 1) values := by
  have inside : ∀ value, start < value → value ∈ start :: values → value ∈ values := by
    intro value above member
    rcases List.mem_cons.mp member with isStart | later
    · omega
    · exact later
  constructor
  · rintro (⟨-, low, below, member⟩ | ⟨twice, above, repeated, covered⟩)
    · rcases List.mem_cons.mp member with isStart | later
      · omega
      · have := first low later
        omega
    · rcases Nat.eq_or_lt_of_le above with isStart | above
      · subst isStart
        rw [List.count_cons_self] at repeated
        have again : start ∈ values := List.count_pos_iff.mp (by omega)
        have next := covered (start + 1) (by omega) (Nat.le_refl _)
        exact Or.inl ⟨inside _ (by omega) next, start, by omega, again⟩
      · rw [List.count_cons_of_ne (by omega)] at repeated
        refine Or.inr ⟨twice, above, repeated, fun value low high => ?_⟩
        exact inside value low (covered value (by omega) high)
  · rintro (⟨next, low, below, member⟩ | ⟨twice, above, repeated, covered⟩)
    · have least := first low member
      obtain rfl : low = start := by omega
      have again := List.count_pos_iff.mpr member
      refine Or.inr ⟨low, Nat.le_refl low, ?_, fun value bound high => ?_⟩
      · rw [List.count_cons_self]
        omega
      · rcases Nat.eq_or_lt_of_le bound with isStart | above
        · exact isStart ▸ List.mem_cons_self
        · obtain rfl : value = low + 1 := by omega
          exact List.mem_cons_of_mem low next
    · refine Or.inr ⟨twice, by omega, ?_, fun value bound high => ?_⟩
      · rw [List.count_cons_of_ne (by omega)]
        exact repeated
      · rcases Nat.eq_or_lt_of_le bound with isStart | above
        · exact isStart ▸ List.mem_cons_self
        · exact List.mem_cons_of_mem start (covered value above high)

theorem firstGap_mem_iff {start : Nat} {values : List Nat} (sorted : values.Pairwise (· ≤ ·)) :
    firstGap start values ∈ values ↔ Crowded start values := by
  induction values generalizing start with
  | nil => simp [Crowded]
  | cons value values induction =>
      obtain ⟨first, rest⟩ := List.pairwise_cons.mp sorted
      rw [firstGap]
      split_ifs with equal
      · subst equal
        have above := le_firstGap (start + 1) values
        have notFirst : firstGap (start + 1) values ≠ start := by omega
        rw [List.mem_cons, or_iff_right notFirst, induction rest, crowded_cons first]
      · constructor
        · intro member
          have later := (List.mem_cons.mp member).resolve_left equal
          have below := first start later
          exact Or.inl ⟨member, value, by omega, List.mem_cons_self⟩
        · rintro (⟨member, -⟩ | ⟨twice, above, -, covered⟩)
          · exact member
          · exact covered start (Nat.le_refl start) (by omega)

end StudyDemo.Gaps
