import Mathlib.Data.Finset.Card
import Mathlib.Data.Nat.ModEq
import Mathlib.Tactic.Common

/-! # Open addressing

A table whose keys probe its cells one after the other, each from a start of its own,
round and round. A cell that was used and freed again is not empty: a search goes on
behind it, and a new key may take it. -/

namespace StudyDemo.Probing

inductive Cell (Key : Type*)
  | empty
  | freed
  | used (key : Key)
  deriving DecidableEq

/-- The position that is reached from a start after some steps. -/
def probe (size start steps : Nat) : Nat := (start + steps) % size

/-- The position behind another, round the end of the table. -/
def follow (size position : Nat) : Nat := if position + 1 = size then 0 else position + 1

section Positions

variable {size start steps position : Nat}

theorem probe_lt (nonempty : 0 < size) : probe size start steps < size :=
  Nat.mod_lt _ nonempty

theorem follow_lt (inside : position < size) : follow size position < size := by
  rw [follow]
  split_ifs <;> omega

theorem follow_probe (nonempty : 0 < size) :
    follow size (probe size start steps) = probe size (start + 1) steps := by
  have inside := @probe_lt size start steps nonempty
  have sum : probe size (start + 1) steps = (probe size start steps + 1) % size := by
    rw [probe, probe, Nat.mod_add_mod, Nat.add_right_comm]
  rw [sum, follow]
  split_ifs with last
  · rw [last, Nat.mod_self]
  · rw [Nat.mod_eq_of_lt (by omega)]

theorem probe_succ (size start steps : Nat) :
    probe size start (steps + 1) = probe size (start + 1) steps := by
  rw [probe, probe, Nat.add_right_comm, Nat.add_assoc]

theorem probe_injective {first second : Nat} (isFirst : first < size) (isSecond : second < size)
    (same : probe size start first = probe size start second) : first = second := by
  have congruent : first ≡ second [MOD size] := Nat.ModEq.add_left_cancel' start same
  exact congruent.eq_of_lt_of_lt isFirst isSecond

theorem exists_probe (start : Nat) (inside : position < size) :
    ∃ steps < size, probe size start steps = position := by
  have nonempty : 0 < size := Nat.zero_lt_of_lt inside
  have low := Nat.mod_lt start nonempty
  refine ⟨(position + (size - start % size)) % size, Nat.mod_lt _ nonempty, ?_⟩
  rw [probe, Nat.add_mod_mod, ← Nat.mod_add_mod,
    show start % size + (position + (size - start % size)) = position + size by omega,
    Nat.add_mod_right, Nat.mod_eq_of_lt inside]

end Positions

section Search

variable {Key : Type*} (size : Nat) (cells : Nat → Cell Key)

/-- The search for a key, over so many cells. -/
def find [DecidableEq Key] (key : Key) : Nat → Nat → Option Nat
  | 0, _ => none
  | count + 1, position =>
      match cells position with
      | .empty => none
      | .freed => find key count (follow size position)
      | .used other => if other = key then some position else find key count (follow size position)

/-- The first cell that is not used. -/
def vacant : Nat → Nat → Option Nat
  | 0, _ => none
  | count + 1, position =>
      match cells position with
      | .empty => some position
      | .freed => some position
      | .used _ => vacant count (follow size position)

variable {size cells} {key : Key} {start steps position : Nat}

theorem find_sound [DecidableEq Key] (inside : position < size) {count found : Nat}
    (result : find size cells key count position = some found) :
    found < size ∧ cells found = .used key := by
  induction count generalizing position with
  | zero => simp [find] at result
  | succ count induction =>
      have next := follow_lt inside
      rw [find] at result
      cases here : cells position with
      | empty => simp [here] at result
      | freed =>
          simp only [here] at result
          exact induction next result
      | used other =>
          simp only [here] at result
          split_ifs at result with same
          · cases result
            exact ⟨inside, by rw [here, same]⟩
          · exact induction next result

theorem find_reaches [DecidableEq Key] (nonempty : 0 < size) {count : Nat} (enough : steps < count)
    (there : cells (probe size start steps) = .used key)
    (passed : ∀ earlier < steps, cells (probe size start earlier) ≠ .empty ∧
      cells (probe size start earlier) ≠ .used key) :
    find size cells key count (probe size start 0) = some (probe size start steps) := by
  induction steps generalizing start count with
  | zero =>
      cases count with
      | zero => simp at enough
      | succ count => simp [find, there]
  | succ steps induction =>
      cases count with
      | zero => simp at enough
      | succ count =>
          have here := passed 0 (Nat.succ_pos steps)
          rw [probe_succ] at there ⊢
          have rest := induction (Nat.lt_of_succ_lt_succ enough) there fun earlier before => by
            rw [← probe_succ]
            exact passed (earlier + 1) (Nat.succ_lt_succ before)
          rw [find, follow_probe nonempty]
          cases cell : cells (probe size start 0) with
          | empty => exact absurd cell here.1
          | freed => exact rest
          | used other =>
              have different : other ≠ key := fun same => here.2 (same ▸ cell)
              simpa [different] using rest

theorem vacant_reaches (nonempty : 0 < size) {count : Nat} (enough : steps < count)
    (unused : ∀ key, cells (probe size start steps) ≠ .used key) :
    ∃ first ≤ steps, vacant size cells count (probe size start 0) =
        some (probe size start first) ∧
      (∀ key, cells (probe size start first) ≠ .used key) ∧
      ∀ earlier < first, cells (probe size start earlier) ≠ .empty := by
  induction steps generalizing start count with
  | zero =>
      cases count with
      | zero => simp at enough
      | succ count =>
          refine ⟨0, Nat.le_refl 0, ?_, unused, fun earlier before => absurd before (by simp)⟩
          rw [vacant]
          cases cell : cells (probe size start 0) with
          | empty => rfl
          | freed => rfl
          | used key => exact absurd cell (unused key)
  | succ steps induction =>
      cases count with
      | zero => simp at enough
      | succ count =>
          by_cases taken : ∃ key, cells (probe size start 0) = .used key
          · obtain ⟨key, cell⟩ := taken
            rw [probe_succ] at unused
            obtain ⟨first, low, found, free, path⟩ :=
              induction (Nat.lt_of_succ_lt_succ enough) unused
            refine ⟨first + 1, Nat.succ_le_succ low, ?_, by rwa [probe_succ], ?_⟩
            · simpa [vacant, cell, follow_probe nonempty, probe_succ] using found
            · intro earlier before
              cases earlier with
              | zero => simp [cell]
              | succ earlier =>
                  rw [probe_succ]
                  exact path earlier (Nat.lt_of_succ_lt_succ before)
          · have free : ∀ key, cells (probe size start 0) ≠ .used key :=
              fun key cell => taken ⟨key, cell⟩
            refine ⟨0, Nat.zero_le _, ?_, free, fun earlier before => absurd before (by simp)⟩
            rw [vacant]
            cases cell : cells (probe size start 0) with
            | empty => rfl
            | freed => rfl
            | used key => exact absurd cell (free key)

end Search

/-! ## What keeps the keys in reach -/

/-- No key twice, and no empty cell between the start of a key and the key. -/
structure InReach {Key : Type*} (size : Nat) (start : Key → Nat) (cells : Nat → Cell Key) :
    Prop where
  once : ∀ key first second, first < size → second < size → cells first = .used key →
    cells second = .used key → first = second
  path : ∀ key position, position < size → cells position = .used key →
    ∃ steps < size, probe size (start key) steps = position ∧
      ∀ earlier < steps, cells (probe size (start key) earlier) ≠ .empty

namespace InReach

variable {Key : Type*} {size : Nat} {start : Key → Nat} {cells : Nat → Cell Key}
variable {key : Key} {position : Nat}

theorem find_eq [DecidableEq Key] (reach : InReach size start cells) (inside : position < size)
    (there : cells position = .used key) :
    find size cells key size (probe size (start key) 0) = some position := by
  obtain ⟨steps, low, rfl, path⟩ := reach.path key position inside there
  have nonempty := Nat.zero_lt_of_lt low
  refine find_reaches nonempty low there fun earlier before => ⟨path earlier before, ?_⟩
  intro other
  have same := reach.once key _ _ (probe_lt nonempty) inside other there
  exact Nat.ne_of_lt before (probe_injective (Nat.lt_trans before low) low same)

theorem find_none [DecidableEq Key] (nonempty : 0 < size)
    (absent : ∀ position < size, cells position ≠ .used key) :
    find size cells key size (probe size (start key) 0) = none := by
  cases result : find size cells key size (probe size (start key) 0) with
  | none => rfl
  | some found =>
      obtain ⟨inside, there⟩ := find_sound (probe_lt nonempty) result
      exact absurd there (absent found inside)

/-- A new key in the first cell that is not used. -/
theorem insert (reach : InReach size start cells)
    (absent : ∀ position < size, cells position ≠ .used key)
    (inside : position < size) (unused : ∀ other, cells position ≠ .used other) :
    ∃ slot < size, vacant size cells size (probe size (start key) 0) = some slot ∧
      (∀ other, cells slot ≠ .used other) ∧
      InReach size start (Function.update cells slot (.used key)) := by
  obtain ⟨steps, low, rfl⟩ := exists_probe (start key) inside
  have nonempty := Nat.zero_lt_of_lt low
  obtain ⟨first, before, found, free, path⟩ := vacant_reaches nonempty low unused
  have filled (cell : Nat) (notEmpty : cells cell ≠ .empty) :
      Function.update cells (probe size (start key) first) (.used key) cell ≠ .empty := by
    rw [Function.update_apply]
    split_ifs
    · exact nofun
    · exact notEmpty
  refine ⟨_, probe_lt nonempty, found, free, ?_, ?_⟩
  · intro other one two isOne isTwo
    have new := absent one isOne
    have new' := absent two isTwo
    simp only [Function.update_apply]
    split_ifs with same same' same'
    · exact fun _ _ => same.trans same'.symm
    · rintro ⟨⟩ there
      exact absurd there new'
    · rintro there ⟨⟩
      exact absurd there new
    · exact reach.once other one two isOne isTwo
  · intro other cell isCell
    rw [Function.update_apply]
    split_ifs with same
    · rintro ⟨⟩
      exact ⟨first, Nat.lt_of_le_of_lt before low, same.symm,
        fun earlier sooner => filled _ (path earlier sooner)⟩
    · intro there
      obtain ⟨steps, few, reached, passed⟩ := reach.path other cell isCell there
      exact ⟨steps, few, reached, fun earlier sooner => filled _ (passed earlier sooner)⟩

/-- A freed cell keeps the others in reach. -/
theorem free (reach : InReach size start cells) (slot : Nat) :
    InReach size start (Function.update cells slot .freed) where
  once := by
    intro key first second isFirst isSecond
    simp only [Function.update_apply]
    split_ifs
    · exact nofun
    · exact nofun
    · exact fun _ => nofun
    · exact reach.once key first second isFirst isSecond
  path := by
    intro key position inside
    rw [Function.update_apply]
    split_ifs
    · exact nofun
    · intro there
      obtain ⟨steps, few, reached, passed⟩ := reach.path key position inside there
      refine ⟨steps, few, reached, fun earlier sooner => ?_⟩
      rw [Function.update_apply]
      split_ifs
      · exact nofun
      · exact passed earlier sooner

theorem empty (size : Nat) (start : Key → Nat) : InReach size start fun _ => .empty where
  once := nofun
  path := nofun

end InReach

theorem exists_unused {Key : Type*} {size : Nat} {cells : Nat → Cell Key} {positions : List Nat}
    (listed : ∀ position < size, ∀ key, cells position = .used key → position ∈ positions)
    (few : positions.length < size) :
    ∃ position < size, ∀ key, cells position ≠ .used key := by
  by_contra full
  have inside : Finset.range size ⊆ positions.toFinset := by
    intro position member
    have low := Finset.mem_range.mp member
    by_contra missing
    exact full ⟨position, low, fun key there =>
      missing (List.mem_toFinset.mpr (listed position low key there))⟩
  have card := Finset.card_le_card inside
  rw [Finset.card_range] at card
  exact absurd (Nat.le_trans card (List.toFinset_card_le positions)) (Nat.not_le.mpr few)

end StudyDemo.Probing
