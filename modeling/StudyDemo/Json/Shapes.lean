import StudyDemo.Json.Tokener

/-! # The shape of values

How deep the arrays and objects of a value stand in each other, and that its objects have
keys as C strings can be, each of them once. -/

namespace StudyDemo.Json

open CMemory

variable {Double : Type}

namespace Value

mutual

/-- The levels of the tokener that a value needs below its own. -/
def height : Value Double → Nat
  | .array values => itemsHeight values
  | .object entries => entriesHeight entries
  | _ => 0

def itemsHeight : List (Value Double) → Nat
  | [] => 0
  | value :: values => max (height value + 1) (itemsHeight values)

def entriesHeight : List (Text × Value Double) → Nat
  | [] => 0
  | (_, value) :: entries => max (height value + 1) (entriesHeight entries)

end

mutual

/-- The keys of every object are distinct and without zeros. -/
def Keyed : Value Double → Prop
  | .array values => ItemsKeyed values
  | .object entries => (entries.map Prod.fst).Nodup ∧ EntriesKeyed entries
  | _ => True

def ItemsKeyed : List (Value Double) → Prop
  | [] => True
  | value :: values => Keyed value ∧ ItemsKeyed values

def EntriesKeyed : List (Text × Value Double) → Prop
  | [] => True
  | (key, value) :: entries => 0 ∉ key ∧ Keyed value ∧ EntriesKeyed entries

end

end Value

section Items

variable {values : List (Value Double)} {entries : List (Text × Value Double)}

theorem itemsHeight_le_iff {limit : Nat} :
    Value.itemsHeight values ≤ limit ↔ ∀ value ∈ values, value.height + 1 ≤ limit := by
  induction values with
  | nil => simp [Value.itemsHeight]
  | cons value values induction => simp [Value.itemsHeight, induction]

theorem entriesHeight_le_iff {limit : Nat} :
    Value.entriesHeight entries ≤ limit ↔ ∀ entry ∈ entries, entry.2.height + 1 ≤ limit := by
  induction entries with
  | nil => simp [Value.entriesHeight]
  | cons entry entries induction => simp [Value.entriesHeight, induction]

theorem itemsKeyed_iff : Value.ItemsKeyed values ↔ ∀ value ∈ values, value.Keyed := by
  induction values with
  | nil => simp [Value.ItemsKeyed]
  | cons value values induction => simp [Value.ItemsKeyed, induction]

theorem entriesKeyed_iff :
    Value.EntriesKeyed entries ↔ ∀ entry ∈ entries, 0 ∉ entry.1 ∧ entry.2.Keyed := by
  induction entries with
  | nil => simp [Value.EntriesKeyed]
  | cons entry entries induction => simp [Value.EntriesKeyed, induction, and_assoc]

end Items

/-! ## Values that fit into a level -/

/-- A value that the tokener can have built at a level of its stack. -/
structure Fits (maxDepth depth : Nat) (value : Value Double) : Prop where
  height : value.height + depth + 1 ≤ maxDepth
  keyed : value.Keyed

section Building

variable {maxDepth depth : Nat} {current obj : Value Double}

theorem fits_arrayAdd (fits : Fits maxDepth depth current) (item : Fits maxDepth (depth + 1) obj) :
    Fits maxDepth depth (current.arrayAdd obj) := by
  cases current with
  | array values =>
      have height := fits.height
      have room := item.height
      have low := itemsHeight_le_iff.mp (Nat.le_refl (Value.itemsHeight values))
      refine ⟨?_, ?_⟩
      · simp only [Value.arrayAdd, Value.height] at height ⊢
        have bound : Value.itemsHeight (values ++ [obj]) ≤ maxDepth - depth - 1 := by
          rw [itemsHeight_le_iff]
          intro value member
          rcases List.mem_append.mp member with member | member
          · have := low value member
            omega
          · rw [List.mem_singleton.mp member]
            omega
        omega
      · have keyed := fits.keyed
        simp only [Value.arrayAdd, Value.Keyed, itemsKeyed_iff, List.mem_append,
          List.mem_singleton] at keyed ⊢
        rintro value (member | rfl)
        · exact keyed value member
        · exact item.keyed
  | _ => exact fits

theorem entries_add_mem {entries : List (Text × Value Double)} {key : Text}
    {entry : Text × Value Double} (member : entry ∈ Entries.add entries key obj) :
    entry ∈ entries ∨ entry = (key, obj) := by
  rw [Entries.add] at member
  split_ifs at member with old
  · obtain ⟨before, isBefore, rfl⟩ := List.mem_map.mp member
    split_ifs
    · exact Or.inr rfl
    · exact Or.inl isBefore
  · simpa using member

theorem entries_add_nodup {entries : List (Text × Value Double)} {key : Text}
    (distinct : (entries.map Prod.fst).Nodup) :
    ((Entries.add entries key obj).map Prod.fst).Nodup := by
  rw [Entries.add]
  split_ifs with old
  · have same : (entries.map fun entry => if entry.1 = key then (key, obj) else entry).map
        Prod.fst = entries.map Prod.fst := by
      rw [List.map_map]
      refine List.map_congr_left fun entry _ => ?_
      rw [Function.comp_apply]
      split_ifs with isKey
      · exact isKey.symm
      · rfl
    rwa [same]
  · rw [List.map_append, List.nodup_append]
    refine ⟨distinct, List.nodup_singleton _, fun first isFirst second isSecond same => ?_⟩
    have isKey : first = key := same.trans (List.mem_singleton.mp isSecond)
    rw [isKey] at isFirst
    exact old isFirst

theorem fits_objectAdd {key : Text} (fits : Fits maxDepth depth current)
    (item : Fits maxDepth (depth + 1) obj) (noZero : 0 ∉ key) :
    Fits maxDepth depth (current.objectAdd key obj) := by
  cases current with
  | object entries =>
      have height := fits.height
      have room := item.height
      have low := entriesHeight_le_iff.mp (Nat.le_refl (Value.entriesHeight entries))
      refine ⟨?_, ?_⟩
      · simp only [Value.objectAdd, Value.height] at height ⊢
        have bound : Value.entriesHeight (Entries.add entries key obj) ≤ maxDepth - depth - 1 := by
          rw [entriesHeight_le_iff]
          intro entry member
          rcases entries_add_mem member with member | rfl
          · have := low entry member
            omega
          · simp only
            omega
        omega
      · have keyed := fits.keyed
        simp only [Value.objectAdd, Value.Keyed, entriesKeyed_iff] at keyed ⊢
        refine ⟨entries_add_nodup keyed.1, fun entry member => ?_⟩
        rcases entries_add_mem member with member | rfl
        · exact keyed.2 entry member
        · exact ⟨noZero, item.keyed⟩
  | _ => exact fits

end Building

end StudyDemo.Json
