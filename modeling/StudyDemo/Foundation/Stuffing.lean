import Mathlib.Data.List.Basic

/-! # Byte stuffing

A stream in which some values are reserved: a reserved value is sent as an
escape value followed by its changed form. The receiving side carries one flag
between values, so that it can be cut anywhere. -/

namespace StudyDemo.Foundation

/-- How reserved values are written. -/
structure Stuffing (α : Type*) where
  escape : α
  reserved : α → Bool
  change : α → α
  change_change : ∀ value, change (change value) = value
  change_reserved : ∀ value, reserved value → reserved (change value) = false
  escape_reserved : reserved escape

namespace Stuffing

variable {α : Type*} (code : Stuffing α)

/-- The values sent for one value. -/
def stuffOne (value : α) : List α :=
  if code.reserved value then [code.escape, code.change value] else [value]

def stuff (values : List α) : List α := values.flatMap code.stuffOne

@[simp] theorem stuff_cons (value : α) (values : List α) :
    code.stuff (value :: values) = code.stuffOne value ++ code.stuff values := rfl

theorem stuff_append (left right : List α) :
    code.stuff (left ++ right) = code.stuff left ++ code.stuff right :=
  List.flatMap_append

theorem length_stuff_le (values : List α) : (code.stuff values).length ≤ 2 * values.length := by
  induction values with
  | nil => exact Nat.le_refl 0
  | cons value values induction =>
      have one : (code.stuffOne value).length ≤ 2 := by
        rw [stuffOne]
        split_ifs
        · exact Nat.le_refl 2
        · exact Nat.le_succ 1
      rw [stuff_cons, List.length_append, List.length_cons]
      omega

/-- On the wire the only reserved value is the escape. -/
theorem eq_escape_of_mem_stuff {values : List α} {sent : α} (member : sent ∈ code.stuff values)
    (isReserved : code.reserved sent) : sent = code.escape := by
  induction values with
  | nil => cases member
  | cons value values induction =>
      rw [stuff_cons, List.mem_append] at member
      rcases member with here | later
      · rw [stuffOne] at here
        split_ifs at here with escaped
        · rcases List.mem_cons.mp here with first | second
          · exact first
          · rw [List.mem_singleton.mp second, code.change_reserved value escaped] at isReserved
            exact absurd isReserved Bool.false_ne_true
        · rw [List.mem_singleton.mp here] at isReserved
          exact absurd isReserved escaped
      · exact induction later

section Receiving

variable [DecidableEq α]

/-- Whether the last value was an escape, given the flag before the values. -/
def pending : Bool → List α → Bool
  | flag, [] => flag
  | _, value :: values =>
      pending (decide (value = code.escape)) values

/-- The values that the sent ones stand for. -/
def unstuff : Bool → List α → List α
  | _, [] => []
  | flag, value :: values =>
      if value = code.escape then unstuff true values
      else (if flag then code.change value else value) :: unstuff false values

@[simp] theorem unstuff_nil (flag : Bool) : code.unstuff flag [] = [] := rfl

theorem unstuff_escape (flag : Bool) : code.unstuff flag [code.escape] = [] := if_pos rfl

theorem unstuff_singleton (flag : Bool) {value : α} (plain : value ≠ code.escape) :
    code.unstuff flag [value] = [if flag then code.change value else value] := if_neg plain

theorem pending_singleton (flag : Bool) (value : α) :
    code.pending flag [value] = decide (value = code.escape) := rfl

theorem pending_append (flag : Bool) (left right : List α) :
    code.pending flag (left ++ right) = code.pending (code.pending flag left) right := by
  induction left generalizing flag with
  | nil => rfl
  | cons value left induction =>
      exact induction (decide (value = code.escape))

theorem unstuff_append (flag : Bool) (left right : List α) :
    code.unstuff flag (left ++ right) =
      code.unstuff flag left ++ code.unstuff (code.pending flag left) right := by
  induction left generalizing flag with
  | nil => rfl
  | cons value left induction =>
      by_cases isEscape : value = code.escape
      · rw [List.cons_append, unstuff, if_pos isEscape, unstuff, if_pos isEscape, pending,
          decide_eq_true isEscape]
        exact induction true
      · rw [List.cons_append, unstuff, if_neg isEscape, unstuff, if_neg isEscape, pending,
          decide_eq_false isEscape, List.cons_append]
        exact congrArg _ (induction false)

theorem unstuff_of_not_mem {values : List α} (plain : code.escape ∉ values) :
    code.unstuff false values = values := by
  induction values with
  | nil => rfl
  | cons value values induction =>
      have isPlain : value ≠ code.escape := fun equal => plain (equal ▸ List.mem_cons_self)
      rw [unstuff, if_neg isPlain, induction fun member =>
        plain (List.mem_cons_of_mem _ member)]
      rfl

theorem unstuff_stuffOne (value : α) :
    code.unstuff false (code.stuffOne value) = [value] ∧
      code.pending false (code.stuffOne value) = false := by
  rw [stuffOne]
  split_ifs with escaped
  · have changed : code.change value ≠ code.escape := by
      intro equal
      have plain := code.change_reserved value escaped
      rw [equal, code.escape_reserved] at plain
      exact absurd plain.symm Bool.false_ne_true
    simp [unstuff, pending, changed, code.change_change]
  · have plain : value ≠ code.escape := by
      intro equal
      exact escaped (equal ▸ code.escape_reserved)
    simp [unstuff, pending, plain]

theorem unstuff_stuff (values : List α) :
    code.unstuff false (code.stuff values) = values ∧
      code.pending false (code.stuff values) = false := by
  induction values with
  | nil => exact ⟨rfl, rfl⟩
  | cons value values induction =>
      obtain ⟨received, closed⟩ := code.unstuff_stuffOne value
      rw [stuff_cons, unstuff_append, pending_append, received, closed, induction.1]
      exact ⟨rfl, induction.2⟩

end Receiving

end Stuffing

end StudyDemo.Foundation
