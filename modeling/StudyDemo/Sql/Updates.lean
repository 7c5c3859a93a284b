import StudyDemo.Sql.Keys

/-! # Updates

What setting columns does to a row, and what several updates with one condition do to
a table. -/

namespace StudyDemo.Sql

namespace Row

theorem column_set_self (row : Row) {position : Nat} (notKey : position ≠ 0) (value : Value) :
    (row.set (position, value)).column position = value := by
  rw [column, if_neg notKey, set]
  exact Function.update_self _ _ _

theorem eq_set_iff (row : Row) {position : Nat} (notKey : position ≠ 0) (value : Value) :
    row = row.set (position, value) ↔ row.column position = value := by
  constructor
  · intro same
    rw [same]
    exact row.column_set_self notKey value
  · rintro rfl
    rw [column, if_neg notKey, set, Function.update_eq_self]

theorem set_set (row : Row) (field : Field) : (row.set field).set field = row.set field := by
  rw [set, set]
  dsimp only
  rw [Function.update_idem]

theorem satisfies_set (row : Row) {key field : Field} (isOther : key.1 ≠ field.1) :
    (row.set field).satisfies (some key) = row.satisfies (some key) := by
  rw [satisfies, satisfies, row.column_set_of_ne isOther]

theorem column_foldl_set_of_ne (row : Row) {fields : List Field} {position : Nat}
    (isOther : ∀ field ∈ fields, position ≠ field.1) :
    (fields.foldl set row).column position = row.column position := by
  induction fields generalizing row with
  | nil => rfl
  | cons field fields induction =>
      rw [List.foldl_cons,
        induction _ fun other member => isOther other (List.mem_cons_of_mem _ member)]
      exact row.column_set_of_ne (isOther field List.mem_cons_self)

theorem column_foldl_set_of_mem (row : Row) {fields : List Field}
    (distinct : (fields.map Prod.fst).Nodup) (notKeys : ∀ field ∈ fields, field.1 ≠ 0)
    {field : Field} (member : field ∈ fields) :
    (fields.foldl set row).column field.1 = field.2 := by
  induction fields generalizing row with
  | nil => cases member
  | cons first fields induction =>
      rw [List.map_cons, List.nodup_cons] at distinct
      rw [List.foldl_cons]
      rcases List.mem_cons.mp member with rfl | later
      · have isOther : ∀ other ∈ fields, field.1 ≠ other.1 := by
          intro other inside same
          rw [same] at distinct
          exact distinct.1 (List.mem_map_of_mem inside)
        rw [column_foldl_set_of_ne _ isOther]
        exact row.column_set_self (notKeys field List.mem_cons_self) field.2
      · exact induction _ distinct.2
          (fun other inside => notKeys other (List.mem_cons_of_mem _ inside)) later

end Row

variable {T : Type} [DecidableEq T]

theorem foldl_update (schema : Schema T) (connection : Connection T) (table : T) {key : Field}
    {fields : List Field} (isOther : ∀ field ∈ fields, key.1 ≠ field.1) :
    let after := fields.foldl (fun connection field =>
      (Statement.update table field (some key)).apply schema connection) connection
    (after.tables table).rows = (connection.tables table).rows.map (fun row =>
        if row.satisfies (some key) then fields.foldl Row.set row else row) ∧
      ∀ other, other ≠ table → after.tables other = connection.tables other := by
  induction fields generalizing connection with
  | nil =>
      refine ⟨?_, fun _ _ => rfl⟩
      simp only [List.foldl_nil, ite_self, List.map_id']
  | cons field fields induction =>
      have notOther := isOther field List.mem_cons_self
      obtain ⟨rows, others⟩ := induction
        ((Statement.update table field (some key)).apply schema connection)
        fun other member => isOther other (List.mem_cons_of_mem _ member)
      refine ⟨?_, fun other notOwn => (others other notOwn).trans
        (Statement.apply_tables_of_ne notOwn)⟩
      rw [List.foldl_cons]
      rw [rows, Statement.apply_update_self, Table.update, List.map_map]
      apply List.map_congr_left
      intro row _
      rw [Function.comp_apply]
      by_cases isMeant : row.satisfies (some key) = true
      · rw [if_pos isMeant, row.satisfies_set notOther, if_pos isMeant, if_pos isMeant,
          List.foldl_cons]
      · rw [if_neg isMeant, if_neg isMeant, if_neg isMeant]

end StudyDemo.Sql
