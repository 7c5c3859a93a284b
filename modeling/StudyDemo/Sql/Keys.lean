import Mathlib.Data.Finset.Card
import Mathlib.Order.Interval.Finset.Basic
import Mathlib.Data.Int.Interval
import StudyDemo.Sql.Relation

/-! # Keys over runs of statements

No two rows of a table ever share a key, a new row has a larger key than all the
others, and a statement changes no table but its own. -/

namespace StudyDemo.Sql

theorem Row.column_set_of_ne (row : Row) {field : Field} {position : Nat}
    (isOther : position ≠ field.1) : (row.set field).column position = row.column position := by
  rw [Row.column, Row.column, Row.set]
  dsimp only
  rw [Function.update_of_ne isOther]

namespace Table

/-- The keys of the rows are different, and were all given out. -/
structure Keyed (table : Table) : Prop where
  bounds : ∀ row ∈ table.rows, 1 ≤ row.rowid ∧ row.rowid ≤ table.sequence
  distinct : table.rows.Pairwise fun left right => left.rowid ≠ right.rowid
  sequence : 0 ≤ table.sequence

theorem le_foldl_max (rows : List Row) (start : Int) :
    start ≤ rows.foldl (fun largest row => max largest row.rowid) start ∧
      ∀ row ∈ rows, row.rowid ≤ rows.foldl (fun largest row => max largest row.rowid) start := by
  induction rows generalizing start with
  | nil => exact ⟨Int.le_refl start, fun _ member => absurd member List.not_mem_nil⟩
  | cons first rows induction =>
      obtain ⟨above, all⟩ := induction (max start first.rowid)
      rw [List.foldl_cons]
      refine ⟨Int.le_trans (Int.le_max_left _ _) above, fun row member => ?_⟩
      rcases List.mem_cons.mp member with rfl | later
      · exact Int.le_trans (Int.le_max_right _ _) above
      · exact all row later

section Keyed

variable {table : Table} (keyed : table.Keyed) (autoincrement : Bool)

include keyed

theorem Keyed.lt_nextRowid : ∀ row ∈ table.rows, row.rowid < table.nextRowid autoincrement := by
  intro row member
  have given := (keyed.bounds row member).2
  have largest := (le_foldl_max table.rows 0).2 row member
  rw [nextRowid, largestRowid]
  split_ifs <;> omega

theorem Keyed.nextRowid_pos : 1 ≤ table.nextRowid autoincrement := by
  have sequence := keyed.sequence
  have largest := (le_foldl_max table.rows 0).1
  rw [nextRowid, largestRowid]
  split_ifs <;> omega

theorem Keyed.insert (cells : Nat → Value) :
    (table.insert ⟨table.nextRowid autoincrement, cells⟩).Keyed := by
  have positive := keyed.nextRowid_pos autoincrement
  have below := keyed.lt_nextRowid autoincrement
  constructor
  · intro row member
    rw [Table.insert] at member ⊢
    rcases List.mem_append.mp member with old | new
    · have bounds := keyed.bounds row old
      exact ⟨bounds.1, Int.le_trans bounds.2 (Int.le_max_left _ _)⟩
    · rw [List.mem_singleton.mp new]
      exact ⟨positive, Int.le_max_right _ _⟩
  · rw [Table.insert, List.pairwise_append]
    refine ⟨keyed.distinct, List.pairwise_singleton _ _, fun row member other new => ?_⟩
    rw [List.mem_singleton.mp new]
    exact Int.ne_of_lt (below row member)
  · exact Int.le_trans keyed.sequence (Int.le_max_left _ _)

theorem Keyed.delete (condition : Option Field) : (table.delete condition).Keyed := by
  refine ⟨fun row member => ?_, keyed.distinct.filter _, keyed.sequence⟩
  exact keyed.bounds row (List.mem_of_mem_filter member)

theorem Keyed.update (field : Field) (condition : Option Field) :
    (table.update field condition).Keyed := by
  have same : ∀ row : Row,
      (if row.satisfies condition then row.set field else row).rowid = row.rowid := by
    intro row
    split_ifs <;> rfl
  refine ⟨fun row member => ?_, ?_, keyed.sequence⟩
  · obtain ⟨old, oldMember, rfl⟩ := List.mem_map.mp member
    rw [same]
    exact keyed.bounds old oldMember
  · apply List.pairwise_map.mpr
    simpa only [same] using keyed.distinct

theorem Keyed.length_lt : (table.rows.length : Int) < table.nextRowid autoincrement := by
  have positive := keyed.nextRowid_pos autoincrement
  have nodup : (table.rows.map Row.rowid).Nodup := List.pairwise_map.mpr keyed.distinct
  have inside : (table.rows.map Row.rowid).toFinset ⊆
      Finset.Icc 1 (table.nextRowid autoincrement - 1) := by
    intro rowid member
    obtain ⟨row, rowMember, rfl⟩ := List.mem_map.mp (List.mem_toFinset.mp member)
    have low := (keyed.bounds row rowMember).1
    have high := keyed.lt_nextRowid autoincrement row rowMember
    exact Finset.mem_Icc.mpr ⟨low, by omega⟩
  have count := Finset.card_le_card inside
  rw [List.toFinset_card_of_nodup nodup, List.length_map, Int.card_Icc] at count
  omega

end Keyed

end Table

section Statements

variable {T : Type} [DecidableEq T] {schema : Schema T} {connection next : Connection T}
  {statement : Statement T}

namespace Statement

theorem run_eq_some :
    statement.run schema connection = some next ↔
      (∀ position ∈ statement.touched schema,
        ((statement.apply schema connection).tables statement.table).Unique position) ∧
      statement.apply schema connection = next := by
  rw [run]
  split_ifs with unique
  · exact ⟨fun ran => ⟨unique, Option.some.inj ran⟩, fun done => congrArg some done.2⟩
  · exact ⟨fun ran => ran.elim, fun done => absurd done.1 unique⟩

theorem apply_tables_of_ne {other : T} (isOther : other ≠ statement.table) :
    (statement.apply schema connection).tables other = connection.tables other := by
  cases statement with
  | insert table fields => exact Function.update_of_ne isOther _ _
  | delete table condition => exact Function.update_of_ne isOther _ _
  | update table field condition => exact Function.update_of_ne isOther _ _

@[simp] theorem apply_insert_self (table : T) (fields : List Field) :
    ((insert table fields).apply schema connection).tables table =
      (connection.tables table).insert
        ⟨(connection.tables table).nextRowid (schema.autoincrement table), cellsOf fields⟩ :=
  Function.update_self _ _ _

@[simp] theorem apply_delete_self (table : T) (condition : Option Field) :
    ((delete table condition).apply schema connection).tables table =
      (connection.tables table).delete condition := Function.update_self _ _ _

@[simp] theorem apply_update_self (table : T) (field : Field) (condition : Option Field) :
    ((update table field condition).apply schema connection).tables table =
      (connection.tables table).update field condition := Function.update_self _ _ _

end Statement

/-- All tables are keyed. -/
def Connection.Keyed (connection : Connection T) : Prop :=
  ∀ table, (connection.tables table).Keyed

theorem Connection.Keyed.apply (keyed : connection.Keyed) :
    (statement.apply schema connection).Keyed := by
  intro other
  by_cases isOwn : other = statement.table
  · subst isOwn
    cases statement with
    | insert table fields =>
        rw [Statement.table, Statement.apply_insert_self]
        exact (keyed table).insert _ _
    | delete table condition =>
        rw [Statement.table, Statement.apply_delete_self]
        exact (keyed table).delete condition
    | update table field condition =>
        rw [Statement.table, Statement.apply_update_self]
        exact (keyed table).update field condition
  · rw [Statement.apply_tables_of_ne isOwn]
    exact keyed other

end Statements

end StudyDemo.Sql
