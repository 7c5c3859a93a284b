import Mathlib.Data.Int.ModEq
import StudyDemo.Sqlite.Results

/-! # Links between tables

The list tables link the rows of two other tables by their keys, which the structs
hold in 16 bits. A search joins the tables row by row. -/

namespace StudyDemo.Sqlite

open Sql Execution

/-! ## Cells of links -/

/-- The tables whose columns are keys of other tables. -/
def linkTables : List TableName := [.sceneDeviceTable, .profileListTable, .roomListTable]

/-- The value is a key in 16 bits. -/
def IsIndex (value : Value) : Prop := ∃ index : uint16, value = .integer index.toNat

def IsLink (row : Row) : Prop := IsIndex (row.column 1) ∧ IsIndex (row.column 2)

/-- Every row of a list table is a link. -/
def Linked (connection : Connection TableName) : Prop :=
  ∀ table ∈ linkTables, ∀ row ∈ (connection.tables table).rows, IsLink row

theorem fieldsOf_pair (format : List String) (first second : Argument) :
    fieldsOf ⟨format, [first, second]⟩ = [(1, first.value), (2, second.value)] := rfl

/-- What an operation does to a list table. -/
inductive LinkStatement (table : TableName) : Statement TableName → Prop
  | insert (first second : uint16) :
      LinkStatement table (.insert table [(1, .integer first.toNat), (2, .integer second.toNat)])
  | delete (condition : Option Field) : LinkStatement table (.delete table condition)
  | update (position : Nat) (index : uint16) (condition : Option Field) :
      LinkStatement table (.update table (position, .integer index.toNat) condition)

theorem linkStatement_insert (table : TableName) (format : List String)
    (first second : uint16) :
    LinkStatement table (.insert table (fieldsOf ⟨format, [promoted first, promoted second]⟩)) := by
  rw [fieldsOf_pair, promoted_value, promoted_value]
  exact .insert first second

theorem linkStatement_update {table : TableName} {key : Field} {selected : Bool}
    {position : Nat} {index : uint16} {statement : Statement TableName}
    (member : statement ∈
      updateStatements table key [(selected, (position, (promoted index).value))]) :
    LinkStatement table statement := by
  obtain ⟨column, isColumn, rfl⟩ := mem_updateStatements member
  rw [List.mem_singleton.mp isColumn, promoted_value]
  exact .update position index _

theorem Operation.linkStatements (operation : Operation) (groupId : uint32) :
    ∀ statement ∈ operation.statements groupId, statement.table ∈ linkTables →
      LinkStatement statement.table statement := by
  intro statement member isLink
  have isTable := operation.statement_table groupId statement member
  have isListTable := isTable ▸ isLink
  rw [isTable]
  cases operation with
  | sceneDeviceTableAddRecord sceneDeviceData =>
      rw [List.mem_singleton.mp member]
      exact linkStatement_insert _ _ _ _
  | profileListTableAddRecord profileListData =>
      rw [List.mem_singleton.mp member]
      exact linkStatement_insert _ _ _ _
  | roomListTableAddRecord roomListData =>
      rw [List.mem_singleton.mp member]
      exact linkStatement_insert _ _ _ _
  | sceneDeviceTableDelete sceneDeviceData => exact List.mem_singleton.mp member ▸ .delete _
  | sceneDeviceTableClear => exact List.mem_singleton.mp member ▸ .delete _
  | profileListTableDelete profileListData => exact List.mem_singleton.mp member ▸ .delete _
  | profileListTableClear => exact List.mem_singleton.mp member ▸ .delete _
  | profileListTableUpdate profileListData maskcode => exact linkStatement_update member
  | roomListTableDelete roomListData => exact List.mem_singleton.mp member ▸ .delete _
  | roomListTableDeleteUnderDevice roomListData =>
      exact List.mem_singleton.mp member ▸ .delete _
  | roomListTableUpdate roomListData maskcode => exact linkStatement_update member
  | roomListTableClear => exact List.mem_singleton.mp member ▸ .delete _
  | _ => exact absurd isListTable (by simp [linkTables, Operation.table])

theorem IsLink.set {row : Row} (isLink : IsLink row) (position : Nat) (index : uint16) :
    IsLink (row.set (position, .integer index.toNat)) := by
  have column : ∀ other, other ≠ 0 → IsIndex (row.column other) →
      IsIndex ((row.set (position, .integer index.toNat)).column other) := by
    intro other positive isIndex
    by_cases isSet : other = position
    · subst isSet
      refine ⟨index, ?_⟩
      rw [Row.column, if_neg positive]
      exact Function.update_self _ _ _
    · rw [row.column_set_of_ne isSet]
      exact isIndex
  exact ⟨column 1 (by decide) isLink.1, column 2 (by decide) isLink.2⟩

theorem Linked.apply {layout : Layout} {connection : Connection TableName}
    (linked : Linked connection) {statement : Statement TableName}
    (link : statement.table ∈ linkTables → LinkStatement statement.table statement) :
    Linked (statement.apply layout.schema connection) := by
  intro table isList row member
  by_cases isOwn : table = statement.table
  · subst isOwn
    have rows := linked statement.table isList
    revert rows member
    generalize statement.table = table at link isList
    intro member rows
    cases link isList with
    | insert first second =>
        rw [Statement.apply_insert_self] at member
        rcases List.mem_append.mp member with old | new
        · exact rows row old
        · rw [List.mem_singleton.mp new]
          exact ⟨⟨first, rfl⟩, ⟨second, rfl⟩⟩
    | delete condition =>
        rw [Statement.apply_delete_self] at member
        exact rows row (List.mem_of_mem_filter member)
    | update position index condition =>
        rw [Statement.apply_update_self] at member
        obtain ⟨old, oldMember, rfl⟩ := List.mem_map.mp member
        split_ifs
        · exact (rows old oldMember).set position index
        · exact rows old oldMember
  · rw [Statement.apply_tables_of_ne isOwn] at member
    exact linked table isList row member

/-! ## Runs -/

/-- Keys are different and links are keys. -/
structure Consistent (connection : Connection TableName) : Prop where
  keyed : connection.Keyed
  linked : Linked connection

/-- The tables are empty, and no key was given out by mistake. -/
def NoRows (session : Session TableName) : Prop :=
  ∀ table, (session.connection.tables table).rows = [] ∧
    0 ≤ (session.connection.tables table).sequence

theorem consistent_of_noRows {session : Session TableName} (noRows : NoRows session) :
    Consistent session.connection := by
  constructor
  · intro table
    obtain ⟨empty, sequence⟩ := noRows table
    constructor
    · intro row member
      rw [empty] at member
      cases member
    · rw [empty]
      exact List.Pairwise.nil
    · exact sequence
  · intro table _ row member
    rw [(noRows table).1] at member
    cases member

section Runs

variable {layout : Layout} {environment : Environment layout.schema}

variable (environment) in
theorem perform_consistent {operation : Operation} (safe : operation.Safe)
    {session : Session TableName} (consistent : Consistent session.connection) :
    Consistent (perform environment session operation).connection := by
  refine perform_invariant Consistent safe (fun statement member connection holds => ?_) consistent
  exact ⟨holds.keyed.apply,
    holds.linked.apply (operation.linkStatements _ statement member)⟩

theorem consistent_performed {start : Session TableName} (noRows : NoRows start)
    {operations : List Operation} (safe : ∀ operation ∈ operations, operation.Safe) :
    Consistent (performed environment start operations).connection :=
  invariant_finalState (fun _ (operation : Operation) => operation.Safe)
    (fun session : Session TableName => Consistent session.connection)
    (fun _ _ isSafe consistent => perform_consistent environment isSafe consistent)
    (eachCall_of_allowed _ start safe) (consistent_of_noRows noRows)

end Runs

/-! ## Joins -/

section Joins

variable {layout : Layout} (environment : Environment layout.schema)

theorem quoteFree_int (value : uint32) : QuoteFree [.int value] := by
  intro characters member
  cases List.mem_singleton.mp member

theorem columnInt_isIndex {value : Value} (isIndex : IsIndex value) :
    (Argument.int (environment.engine.columnInt value)).value = value := by
  obtain ⟨index, rfl⟩ := isIndex
  have bound := index.isLt
  have isNat : (BitVec.ofInt 32 (index.toNat : Int)).toInt = index.toNat := by
    rw [BitVec.toInt_ofInt]
    exact Int.bmod_eq_of_le (by omega) (by omega)
  rw [environment.engine.columnInt_integer, Argument.int_value, isNat]

theorem columnInt_rowid (row : Row) :
    (Argument.int (environment.engine.columnInt (row.column 0))).value =
      .integer (BitVec.ofInt 32 row.rowid).toInt := by
  have isKey : row.column 0 = .integer row.rowid := rfl
  rw [isKey, environment.engine.columnInt_integer, Argument.int_value]

/-- The rows that `RoomDeviceListSearch` joins. -/
def roomDevices (roomId : uint32) (connection : Connection TableName) : List Row :=
  (selectedRows environment (roomTableSelect roomId) connection).flatMap fun room =>
    (selectedRows environment
      (roomListTableSelect (environment.engine.columnInt (room.column 0))) connection).flatMap
        fun entry => selectedRows environment
          (deviceTableSelect (environment.engine.columnInt (entry.column 1))) connection

variable {environment}

theorem foldl_flatMap_append {Listed : Type} (ofRow : Row → Listed) (inner : Row → List Row)
    (rows : List Row) (list : List Listed) :
    rows.foldl (fun list row => list ++ (inner row).map ofRow) list =
      list ++ (rows.flatMap inner).map ofRow := by
  induction rows generalizing list with
  | nil => exact (List.append_nil list).symm
  | cons row rows induction =>
      rw [List.foldl_cons, induction, List.flatMap_cons, List.map_append, List.append_assoc]

theorem roomDeviceListSearch_of_faultless (faultless : environment.Faultless)
    (roomId : uint32) (session : Session TableName) :
    (roomDeviceListSearch environment roomId session).1 =
      (.success, (roomDevices environment roomId session.connection).map
        (deviceOfRow environment.engine)) := by
  let engine := environment.engine
  let connection := session.connection
  have deviceLoop : ∀ entry : Row, Continues connection
      (appendTurn environment (deviceOfRow engine))
      fun row list => list ++ [deviceOfRow engine row] :=
    fun _ => appendTurn_continues faultless connection (deviceOfRow engine)
  have entryLoop := fun room : Row => selectLoop_continues faultless
    (fun entry => quoteFree_int (engine.columnInt (entry.column 1)))
    (fun entry => deviceTableSelect_query (engine.columnInt (entry.column 1))) deviceLoop true
  have roomLoop := fun start : Row => selectLoop_continues faultless
    (fun room => quoteFree_int (engine.columnInt (room.column 0)))
    (fun room => roomListTableSelect_query (engine.columnInt (room.column 0))) entryLoop true
  have whole := selectLoop_continues faultless (fun _ : Row => quoteFree_int roomId)
    (fun _ => roomTableSelect_query roomId) roomLoop true
  have done := (whole ⟨0, fun _ => .null⟩ [] session rfl).1
  simp only [foldl_append_singleton, foldl_flatMap_append, List.nil_append] at done
  rw [roomDeviceListSearch, returned, done]
  rfl

end Joins

end StudyDemo.Sqlite
