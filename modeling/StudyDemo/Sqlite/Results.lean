import StudyDemo.Sqlite.SafeCommands

/-! # Results when no call fails

What the functions return, and what is in the tables then, when every call of the
library succeeds: an inserted row is the last of its table, and a search lists what
its queries select. -/

namespace StudyDemo.Sqlite

open Sql

def rowsOf (table : TableName) (session : Session TableName) : List Row :=
  (session.connection.tables table).rows

/-! ## Copies -/

theorem cString_append_zeros (bytes : Text) (count : Nat) :
    cString (bytes ++ zeros count) = cString bytes := by
  induction bytes with
  | nil =>
      cases count with
      | zero => rfl
      | succ count => rfl
  | cons byte bytes induction =>
      rw [cString] at induction ⊢
      rw [cString, List.cons_append, List.takeWhile_cons, List.takeWhile_cons, induction]
      rfl

theorem cString_memcpy_zeros (size : Nat) (bytes : Text) :
    cString (memcpy (zeros size) bytes) = cString bytes := by
  rw [memcpy, zeros, List.drop_replicate]
  exact cString_append_zeros bytes _

variable {layout : Layout} {environment : Environment layout.schema}

theorem columnInt_setWidth (engine : Engine layout.schema) {width : Nat} (narrow : width ≤ 32)
    (value : BitVec width) :
    (engine.columnInt (.integer value.toNat)).setWidth width = value := by
  have bound : value.toNat < 2 ^ 32 :=
    Nat.lt_of_lt_of_le value.isLt (Nat.pow_le_pow_right (by decide) narrow)
  rw [engine.columnInt_integer, BitVec.ofInt_natCast]
  apply BitVec.eq_of_toNat_eq
  rw [BitVec.toNat_setWidth, BitVec.toNat_ofNat, Nat.mod_eq_of_lt bound]
  exact Nat.mod_eq_of_lt value.isLt

/-! ## Adding -/

section Adding

variable {command : Command} {table : TableName} {fields : List Field}

def nextIndex (layout : Layout) (connection : Connection TableName) (table : TableName) : Int :=
  (connection.tables table).nextRowid (layout.autoincrement table)

def newRow (layout : Layout) (connection : Connection TableName) (table : TableName)
    (fields : List Field) : Row :=
  ⟨nextIndex layout connection table, cellsOf fields⟩

theorem find?_fieldsOf (arguments : List Argument) (start position : Nat) :
    ((arguments.zipIdx start).map fun argument => (argument.2, argument.1.value)).find?
        (fun field => decide (field.1 = start + position)) =
      arguments[position]?.map fun argument => (start + position, argument.value) := by
  induction arguments generalizing start position with
  | nil => rfl
  | cons argument arguments induction =>
      rw [List.zipIdx_cons, List.map_cons]
      cases position with
      | zero => exact List.find?_cons_of_pos (decide_eq_true rfl)
      | succ position =>
          have different : decide (start = start + (position + 1)) = false := by
            rw [decide_eq_false_iff_not]
            omega
          have shifted : start + (position + 1) = start + 1 + position := by omega
          rw [List.find?_cons]
          dsimp only
          rw [different, shifted, induction, List.getElem?_cons_succ]

theorem newRow_column (connection : Connection TableName) (table : TableName)
    (command : Command) (position : Nat) :
    (newRow layout connection table (fieldsOf command)).column (position + 1) =
      (command.arguments[position]?.map Argument.value).getD .null := by
  rw [Row.column, if_neg (Nat.succ_ne_zero position), newRow]
  dsimp only [cellsOf]
  rw [fieldsOf, Nat.add_comm position 1, find?_fieldsOf, Option.map_map]
  rfl

/-- A record that was added is the last row of its table, and its `Index` is the key
in 16 bits. -/
theorem insertRecord_of_success (safe : Safe command)
    (isInsert : command.statement layout.schema = some (.insert table fields))
    {session : Session TableName}
    (success : (insertRecord environment command session).1.1 = .success) :
    (insertRecord environment command session).1.2 =
        some (BitVec.ofInt 16 (nextIndex layout session.connection table)) ∧
      (insertRecord environment command session).2.connection =
        (Statement.insert table fields).apply layout.schema session.connection := by
  rcases runCommand_cases safe isInsert session with ⟨done, ran⟩ | ⟨failed, -⟩
  · have next := (Statement.run_eq_some.mp ran).2
    rw [insertRecord, if_pos done, ← next]
    exact ⟨rfl, rfl⟩
  · rw [insertRecord, failed] at success
    cases success

theorem insertRecord_success (faultless : environment.Faultless) (safe : Safe command)
    (isInsert : command.statement layout.schema = some (.insert table fields))
    {session : Session TableName}
    (unique : ∀ position ∈ layout.schema.unique table,
      ((session.connection.tables table).insert
        (newRow layout session.connection table fields)).Unique position) :
    (insertRecord environment command session).1.1 = .success := by
  have ran : (Statement.insert table fields).run layout.schema session.connection =
      some ((Statement.insert table fields).apply layout.schema session.connection) := by
    apply Statement.run_eq_some.mpr
    refine ⟨fun position member => ?_, rfl⟩
    rw [Statement.table, Statement.apply_insert_self]
    exact unique position member
  have done := (runCommand_of_run faultless safe isInsert ran).1
  rw [insertRecord, if_pos done]

end Adding

/-! ## Searching -/

section Searching

variable (environment) in
def selectedRows (command : Command) (connection : Connection TableName) : List Row :=
  (environment.engine.prepare command.text connection).getD []

variable {command : Command} {query : Query TableName}

variable (environment) in
theorem prepare_selectedRows (quoteFree : QuoteFree command.arguments)
    (isQuery : command.query layout.schema = some query) (connection : Connection TableName) :
    environment.engine.prepare command.text connection =
        some (selectedRows environment command connection) ∧
      query.Answers connection (selectedRows environment command connection) := by
  obtain ⟨rows, gives, answers⟩ :=
    environment.engine.prepare_query _ _ (readQuery_text quoteFree isQuery) connection
  rw [selectedRows, gives]
  exact ⟨rfl, answers⟩

theorem mem_selectedRows (quoteFree : QuoteFree command.arguments)
    (isQuery : command.query layout.schema = some query) {connection : Connection TableName}
    {row : Row} :
    row ∈ selectedRows environment command connection ↔
      row ∈ (connection.tables query.table).rows ∧ row.satisfies query.condition := by
  rw [(prepare_selectedRows environment quoteFree isQuery connection).2.perm.mem_iff]
  exact List.mem_filter

theorem prepare_of_faultless (faultless : environment.Faultless)
    (quoteFree : QuoteFree command.arguments)
    (isQuery : command.query layout.schema = some query) (session : Session TableName) :
    (environment.prepare command.text session).1 =
      some (selectedRows environment command session.connection) := by
  rw [Environment.prepare, if_pos (faultless _),
    (prepare_selectedRows environment quoteFree isQuery session.connection).1]

/-- A turn of a loop goes on with the next list and changes nothing. -/
def Continues {Listed : Type} (connection : Connection TableName) (turn : Turn Listed)
    (next : Row → List Listed → List Listed) : Prop :=
  ∀ row list session, session.connection = connection →
    (turn row list session).1 = .ok (next row list) ∧
      (turn row list session).2.connection = connection

theorem appendTurn_continues {Listed : Type} (faultless : environment.Faultless)
    (connection : Connection TableName) (ofRow : Row → Listed) :
    Continues connection (appendTurn environment ofRow) fun row list => list ++ [ofRow row] := by
  intro row list session unchanged
  have memory : (environment.malloc session).1 = true := faultless _
  rw [appendTurn, if_pos memory]
  exact ⟨rfl, unchanged⟩

theorem selectLoop_continues {Listed : Type} (faultless : environment.Faultless)
    {commandOf : Row → Command} {queryOf : Row → Query TableName}
    (quoteFree : ∀ row, QuoteFree (commandOf row).arguments)
    (isQuery : ∀ row, (commandOf row).query layout.schema = some (queryOf row))
    {connection : Connection TableName} {turn : Row → Turn Listed}
    {next : Row → Row → List Listed → List Listed}
    (continues : ∀ row, Continues connection (turn row) (next row)) (finalizes : Bool) :
    Continues connection
      (fun row => selectLoop environment (commandOf row) finalizes (turn row))
      fun row list => (selectedRows environment (commandOf row) connection).foldl
        (fun list inner => next row inner list) list := by
  intro row list session unchanged
  have prepared := prepare_of_faultless faultless (quoteFree row) (isQuery row) session
  have after : (environment.prepare (commandOf row).text session).2.connection = connection :=
    (Environment.prepare_connection environment _ session).trans unchanged
  have loop := Environment.forRows_of_forall faultless
    (selectedRows environment (commandOf row) connection)
    (fun inner _ state session => continues row inner state session) list after
  rw [unchanged] at prepared
  dsimp only
  rw [selectLoop, prepared]
  dsimp only
  rw [loop.1]
  refine ⟨rfl, ?_⟩
  cases finalizes
  · exact loop.2
  · exact loop.2

theorem foldl_append_singleton {Listed : Type} (ofRow : Row → Listed) (rows : List Row)
    (list : List Listed) :
    rows.foldl (fun list row => list ++ [ofRow row]) list = list ++ rows.map ofRow := by
  induction rows generalizing list with
  | nil => exact (List.append_nil list).symm
  | cons row rows induction =>
      rw [List.foldl_cons, induction, List.map_cons, List.append_assoc, List.singleton_append]

end Searching

end StudyDemo.Sqlite
