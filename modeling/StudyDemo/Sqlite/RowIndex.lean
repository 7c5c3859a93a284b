import StudyDemo.Sqlite.RoomLists

/-! # The index of a new row

The functions that add a record keep the key of the new row in `Index`, which has 16
bits, and link tables are filled from it. -/

namespace StudyDemo.Sqlite

open Sql Execution

/-- The first key that `Index` cannot hold. -/
def indexLimit : Int := 65536

/-- One row was added to the table, and this is its key. -/
def IndexNamesRow (table : TableName) (before after : Session TableName) (index : uint16) :
    Prop :=
  ∃ row : Row, rowsOf table after = rowsOf table before ++ [row] ∧
    row.rowid = (index.toNat : Int)

section Index

variable {layout : Layout} {environment : Environment layout.schema}

theorem indexNamesRow_iff {table : TableName} {before after : Session TableName}
    (keyed : before.connection.Keyed) {fields : List Sql.Field}
    (inserted : rowsOf table after =
      rowsOf table before ++ [newRow layout before.connection table fields]) :
    IndexNamesRow table before after
        (BitVec.ofInt 16 (nextIndex layout before.connection table)) ↔
      nextIndex layout before.connection table < indexLimit := by
  have positive : 1 ≤ nextIndex layout before.connection table :=
    (keyed table).nextRowid_pos _
  have isKey : (newRow layout before.connection table fields).rowid =
    nextIndex layout before.connection table := rfl
  have low : ((BitVec.ofInt 16 (nextIndex layout before.connection table)).toNat : Int) =
      nextIndex layout before.connection table % 65536 := by
    rw [BitVec.toNat_ofInt]
    exact Int.toNat_of_nonneg (Int.emod_nonneg _ (by decide))
  rw [indexLimit]
  constructor
  · rintro ⟨row, isLast, names⟩
    obtain rfl : newRow layout before.connection table fields = row :=
      List.singleton_inj.mp (List.append_cancel_left (inserted.symm.trans isLast))
    rw [isKey, low] at names
    omega
  · intro small
    refine ⟨_, inserted, ?_⟩
    rw [isKey, low]
    omega

theorem deviceTableAddRecord_of_success {deviceData device : DeviceTable}
    (safe : (Operation.deviceTableAddRecord deviceData).Safe) {session : Session TableName}
    (added : (deviceTableAddRecord environment deviceData session).1 = (.success, device)) :
    device.index = BitVec.ofInt 16 (nextIndex layout session.connection .deviceTable) ∧
      (deviceTableAddRecord environment deviceData session).2.connection =
        (Statement.insert .deviceTable (fieldsOf (deviceTableAddCommand deviceData))).apply
          layout.schema session.connection := by
  rw [deviceTableAddRecord] at added ⊢
  dsimp only at added ⊢
  obtain ⟨success, rfl⟩ := Prod.mk.inj added
  have inserted := insertRecord_of_success
    (safe 0 _ (List.mem_singleton_self (deviceTableAddCommand deviceData)))
    (deviceTableAddCommand_statement deviceData) success
  refine ⟨?_, inserted.2⟩
  dsimp only
  rw [inserted.1, Option.getD_some]

theorem rowsOf_insert {table : TableName} {before after : Session TableName}
    {fields : List Sql.Field}
    (inserted : after.connection =
      (Statement.insert table fields).apply layout.schema before.connection) :
    rowsOf table after = rowsOf table before ++ [newRow layout before.connection table fields] := by
  rw [rowsOf, inserted, Statement.apply_insert_self]
  rfl

theorem tables_of_insert {table other : TableName} {before after : Session TableName}
    {fields : List Sql.Field}
    (inserted : after.connection =
      (Statement.insert table fields).apply layout.schema before.connection)
    (isOther : other ≠ table) :
    after.connection.tables other = before.connection.tables other := by
  rw [inserted]
  exact Statement.apply_tables_of_ne isOther

theorem deviceTableAddRecord_index_iff {deviceData device : DeviceTable}
    (safe : (Operation.deviceTableAddRecord deviceData).Safe) {session : Session TableName}
    (keyed : session.connection.Keyed)
    (added : (deviceTableAddRecord environment deviceData session).1 = (.success, device)) :
    IndexNamesRow .deviceTable session (deviceTableAddRecord environment deviceData session).2
        device.index ↔
      nextIndex layout session.connection .deviceTable < indexLimit := by
  obtain ⟨isIndex, inserted⟩ := deviceTableAddRecord_of_success safe added
  rw [isIndex]
  exact indexNamesRow_iff keyed (rowsOf_insert inserted)

theorem roomTableAddRecord_index_iff {roomData room : RoomTable}
    (safe : (Operation.roomTableAddRecord roomData).Safe) {session : Session TableName}
    (keyed : session.connection.Keyed)
    (added : (roomTableAddRecord environment roomData session).1 = some (.success, room)) :
    IndexNamesRow .roomTable session (roomTableAddRecord environment roomData session).2
        room.index ↔
      nextIndex layout session.connection .roomTable < indexLimit := by
  obtain ⟨-, isIndex, inserted⟩ := roomTableAddRecord_of_success safe added
  rw [isIndex]
  exact indexNamesRow_iff keyed (rowsOf_insert inserted)

end Index

/-! ## Links made of indices -/

section Links

variable {layout : Layout} {environment : Environment layout.schema}

/-- A device and a room were added one after the other. -/
inductive AddsBoth (environment : Environment layout.schema) (deviceData : DeviceTable)
    (roomData : RoomTable) (session : Session TableName) :
    DeviceTable → RoomTable → Session TableName → Prop
  | deviceFirst {device : DeviceTable} {room : RoomTable}
      (first : (deviceTableAddRecord environment deviceData session).1 = (.success, device))
      (second : (roomTableAddRecord environment roomData
        (deviceTableAddRecord environment deviceData session).2).1 = some (.success, room)) :
      AddsBoth environment deviceData roomData session device room
        (roomTableAddRecord environment roomData
          (deviceTableAddRecord environment deviceData session).2).2
  | roomFirst {device : DeviceTable} {room : RoomTable}
      (first : (roomTableAddRecord environment roomData session).1 = some (.success, room))
      (second : (deviceTableAddRecord environment deviceData
        (roomTableAddRecord environment roomData session).2).1 = (.success, device)) :
      AddsBoth environment deviceData roomData session device room
        (deviceTableAddRecord environment deviceData
          (roomTableAddRecord environment roomData session).2).2

/-- A link made of the indices makes the search list the device that was added. -/
def ListsDevice (environment : Environment layout.schema) (before after : Session TableName)
    (device : DeviceTable) (room : RoomTable) : Prop :=
  ∀ entry : RoomListTable, entry.deviceId.index = device.index →
    entry.roomId.index = room.index →
    ∀ row, rowsOf .deviceTable after = rowsOf .deviceTable before ++ [row] →
      (roomListTableAddRecord environment entry after).1.1 = .success ∧
        deviceOfRow environment.engine row ∈
          (roomDeviceListSearch environment room.groupId
            (roomListTableAddRecord environment entry after).2).1.2

structure BothAdded (layout : Layout) (before after : Session TableName)
    (deviceData : DeviceTable) (device : DeviceTable) (room : RoomTable) : Prop where
  deviceIndex : device.index = BitVec.ofInt 16 (nextIndex layout before.connection .deviceTable)
  roomIndex : room.index = BitVec.ofInt 16 (nextIndex layout before.connection .roomTable)
  devices : rowsOf .deviceTable after = rowsOf .deviceTable before ++
    [newRow layout before.connection .deviceTable (fieldsOf (deviceTableAddCommand deviceData))]
  rooms : ∃ fields, rowsOf .roomTable after = rowsOf .roomTable before ++
    [newRow layout before.connection .roomTable fields] ∧
      (newRow layout before.connection .roomTable fields).column 2 =
        .integer room.groupId.toNat
  groupId : (rowsOf .roomTable before).length < mostRooms →
    room.groupId.toNat ≤ firstRoomId.toNat + (rowsOf .roomTable before).length
  consistent : Consistent after.connection

theorem nextIndex_congr {left right : Connection TableName} {table : TableName}
    (same : left.tables table = right.tables table) :
    nextIndex layout left table = nextIndex layout right table := by
  rw [nextIndex, nextIndex, same]

theorem newRow_congr {left right : Connection TableName} {table : TableName}
    {fields : List Sql.Field} (same : left.tables table = right.tables table) :
    newRow layout left table fields = newRow layout right table fields := by
  rw [newRow, newRow, nextIndex_congr same]

theorem AddsBoth.bothAdded (faultless : environment.Faultless) {deviceData device : DeviceTable}
    {roomData room : RoomTable} (deviceSafe : (Operation.deviceTableAddRecord deviceData).Safe)
    (roomSafe : (Operation.roomTableAddRecord roomData).Safe)
    {before after : Session TableName} (consistent : Consistent before.connection)
    (adds : AddsBoth environment deviceData roomData before device room after) :
    BothAdded layout before after deviceData device room := by
  cases adds with
  | deviceFirst first second =>
      have middle := perform_consistent environment deviceSafe consistent
      obtain ⟨deviceIndex, deviceInserted⟩ := deviceTableAddRecord_of_success deviceSafe first
      obtain ⟨isUnused, roomIndex, roomInserted⟩ := roomTableAddRecord_of_success roomSafe second
      have sameRooms : (deviceTableAddRecord environment deviceData before).2.connection.tables
          .roomTable = before.connection.tables .roomTable :=
        tables_of_insert deviceInserted (by decide)
      have roomRows := rowsOf_insert roomInserted
      rw [rowsOf, rowsOf, sameRooms, newRow_congr sameRooms] at roomRows
      constructor
      · exact deviceIndex
      · rw [roomIndex, nextIndex_congr sameRooms]
      · rw [← rowsOf_insert deviceInserted]
        exact congrArg Table.rows (tables_of_insert roomInserted (by decide))
      · exact ⟨_, roomRows, newRoom_column _ before.connection⟩
      · intro few
        rw [rowsOf, ← sameRooms] at few ⊢
        exact dbUnUsedRoomId_le faultless few isUnused
      · exact perform_consistent environment roomSafe middle
  | roomFirst first second =>
      have middle := perform_consistent environment roomSafe consistent
      obtain ⟨isUnused, roomIndex, roomInserted⟩ := roomTableAddRecord_of_success roomSafe first
      obtain ⟨deviceIndex, deviceInserted⟩ := deviceTableAddRecord_of_success deviceSafe second
      have sameDevices : (roomTableAddRecord environment roomData before).2.connection.tables
          .deviceTable = before.connection.tables .deviceTable :=
        tables_of_insert roomInserted (by decide)
      have deviceRows := rowsOf_insert deviceInserted
      rw [rowsOf, rowsOf, sameDevices, newRow_congr sameDevices] at deviceRows
      constructor
      · rw [deviceIndex, nextIndex_congr sameDevices]
      · exact roomIndex
      · exact deviceRows
      · refine ⟨_, (congrArg Table.rows (tables_of_insert deviceInserted (by decide))).trans
          (rowsOf_insert roomInserted), newRoom_column _ before.connection⟩
      · exact fun few => dbUnUsedRoomId_le faultless few isUnused
      · exact perform_consistent environment deviceSafe middle

theorem newIndex_eq {connection : Connection TableName} (keyed : connection.Keyed)
    {table : TableName} (small : nextIndex layout connection table < indexLimit) :
    ((BitVec.ofInt 16 (nextIndex layout connection table)).toNat : Int) =
      nextIndex layout connection table := by
  have positive : 1 ≤ nextIndex layout connection table := (keyed table).nextRowid_pos _
  rw [indexLimit] at small
  rw [BitVec.toNat_ofInt]
  omega

theorem roomListTableAddRecord_of_faultless (faultless : environment.Faultless)
    (entry : RoomListTable) (session : Session TableName) :
    (roomListTableAddRecord environment entry session).1.1 = .success ∧
      (roomListTableAddRecord environment entry session).2.connection =
        (Statement.insert .roomListTable [(1, .integer entry.deviceId.index.toNat),
          (2, .integer entry.roomId.index.toNat)]).apply layout.schema session.connection := by
  have safe := roomListTableAddRecord_safe entry 0 _
    (List.mem_singleton_self (roomListTableAddCommand entry))
  have isInsert := @roomListTableAddCommand_statement layout entry
  have success : (insertRecord environment (roomListTableAddCommand entry) session).1.1 =
      .success := by
    apply insertRecord_success faultless safe isInsert
    intro position member
    rw [Layout.schema] at member
    dsimp only [TableName.idColumn] at member
    rw [ite_self] at member
    cases member
  have inserted := (insertRecord_of_success safe isInsert success).2
  rw [roomListTableAddCommand, fieldsOf_pair, promoted_value, promoted_value] at inserted
  exact ⟨success, inserted⟩

theorem BothAdded.listsDevice (faultless : environment.Faultless) {before after : Session TableName}
    {deviceData device : DeviceTable} {room : RoomTable} (keyed : before.connection.Keyed)
    (added : BothAdded layout before after deviceData device room)
    (deviceSmall : nextIndex layout before.connection .deviceTable < indexLimit)
    (roomSmall : nextIndex layout before.connection .roomTable < indexLimit) :
    ListsDevice environment before after device room := by
  intro entry isDevice isRoom row isLast
  obtain ⟨fields, roomRows, isId⟩ := added.rooms
  obtain ⟨success, inserted⟩ := roomListTableAddRecord_of_faultless faultless entry after
  have linked := (perform_consistent environment (roomListTableAddRecord_safe entry)
    added.consistent).linked
  rw [perform, inserted] at linked
  have deviceKey := newIndex_eq keyed deviceSmall
  have roomKey := newIndex_eq keyed roomSmall
  obtain rfl : newRow layout before.connection .deviceTable
      (fieldsOf (deviceTableAddCommand deviceData)) = row :=
    List.singleton_inj.mp (List.append_cancel_left (added.devices.symm.trans isLast))
  refine ⟨success, ?_⟩
  rw [roomDeviceListSearch_of_faultless faultless, inserted]
  apply List.mem_map_of_mem
  rw [mem_roomDevices linked]
  have few : (rowsOf .roomTable before).length < 65536 := by
    have fewer := (keyed .roomTable).length_lt (layout.autoincrement .roomTable)
    have small : nextIndex layout before.connection .roomTable < 65536 := roomSmall
    rw [nextIndex] at small
    rw [rowsOf]
    omega
  have signed : room.groupId.toInt = room.groupId.toNat := by
    have bound : room.groupId.toNat ≤ 0x15a00a + (rowsOf .roomTable before).length :=
      added.groupId (Nat.lt_trans few (by decide))
    rw [BitVec.toInt_eq_toNat_cond, if_pos (by omega)]
  have others : ∀ table ≠ TableName.roomListTable,
      ((Statement.insert TableName.roomListTable
        [(1, .integer entry.deviceId.index.toNat), (2, .integer entry.roomId.index.toNat)]).apply
          layout.schema after.connection).tables table = after.connection.tables table :=
    fun table isOther => Statement.apply_tables_of_ne isOther
  have readBack : (BitVec.ofInt 32 (nextIndex layout before.connection .roomTable)).toInt =
      nextIndex layout before.connection .roomTable := by
    have positive : 1 ≤ nextIndex layout before.connection .roomTable :=
      (keyed .roomTable).nextRowid_pos _
    have small : nextIndex layout before.connection .roomTable < 65536 := roomSmall
    rw [BitVec.toInt_ofInt]
    exact Int.bmod_eq_of_le (by omega) (by omega)
  have deviceMember : newRow layout before.connection .deviceTable
      (fieldsOf (deviceTableAddCommand deviceData)) ∈ rowsOf .deviceTable after := by
    rw [added.devices]
    exact List.mem_append_right _ (List.mem_singleton_self _)
  have roomMember : newRow layout before.connection .roomTable fields ∈
      rowsOf .roomTable after := by
    rw [roomRows]
    exact List.mem_append_right _ (List.mem_singleton_self _)
  refine ⟨?_, newRow layout before.connection .roomTable fields, ?_, ?_, ?_⟩
  · rw [others .deviceTable (by decide)]
    exact deviceMember
  · rw [others .roomTable (by decide)]
    exact roomMember
  · rw [isId, signed]
  · rw [EntryNames, Statement.apply_insert_self]
    refine ⟨_, List.mem_append_right _ (List.mem_singleton_self _), ?_, ?_⟩
    · have isKey : (newRow layout before.connection .roomTable fields).rowid =
        nextIndex layout before.connection .roomTable := rfl
      rw [isKey, readBack, ← roomKey, ← added.roomIndex, ← isRoom]
      rfl
    · have isKey : (newRow layout before.connection .deviceTable
          (fieldsOf (deviceTableAddCommand deviceData))).rowid =
        nextIndex layout before.connection .deviceTable := rfl
      rw [isKey, ← deviceKey, ← added.deviceIndex, ← isDevice]
      rfl

/-- Every index names the new row and links the device to the room. -/
def IndicesName (environment : Environment layout.schema) (before after : Session TableName)
    (device : DeviceTable) (room : RoomTable) : Prop :=
  IndexNamesRow .deviceTable before after device.index ∧
    IndexNamesRow .roomTable before after room.index ∧
    ListsDevice environment before after device room

theorem BothAdded.indices_iff (faultless : environment.Faultless)
    {before after : Session TableName} {deviceData device : DeviceTable} {room : RoomTable}
    (keyed : before.connection.Keyed)
    (added : BothAdded layout before after deviceData device room) :
    IndicesName environment before after device room ↔
      nextIndex layout before.connection .deviceTable < indexLimit ∧
        nextIndex layout before.connection .roomTable < indexLimit := by
  obtain ⟨fields, roomRows, -⟩ := added.rooms
  have deviceIff := @indexNamesRow_iff layout _ _ _ keyed _ added.devices
  have roomIff := @indexNamesRow_iff layout _ _ _ keyed _ roomRows
  rw [← added.deviceIndex] at deviceIff
  rw [← added.roomIndex] at roomIff
  constructor
  · rintro ⟨deviceNames, roomNames, -⟩
    exact ⟨deviceIff.mp deviceNames, roomIff.mp roomNames⟩
  · rintro ⟨deviceSmall, roomSmall⟩
    exact ⟨deviceIff.mpr deviceSmall, roomIff.mpr roomSmall,
      added.listsDevice faultless keyed deviceSmall roomSmall⟩

/-- In every run the index of a new row is its key if and only if the key fits, and then
it links a new device to a new room. -/
theorem indicesName_iff (environment : Environment layout.schema) {start : Session TableName}
    (noRows : NoRows start) {operations : List Operation}
    (safe : ∀ operation ∈ operations, operation.Safe) {deviceData : DeviceTable}
    {roomData : RoomTable} (deviceSafe : (Operation.deviceTableAddRecord deviceData).Safe)
    (roomSafe : (Operation.roomTableAddRecord roomData).Safe) :
    let before := performed environment start operations
    let deviceFits := nextIndex layout before.connection .deviceTable < indexLimit
    let roomFits := nextIndex layout before.connection .roomTable < indexLimit
    (∀ device, (deviceTableAddRecord environment deviceData before).1 = (.success, device) →
      (IndexNamesRow .deviceTable before
        (deviceTableAddRecord environment deviceData before).2 device.index ↔ deviceFits)) ∧
    (∀ room, (roomTableAddRecord environment roomData before).1 = some (.success, room) →
      (IndexNamesRow .roomTable before
        (roomTableAddRecord environment roomData before).2 room.index ↔ roomFits)) ∧
    (environment.Faultless →
      ∀ device room after, AddsBoth environment deviceData roomData before device room after →
        (IndicesName environment before after device room ↔ deviceFits ∧ roomFits)) := by
  intro before deviceFits roomFits
  have consistent : Consistent before.connection := consistent_performed noRows safe
  refine ⟨fun device added => ?_, fun room added => ?_,
    fun faultless device room after adds => ?_⟩
  · exact deviceTableAddRecord_index_iff deviceSafe consistent.keyed added
  · exact roomTableAddRecord_index_iff roomSafe consistent.keyed added
  · exact (adds.bothAdded faultless deviceSafe roomSafe consistent).indices_iff faultless
      consistent.keyed

/-- The second device and the second room of a database. -/
theorem indicesName_iff_second :
    let environment := Environment.plain Layout.shipped.schema
    let before := performed environment Session.empty
      [.deviceTableAddRecord (deviceAt "fd00::1"), .roomTableAddRecord ⟨0, "Kitchen".toList, 0⟩]
    let device := deviceAt "fd00::2"
    let room : RoomTable := ⟨0, "Hall".toList, 0⟩
    (∀ added, (deviceTableAddRecord environment device before).1 = (.success, added) →
      IndexNamesRow .deviceTable before (deviceTableAddRecord environment device before).2
        added.index) ∧
    (∀ added, (roomTableAddRecord environment room before).1 = some (.success, added) →
      IndexNamesRow .roomTable before (roomTableAddRecord environment room before).2
        added.index) ∧
    ∀ newDevice newRoom after, AddsBoth environment device room before newDevice newRoom after →
      IndicesName environment before after newDevice newRoom := by
  intro environment before device room
  have safe : ∀ operation ∈ [Operation.deviceTableAddRecord (deviceAt "fd00::1"),
      Operation.roomTableAddRecord ⟨0, "Kitchen".toList, 0⟩], operation.Safe := by
    intro operation member
    simp only [List.mem_cons, List.not_mem_nil, or_false] at member
    rcases member with rfl | rfl
    · exact deviceTableAddRecord_safe (by decide) (by decide)
    · exact roomTableAddRecord_safe (by decide) (by decide)
  have deviceSafe : (Operation.deviceTableAddRecord device).Safe :=
    deviceTableAddRecord_safe (by decide) (by decide)
  have roomSafe : (Operation.roomTableAddRecord room).Safe :=
    roomTableAddRecord_safe (by decide) (by decide)
  have deviceFits : nextIndex Layout.shipped before.connection .deviceTable < indexLimit := by
    decide +kernel
  have roomFits : nextIndex Layout.shipped before.connection .roomTable < indexLimit := by
    decide +kernel
  have noRows : NoRows (Session.empty : Session TableName) := fun _ => ⟨rfl, Int.le_refl 0⟩
  obtain ⟨devices, rooms, links⟩ :=
    indicesName_iff environment noRows safe deviceSafe roomSafe
  refine ⟨fun added success => (devices added success).mpr deviceFits,
    fun added success => (rooms added success).mpr roomFits, ?_⟩
  intro newDevice newRoom after adds
  exact (links Environment.plain_faultless newDevice newRoom after adds).mpr
    ⟨deviceFits, roomFits⟩

end Links

/-! ## A long run -/

section LongRun

/-- Devices come and go. -/
def addAndClear (deviceData : DeviceTable) : Nat → List Operation
  | 0 => []
  | rounds + 1 =>
      addAndClear deviceData rounds ++ [.deviceTableAddRecord deviceData, .deviceTableClear]

variable {layout : Layout} {environment : Environment layout.schema}

theorem addAndClear_safe {deviceData : DeviceTable}
    (safe : Safe (deviceTableAddCommand deviceData)) (rounds : Nat) :
    ∀ operation ∈ addAndClear deviceData rounds, operation.Safe := by
  induction rounds with
  | zero => exact fun _ member => absurd member List.not_mem_nil
  | succ rounds induction =>
      intro operation member
      rcases List.mem_append.mp member with earlier | last
      · exact induction operation earlier
      · rcases List.mem_cons.mp last with rfl | isClear
        · exact Operation.safe_of_command (fun _ => rfl) safe
        · rw [List.mem_singleton.mp isClear]
          exact Operation.safe_of_commands (fun _ => Operation.noConfusion) (by decide +kernel)

theorem deviceTableAddRecord_empty (faultless : environment.Faultless) {deviceData : DeviceTable}
    (safe : Safe (deviceTableAddCommand deviceData)) {session : Session TableName}
    (empty : rowsOf .deviceTable session = []) :
    (deviceTableAddRecord environment deviceData session).1 =
      (.success, (deviceTableAddRecord environment deviceData session).1.2) := by
  have success : (insertRecord environment (deviceTableAddCommand deviceData) session).1.1 =
      .success := by
    apply insertRecord_success faultless safe (deviceTableAddCommand_statement deviceData)
    intro position _
    have noRows : (session.connection.tables .deviceTable).rows = [] := empty
    rw [Table.Unique, Table.insert, noRows]
    exact List.pairwise_singleton _ _
  exact Prod.ext success rfl

theorem nextRowid_autoincrement (given : Int) :
    Table.nextRowid true ⟨[], given⟩ = 1 + given := by
  rw [Table.nextRowid, if_pos rfl]

/-- Clearing the table does not bring back a key. -/
theorem addAndClear_round (faultless : environment.Faultless)
    (autoincrement : layout.autoincrement .deviceTable = true) {deviceData : DeviceTable}
    (safe : Safe (deviceTableAddCommand deviceData)) {session : Session TableName} {given : Nat}
    (before : session.connection.tables .deviceTable = ⟨[], given⟩) :
    (performed environment session
      [.deviceTableAddRecord deviceData, .deviceTableClear]).connection.tables .deviceTable =
        ⟨[], (given + 1 : Nat)⟩ := by
  have empty : rowsOf .deviceTable session = [] := congrArg Table.rows before
  have inserted := (deviceTableAddRecord_of_success (Operation.safe_of_command (fun _ => rfl) safe)
    (deviceTableAddRecord_empty faultless safe empty)).2
  have clearSafe : Safe (tableClearCommand .deviceTable) := by decide +kernel
  have ran : ∀ connection, (Statement.delete TableName.deviceTable none).run layout.schema
      connection = some ((Statement.delete TableName.deviceTable none).apply layout.schema
        connection) :=
    fun _ => Statement.run_eq_some.mpr ⟨fun _ member => absurd member List.not_mem_nil, rfl⟩
  have cleared := (runCommand_of_run faultless clearSafe
    (@tableClearCommand_statement layout .deviceTable)
    (ran (deviceTableAddRecord environment deviceData session).2.connection)).2
  have after : (performed environment session
      [.deviceTableAddRecord deviceData, .deviceTableClear]).connection =
      (runCommand environment (tableClearCommand .deviceTable)
        (deviceTableAddRecord environment deviceData session).2).2.connection := rfl
  rw [after, cleared, inserted, Statement.apply_delete_self, Statement.apply_insert_self, before]
  have schema : layout.schema.autoincrement .deviceTable = true := autoincrement
  have next : Table.nextRowid true ⟨[], given⟩ = (given + 1 : Nat) := by
    rw [nextRowid_autoincrement]
    omega
  rw [schema, next, Table.insert, Table.delete]
  dsimp only
  rw [max_eq_right (by omega)]
  rfl

theorem addAndClear_rounds (faultless : environment.Faultless)
    (autoincrement : layout.autoincrement .deviceTable = true) {deviceData : DeviceTable}
    (safe : Safe (deviceTableAddCommand deviceData)) (rounds : Nat) :
    (performed environment Session.empty (addAndClear deviceData rounds)).connection.tables
      .deviceTable = ⟨[], rounds⟩ := by
  induction rounds with
  | zero => rfl
  | succ rounds induction =>
      rw [addAndClear, performed, finalState_append]
      exact addAndClear_round faultless autoincrement safe induction

theorem addAndClear_index (faultless : environment.Faultless)
    (autoincrement : layout.autoincrement .deviceTable = true) {deviceData : DeviceTable}
    (safe : Safe (deviceTableAddCommand deviceData)) {rounds : Nat} (many : 65535 ≤ rounds) :
    let before := performed environment Session.empty (addAndClear deviceData rounds)
    let done := deviceTableAddRecord environment deviceData before
    done.1.1 = .success ∧ ¬IndexNamesRow .deviceTable before done.2 done.1.2.index := by
  intro before done
  have empty : before.connection.tables .deviceTable = ⟨[], rounds⟩ :=
    addAndClear_rounds faultless autoincrement safe rounds
  have consistent : Consistent before.connection :=
    consistent_performed (fun _ => ⟨rfl, Int.le_refl 0⟩) (addAndClear_safe safe rounds)
  have added := deviceTableAddRecord_empty faultless safe (congrArg Table.rows empty)
  have next : nextIndex layout before.connection .deviceTable = 1 + rounds := by
    rw [nextIndex, empty, autoincrement]
    exact nextRowid_autoincrement rounds
  refine ⟨congrArg Prod.fst added, fun names => ?_⟩
  have small := (deviceTableAddRecord_index_iff (Operation.safe_of_command (fun _ => rfl) safe) consistent.keyed
    added).mp names
  rw [next, indexLimit] at small
  omega

/-- After 65535 rounds the next device gets the index 0. -/
theorem indicesName_fails :
    let before := performed (Environment.plain Layout.shipped.schema) Session.empty
      (addAndClear (deviceAt "fd00::1") 65535)
    let done := deviceTableAddRecord (Environment.plain Layout.shipped.schema)
      (deviceAt "fd00::1") before
    done.1.1 = .success ∧ ¬IndexNamesRow .deviceTable before done.2 done.1.2.index :=
  addAndClear_index Environment.plain_faultless rfl (by decide +kernel) (Nat.le_refl 65535)

end LongRun

end StudyDemo.Sqlite
