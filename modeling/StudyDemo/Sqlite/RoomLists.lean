import StudyDemo.Sqlite.DeviceKeys
import StudyDemo.Sqlite.Links
import StudyDemo.Sqlite.RoomIds

/-! # Devices of a new room

`RoomTableDelete` leaves the entries of the room list. When the key of a room is given
out again, the new room has the devices that these entries still name. -/

namespace StudyDemo.Sqlite

open Sql Execution

section Entries

variable {layout : Layout} {environment : Environment layout.schema}

/-- An entry of the room list names the device under this key of a room. Keys are read
in 32 bits. -/
def EntryNames (connection : Connection TableName) (roomKey : Int) (device : Row) : Prop :=
  ∃ entry ∈ (connection.tables .roomListTable).rows,
    entry.column 2 = .integer (BitVec.ofInt 32 roomKey).toInt ∧
      entry.column 1 = .integer device.rowid

theorem mem_roomDevices {roomId : uint32} {connection : Connection TableName} {device : Row}
    (linked : Linked connection) :
    device ∈ roomDevices environment roomId connection ↔
      device ∈ (connection.tables .deviceTable).rows ∧
        ∃ room ∈ (connection.tables .roomTable).rows, room.column 2 = .integer roomId.toInt ∧
          EntryNames connection room.rowid device := by
  have isRoom : ∀ room : Row, room.satisfies (some (2, (Argument.int roomId).value)) = true ↔
      room.column 2 = .integer roomId.toInt := by
    intro room
    rw [Argument.int_value]
    exact decide_eq_true_iff
  have isEntry : ∀ room entry : Row, entry.satisfies
      (some (2, (Argument.int (environment.engine.columnInt (room.column 0))).value)) = true ↔
      entry.column 2 = .integer (BitVec.ofInt 32 room.rowid).toInt := by
    intro room entry
    rw [columnInt_rowid]
    exact decide_eq_true_iff
  have isDevice : ∀ entry ∈ (connection.tables .roomListTable).rows, ∀ device : Row,
      device.satisfies
        (some (0, (Argument.int (environment.engine.columnInt (entry.column 1))).value)) = true ↔
      entry.column 1 = .integer device.rowid := by
    intro entry member device
    have link := linked .roomListTable (by decide) entry member
    rw [columnInt_isIndex environment link.1]
    exact decide_eq_true_iff.trans eq_comm
  simp only [roomDevices, List.mem_flatMap, mem_selectedRows (quoteFree_int _)
    (roomTableSelect_query _), mem_selectedRows (quoteFree_int _) (roomListTableSelect_query _),
    mem_selectedRows (quoteFree_int _) (deviceTableSelect_query _), isRoom, isEntry]
  constructor
  · rintro ⟨room, ⟨roomMember, isId⟩, entry, ⟨entryMember, isKey⟩, deviceMember, names⟩
    exact ⟨deviceMember, room, roomMember, isId, entry, entryMember, isKey,
      (isDevice entry entryMember device).mp names⟩
  · rintro ⟨deviceMember, room, roomMember, isId, entry, entryMember, isKey, names⟩
    exact ⟨room, ⟨roomMember, isId⟩, entry, ⟨entryMember, isKey⟩, deviceMember,
      (isDevice entry entryMember device).mpr names⟩

end Entries

section NewRoom

variable {layout : Layout} {environment : Environment layout.schema}

/-- The room has no devices right after it was added. -/
def NewRoomIsEmpty (environment : Environment layout.schema) (roomData : RoomTable)
    (session : Session TableName) : Prop :=
  ∀ room, (roomTableAddRecord environment roomData session).1 = some (.success, room) →
    (roomDeviceListSearch environment room.groupId
      (roomTableAddRecord environment roomData session).2).1.2 = []

/-- No entry of the room list names an existing device under the key of the next room. -/
def NoStaleEntry (layout : Layout) (session : Session TableName) : Prop :=
  ∀ device ∈ devices session,
    ¬EntryNames session.connection (nextIndex layout session.connection .roomTable) device

theorem entryNames_congr {left right : Connection TableName} {roomKey : Int} {device : Row}
    (same : left.tables .roomListTable = right.tables .roomListTable) :
    EntryNames left roomKey device ↔ EntryNames right roomKey device := by
  rw [EntryNames, EntryNames, same]

theorem newRoomIsEmpty_iff (faultless : environment.Faultless) {roomData : RoomTable}
    (safe : (Operation.roomTableAddRecord roomData).Safe) {session : Session TableName}
    (consistent : Consistent session.connection) (inRange : RoomsInRange (rooms session))
    (few : (rooms session).length < mostRooms) :
    NewRoomIsEmpty environment roomData session ↔ NoStaleEntry layout session := by
  obtain ⟨⟨room, last, added, unused, -, -⟩, -⟩ :=
    roomTableAddRecord_leastUnused faultless safe inRange few
  obtain ⟨isUnused, -, after⟩ := roomTableAddRecord_of_success safe added
  obtain ⟨groupId, isGroupId, -, below⟩ := dbUnUsedRoomId_leastUnused faultless inRange few
  obtain rfl : room.groupId = groupId := Option.some.inj (isUnused.symm.trans isGroupId)
  have linked := (perform_consistent environment safe consistent).linked
  rw [perform, after] at linked
  have signed : room.groupId.toInt = room.groupId.toNat := by
    have most : room.groupId.toNat < 2 ^ 31 := Nat.lt_trans below (by decide)
    rw [BitVec.toInt_eq_toNat_cond, if_pos (by omega)]
  have others : ∀ table ≠ TableName.roomTable,
      ((Statement.insert TableName.roomTable (fieldsOf
        (roomTableAddCommand { roomData with groupId := room.groupId }))).apply layout.schema
          session.connection).tables table = session.connection.tables table :=
    fun table isOther => Statement.apply_tables_of_ne isOther
  have listed : (roomDeviceListSearch environment room.groupId
      (roomTableAddRecord environment roomData session).2).1.2 = [] ↔
      ∀ device ∈ devices session,
        ¬EntryNames session.connection (nextIndex layout session.connection .roomTable) device := by
    rw [roomDeviceListSearch_of_faultless faultless, List.map_eq_nil_iff,
      List.eq_nil_iff_forall_not_mem, after]
    simp only [mem_roomDevices linked, others .deviceTable (by decide),
      Statement.apply_insert_self, entryNames_congr (others .roomListTable (by decide)),
      Table.insert, List.mem_append, List.mem_singleton, signed]
    constructor
    · intro none device member names
      exact none device ⟨member, _, Or.inr rfl, newRoom_column _ session.connection, names⟩
    · rintro none device ⟨member, row, old | rfl, isId, names⟩
      · exact unused.1.2 row old isId
      · exact none device member names
  constructor
  · intro isEmpty
    exact listed.mp (isEmpty room added)
  · intro noStale other isOther
    obtain rfl : room = other := (Prod.mk.inj (Option.some.inj (added.symm.trans isOther))).2
    exact listed.mpr noStale

/-- In every run a new room starts empty if and only if no entry was left behind for
its key. -/
theorem newRoomIsEmpty_iff_noStaleEntry (faultless : environment.Faultless)
    {start : Session TableName} (noRows : NoRows start) {operations : List Operation}
    {roomData : RoomTable}
    (each : EachCall (performStep environment) RoomCondition start
      (operations ++ [.roomTableAddRecord roomData])) :
    NewRoomIsEmpty environment roomData (performed environment start operations) ↔
      NoStaleEntry layout (performed environment start operations) := by
  have condition := each operations _ [] rfl
  have before := eachCall_of_append each
  have safe : ∀ operation ∈ operations, operation.Safe := by
    intro operation member
    obtain ⟨first, rest, split⟩ := List.append_of_mem member
    exact (before first operation rest split).1
  apply newRoomIsEmpty_iff faultless condition.1 (consistent_performed noRows safe) ?_ condition.2
  apply invariant_finalState RoomCondition (fun session => RoomsInRange (rooms session))
    (fun session operation condition inRange =>
      perform_roomsInRange faultless condition.1 inRange condition.2) before
  rw [rooms, (noRows .roomTable).1]
  exact roomsInRange_nil

end NewRoom

/-- A device is put into a room, and the room is deleted with its entries or without. -/
def emptiedHall (withEntries : Bool) : List Operation :=
  let device : DeviceTable := { deviceAt "fd00::1" with index := 1 }
  let hall : RoomTable := ⟨1, "Hall".toList, firstRoomId⟩
  let entry : RoomListTable := ⟨0, device, hall⟩
  [.deviceTableAddRecord device, .roomTableAddRecord hall, .roomListTableAddRecord entry] ++
    (if withEntries then [.roomListTableDelete entry] else []) ++ [.roomTableDelete hall]

theorem emptiedHall_safe : ∀ operation ∈ emptiedHall true ++
    [.roomTableAddRecord ⟨0, "Bath".toList, 0⟩], operation.Safe := by
  intro operation member
  simp only [emptiedHall, if_true, List.cons_append, List.nil_append, List.mem_cons,
    List.not_mem_nil, or_false] at member
  rcases member with rfl | rfl | rfl | rfl | rfl | rfl
  · exact deviceTableAddRecord_safe (by decide) (by decide)
  · exact roomTableAddRecord_safe (by decide) (by decide)
  · exact roomListTableAddRecord_safe _
  · exact Operation.safe_of_commands (fun _ => Operation.noConfusion) (by decide +kernel)
  · exact Operation.safe_of_commands (fun _ => Operation.noConfusion) (by decide +kernel)
  · exact roomTableAddRecord_safe (by decide) (by decide)

/-- With its entries deleted too, the next room has no devices. -/
theorem newRoomIsEmpty_iff_noStaleEntry_emptied :
    NewRoomIsEmpty (Environment.plain Layout.reusing.schema) ⟨0, "Bath".toList, 0⟩
      (performed (Environment.plain Layout.reusing.schema) Session.empty (emptiedHall true)) := by
  have few : EachCall (performStep (Environment.plain Layout.reusing.schema))
      (fun session _ => (rooms session).length < mostRooms) Session.empty
      (emptiedHall true ++ [.roomTableAddRecord ⟨0, "Bath".toList, 0⟩]) := by
    decide +kernel
  have noEntries : ((performed (Environment.plain Layout.reusing.schema) Session.empty
      (emptiedHall true)).connection.tables .roomListTable).rows = [] := by
    apply List.eq_nil_of_length_eq_zero
    decide +kernel
  apply (newRoomIsEmpty_iff_noStaleEntry Environment.plain_faultless
    (fun _ => ⟨rfl, Int.le_refl 0⟩) ?_).mpr
  · rintro device - ⟨entry, member, -⟩
    rw [noEntries] at member
    cases member
  · intro before operation after split
    refine ⟨emptiedHall_safe operation ?_, few before operation after split⟩
    rw [split]
    exact List.mem_append_right before List.mem_cons_self

/-- The entry of the deleted room is an entry of the next one. -/
theorem newRoomIsEmpty_fails :
    ¬NewRoomIsEmpty (Environment.plain Layout.reusing.schema) ⟨0, "Bath".toList, 0⟩
      (performed (Environment.plain Layout.reusing.schema) Session.empty
        (emptiedHall false)) := by
  intro isEmpty
  have added : (roomTableAddRecord (Environment.plain Layout.reusing.schema)
      ⟨0, "Bath".toList, 0⟩ (performed (Environment.plain Layout.reusing.schema) Session.empty
        (emptiedHall false))).1 = some (.success, ⟨1, "Bath".toList, firstRoomId⟩) := by
    decide +kernel
  have listed := congrArg List.length (isEmpty _ added)
  revert listed
  decide +kernel

end StudyDemo.Sqlite
