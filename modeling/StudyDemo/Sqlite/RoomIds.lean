import StudyDemo.Foundation.Gaps
import StudyDemo.Sqlite.Lookups

/-! # Group ids of rooms

A new room gets the first group id that no room has. The search for it relies on the
ids being different and not below the first one, and its result keeps them so. -/

namespace StudyDemo.Sqlite

open Sql Execution

/-- The ids of the rooms are different numbers from `firstRoomId` on. -/
structure GroupIds (rows : List Row) : Prop where
  ids : ∀ row ∈ rows, ∃ groupId : Nat,
    row.column 2 = .integer groupId ∧ firstRoomId.toNat ≤ groupId
  distinct : rows.Pairwise fun left right => left.column 2 ≠ right.column 2

/-- The least id that no room has. -/
def LeastUnused (rows : List Row) (groupId : Nat) : Prop :=
  IsLeast {unused : Nat | firstRoomId.toNat ≤ unused ∧
    ∀ row ∈ rows, row.column 2 ≠ .integer unused} groupId

def rooms (session : Session TableName) : List Row :=
  (session.connection.tables .roomTable).rows

def mostRooms : Nat := 2 ^ 30

/-! ## The search -/

/-- What the search relies on. -/
structure RoomsInRange (rows : List Row) : Prop extends GroupIds rows where
  below : ∀ row ∈ rows, ∀ groupId : Nat, row.column 2 = .integer groupId →
    groupId < firstRoomId.toNat + mostRooms

def groupIdOf (row : Row) : Nat :=
  match row.column 2 with
  | .integer value => value.toNat
  | _ => 0

section Search

variable {layout : Layout} {environment : Environment layout.schema}

theorem groupIdOf_eq {row : Row} {groupId : Nat} (isId : row.column 2 = .integer groupId) :
    groupIdOf row = groupId := by
  rw [groupIdOf, isId]
  exact Int.toNat_natCast groupId

theorem GroupIds.column {rows : List Row} (groupIds : GroupIds rows) :
    ∀ row ∈ rows, row.column 2 = .integer (groupIdOf row) ∧
      firstRoomId.toNat ≤ groupIdOf row := by
  intro row member
  obtain ⟨groupId, isId, low⟩ := groupIds.ids row member
  rw [groupIdOf_eq isId]
  exact ⟨isId, low⟩

theorem GroupIds.mem_iff {rows : List Row} (groupIds : GroupIds rows) (groupId : Nat) :
    groupId ∈ rows.map groupIdOf ↔ ∃ row ∈ rows, row.column 2 = .integer groupId := by
  rw [List.mem_map]
  constructor
  · rintro ⟨row, member, rfl⟩
    exact ⟨row, member, (groupIds.column row member).1⟩
  · rintro ⟨row, member, isId⟩
    exact ⟨row, member, groupIdOf_eq isId⟩

theorem GroupIds.perm {rows sorted : List Row} (groupIds : GroupIds rows)
    (perm : sorted.Perm rows) : GroupIds sorted :=
  ⟨fun row member => groupIds.ids row (perm.mem_iff.mp member),
    groupIds.distinct.perm perm.symm fun different => Ne.symm different⟩

theorem GroupIds.increasing {sorted : List Row} (groupIds : GroupIds sorted)
    (ascending : sorted.Pairwise fun left right => (left.column 2).le (right.column 2)) :
    (sorted.map groupIdOf).Pairwise (· < ·) := by
  apply List.pairwise_map.mpr
  apply (ascending.and groupIds.distinct).imp_of_mem
  intro left right leftMember rightMember both
  obtain ⟨le, different⟩ := both
  rw [(groupIds.column left leftMember).1, (groupIds.column right rightMember).1]
    at le different
  have bound : (groupIdOf left : Int) ≤ groupIdOf right := of_decide_eq_true le
  have apart : groupIdOf left ≠ groupIdOf right := fun same => different (by rw [same])
  omega

theorem RoomsInRange.column {rows : List Row} (inRange : RoomsInRange rows) :
    ∀ row ∈ rows, row.column 2 = .integer (groupIdOf row) ∧
      groupIdOf row < firstRoomId.toNat + mostRooms := by
  intro row member
  have isId := (inRange.toGroupIds.column row member).1
  exact ⟨isId, inRange.below row member _ isId⟩

theorem countRoomId_toNat (start : Nat) (list : List RoomTable)
    (fits : start + list.length < 2 ^ 32) :
    (countRoomId (BitVec.ofNat 32 start) list).toNat =
      Gaps.firstGap start (list.map fun room => room.groupId.toNat) := by
  induction list generalizing start with
  | nil =>
      rw [countRoomId, List.map_nil, Gaps.firstGap]
      exact Nat.mod_eq_of_lt fits
  | cons room list induction =>
      rw [List.length_cons] at fits
      have isStart : (BitVec.ofNat 32 start).toNat = start := Nat.mod_eq_of_lt (by omega)
      have next : BitVec.ofNat 32 start + 1 = BitVec.ofNat 32 (start + 1) :=
        (BitVec.ofNat_add start 1).symm
      rw [countRoomId, List.map_cons, Gaps.firstGap]
      by_cases equal : start = room.groupId.toNat
      · have same : BitVec.ofNat 32 start = room.groupId :=
          BitVec.eq_of_toNat_eq (isStart.trans equal)
        rw [if_neg (not_not_intro same), if_pos equal, next]
        exact induction (start + 1) (by omega)
      · have different : BitVec.ofNat 32 start ≠ room.groupId := by
          intro same
          exact equal (isStart.symm.trans (congrArg BitVec.toNat same))
        rw [if_pos different, if_neg equal, isStart]

theorem RoomsInRange.leastUnused {rows sorted : List Row} (inRange : RoomsInRange rows)
    (perm : sorted.Perm rows)
    (ascending : sorted.Pairwise fun left right => (left.column 2).le (right.column 2)) :
    LeastUnused rows (Gaps.firstGap firstRoomId.toNat (sorted.map groupIdOf)) := by
  have groupIds := inRange.toGroupIds.perm perm
  have above : ∀ value ∈ sorted.map groupIdOf, firstRoomId.toNat ≤ value := by
    intro value member
    obtain ⟨row, rowMember, rfl⟩ := List.mem_map.mp member
    exact (groupIds.column row rowMember).2
  have absent : ∀ unused : Nat, unused ∉ sorted.map groupIdOf ↔
      ∀ row ∈ rows, row.column 2 ≠ .integer unused := by
    intro unused
    rw [groupIds.mem_iff, not_exists]
    simp only [not_and, perm.mem_iff]
  have least := Gaps.firstGap_isLeast (groupIds.increasing ascending) above
  simp only [absent] at least
  exact least

theorem roomOfRow_groupId (engine : Engine layout.schema) {row : Row} {groupId : Nat}
    (isId : row.column 2 = .integer groupId) (fits : groupId < 2 ^ 32) :
    (roomOfRow engine row).groupId.toNat = groupId := by
  rw [roomOfRow]
  dsimp only
  rw [isId, engine.columnInt_integer, BitVec.ofInt_natCast]
  exact Nat.mod_eq_of_lt fits

theorem dbUnUsedRoomId_sorted (faultless : environment.Faultless) (session : Session TableName) :
    ∃ sorted : List Row, sorted.Perm (rooms session) ∧
      (sorted.Pairwise fun left right => (left.column 2).le (right.column 2)) ∧
      (dbUnUsedRoomId environment session).1 =
        some (countRoomId firstRoomId (sorted.map (roomOfRow environment.engine))) := by
  have whole := @selectedRows_whole layout environment roomTableSearchCommand .roomTable (some 2)
    quoteFree_nil roomTableSearchCommand_query session.connection
  refine ⟨_, whole.1, whole.2 2 rfl, ?_⟩
  rw [dbUnUsedRoomId]
  dsimp only
  rw [roomTableSearch_of_faultless faultless session, Option.map_some]

theorem countRoomId_rooms (engine : Engine layout.schema) {sorted : List Row}
    (few : sorted.length < mostRooms) :
    (countRoomId firstRoomId (sorted.map (roomOfRow engine))).toNat =
      Gaps.firstGap firstRoomId.toNat
        (sorted.map fun row => (roomOfRow engine row).groupId.toNat) := by
  have isFirst : firstRoomId = BitVec.ofNat 32 firstRoomId.toNat := rfl
  have fits : firstRoomId.toNat + (sorted.map (roomOfRow engine)).length < 2 ^ 32 := by
    rw [List.length_map]
    exact Nat.lt_trans (Nat.add_lt_add_left few _) (by decide)
  have count := countRoomId_toNat firstRoomId.toNat _ fits
  rw [← isFirst, List.map_map] at count
  exact count

theorem dbUnUsedRoomId_le (faultless : environment.Faultless) {session : Session TableName}
    {groupId : uint32} (few : (rooms session).length < mostRooms)
    (isUnused : (dbUnUsedRoomId environment session).1 = some groupId) :
    groupId.toNat ≤ firstRoomId.toNat + (rooms session).length := by
  obtain ⟨sorted, perm, -, found⟩ := dbUnUsedRoomId_sorted faultless session
  obtain rfl : countRoomId firstRoomId (sorted.map (roomOfRow environment.engine)) = groupId :=
    Option.some.inj (found.symm.trans isUnused)
  rw [← perm.length_eq] at few ⊢
  rw [countRoomId_rooms environment.engine few]
  have bound := Gaps.firstGap_le firstRoomId.toNat
    (sorted.map fun row => (roomOfRow environment.engine row).groupId.toNat)
  rw [List.length_map] at bound
  exact bound

theorem dbUnUsedRoomId_leastUnused (faultless : environment.Faultless)
    {session : Session TableName} (inRange : RoomsInRange (rooms session))
    (few : (rooms session).length < mostRooms) :
    ∃ groupId, (dbUnUsedRoomId environment session).1 = some groupId ∧
      LeastUnused (rooms session) groupId.toNat ∧
      groupId.toNat < firstRoomId.toNat + mostRooms := by
  obtain ⟨sorted, perm, ascending, found⟩ := dbUnUsedRoomId_sorted faultless session
  have bound := dbUnUsedRoomId_le faultless few found
  have ids : (sorted.map fun row => (roomOfRow environment.engine row).groupId.toNat) =
      sorted.map groupIdOf := by
    apply List.map_congr_left
    intro row member
    have column := inRange.column row (perm.mem_iff.mp member)
    apply roomOfRow_groupId environment.engine column.1
    exact Nat.lt_trans column.2 (by decide)
  refine ⟨_, found, ?_, by omega⟩
  rw [countRoomId_rooms environment.engine (perm.length_eq ▸ few), ids]
  exact inRange.leastUnused perm ascending

end Search

/-! ## Adding a room -/

section Adding

variable {layout : Layout} {environment : Environment layout.schema}

/-- The new room is the last row and has the least unused id, which is returned. -/
def AddsLeastUnused (environment : Environment layout.schema) (roomData : RoomTable)
    (session : Session TableName) : Prop :=
  ∃ room row, (roomTableAddRecord environment roomData session).1 = some (.success, room) ∧
    LeastUnused (rooms session) room.groupId.toNat ∧
    rooms (roomTableAddRecord environment roomData session).2 = rooms session ++ [row] ∧
    row.column 2 = .integer room.groupId.toNat

theorem RoomsInRange.append {rows : List Row} (inRange : RoomsInRange rows) {groupId : Nat}
    (unused : LeastUnused rows groupId) (below : groupId < firstRoomId.toNat + mostRooms)
    {row : Row} (isId : row.column 2 = .integer groupId) : RoomsInRange (rows ++ [row]) := by
  constructor
  · constructor
    · intro other member
      rcases List.mem_append.mp member with old | new
      · exact inRange.ids other old
      · rw [List.mem_singleton.mp new]
        exact ⟨groupId, isId, unused.1.1⟩
    · rw [List.pairwise_append]
      refine ⟨inRange.distinct, List.pairwise_singleton _ _, fun other member last new => ?_⟩
      rw [List.mem_singleton.mp new, isId]
      exact unused.1.2 other member
  · intro other member otherId isOtherId
    rcases List.mem_append.mp member with old | new
    · exact inRange.below other old otherId isOtherId
    · rw [List.mem_singleton.mp new, isId] at isOtherId
      have same : groupId = otherId := Int.natCast_inj.mp (Value.integer.inj isOtherId)
      exact same ▸ below

theorem newRoom_column (roomData : RoomTable) (connection : Connection TableName) :
    (newRow layout connection .roomTable (fieldsOf (roomTableAddCommand roomData))).column 2 =
      .integer roomData.groupId.toNat := by
  have second : (roomTableAddCommand roomData).arguments[1]? =
      some (.unsignedLong roomData.groupId) := rfl
  rw [newRow_column, second, Option.map_some, Option.getD_some, Argument.unsignedLong_value]

theorem roomTableAddRecord_of_success {roomData : RoomTable}
    (safe : (Operation.roomTableAddRecord roomData).Safe) {session : Session TableName}
    {room : RoomTable}
    (added : (roomTableAddRecord environment roomData session).1 = some (.success, room)) :
    (dbUnUsedRoomId environment session).1 = some room.groupId ∧
      room.index = BitVec.ofInt 16 (nextIndex layout session.connection .roomTable) ∧
      (roomTableAddRecord environment roomData session).2.connection =
        (Statement.insert .roomTable (fieldsOf
          (roomTableAddCommand { roomData with groupId := room.groupId }))).apply
            layout.schema session.connection := by
  have unchanged := dbUnUsedRoomId_connection environment session
  rw [roomTableAddRecord] at added ⊢
  dsimp only at added ⊢
  cases unused : (dbUnUsedRoomId environment session).1 with
  | none =>
      rw [unused] at added
      cases added
  | some groupId =>
      rw [unused] at added
      dsimp only at added ⊢
      obtain ⟨success, rfl⟩ := Prod.mk.inj (Option.some.inj added)
      have safeCommand := safe groupId _
        (List.mem_singleton_self (roomTableAddCommand { roomData with groupId }))
      have inserted := insertRecord_of_success safeCommand
        (roomTableAddCommand_statement { roomData with groupId }) success
      rw [unchanged] at inserted
      refine ⟨rfl, ?_, inserted.2⟩
      dsimp only
      rw [inserted.1, Option.getD_some]

theorem roomTableAddRecord_leastUnused (faultless : environment.Faultless)
    {roomData : RoomTable} (safe : (Operation.roomTableAddRecord roomData).Safe)
    {session : Session TableName} (inRange : RoomsInRange (rooms session))
    (few : (rooms session).length < mostRooms) :
    AddsLeastUnused environment roomData session ∧
      RoomsInRange (rooms (roomTableAddRecord environment roomData session).2) := by
  obtain ⟨groupId, isUnused, unused, below⟩ :=
    dbUnUsedRoomId_leastUnused faultless inRange few
  have unchanged := dbUnUsedRoomId_connection environment session
  let room := { roomData with groupId := groupId }
  let row := newRow layout session.connection .roomTable (fieldsOf (roomTableAddCommand room))
  have isId : row.column 2 = .integer groupId.toNat := newRoom_column room session.connection
  have kept : RoomsInRange (rooms session ++ [row]) := inRange.append unused below isId
  have safeCommand := safe groupId _ (List.mem_singleton_self (roomTableAddCommand room))
  have isInsert := @roomTableAddCommand_statement layout room
  have success : (insertRecord environment (roomTableAddCommand room)
      (dbUnUsedRoomId environment session).2).1.1 = .success := by
    apply insertRecord_success faultless safeCommand isInsert
    intro position member
    rw [unchanged]
    have isTwo : position = 2 := by
      rw [Layout.schema] at member
      dsimp only at member
      split_ifs at member
      · exact List.mem_singleton.mp member
      · exact absurd member List.not_mem_nil
    subst isTwo
    exact kept.distinct.imp fun different same => absurd same different
  have inserted := (insertRecord_of_success safeCommand isInsert success).2
  have after : rooms (roomTableAddRecord environment roomData session).2 =
      rooms session ++ [row] := by
    rw [rooms, roomTableAddRecord, isUnused]
    dsimp only
    rw [inserted, unchanged, Statement.apply_insert_self]
    rfl
  have stored : (roomTableAddRecord environment roomData session).1 = some (.success,
      { room with
        index := (insertRecord environment (roomTableAddCommand room)
          (dbUnUsedRoomId environment session).2).1.2.getD room.index }) := by
    rw [roomTableAddRecord, isUnused]
    dsimp only
    rw [success]
  exact ⟨⟨_, row, stored, unused, after, isId⟩, after ▸ kept⟩

end Adding

/-! ## Runs -/

section Runs

variable {layout : Layout} {environment : Environment layout.schema}

theorem roomsInRange_nil : RoomsInRange [] := ⟨⟨by simp, List.Pairwise.nil⟩, by simp⟩

theorem RoomsInRange.filter {rows : List Row} (inRange : RoomsInRange rows)
    (keep : Row → Bool) : RoomsInRange (rows.filter keep) := by
  constructor
  · constructor
    · exact fun row member => inRange.ids row (List.mem_of_mem_filter member)
    · exact inRange.distinct.filter keep
  · exact fun row member => inRange.below row (List.mem_of_mem_filter member)

theorem RoomsInRange.map {rows : List Row} (inRange : RoomsInRange rows) {change : Row → Row}
    (same : ∀ row, (change row).column 2 = row.column 2) : RoomsInRange (rows.map change) := by
  constructor
  · constructor
    · intro row member
      obtain ⟨old, oldMember, rfl⟩ := List.mem_map.mp member
      rw [same]
      exact inRange.ids old oldMember
    · apply List.pairwise_map.mpr
      simpa only [same] using inRange.distinct
  · intro row member
    obtain ⟨old, oldMember, rfl⟩ := List.mem_map.mp member
    rw [same]
    exact inRange.below old oldMember

theorem Operation.roomStatements {operation : Operation}
    (notAdd : ∀ roomData, operation ≠ .roomTableAddRecord roomData) (groupId : uint32) :
    ∀ statement ∈ operation.statements groupId, statement.table = .roomTable →
      (∃ condition, statement = .delete .roomTable condition) ∨
        ∃ value condition, statement = .update .roomTable (1, value) condition := by
  intro statement member isRoom
  have isTable := (operation.statement_table groupId statement member).symm.trans isRoom
  cases operation with
  | roomTableAddRecord roomData => exact absurd rfl (notAdd roomData)
  | roomTableDelete roomData => exact Or.inl ⟨_, List.mem_singleton.mp member⟩
  | roomTableClear => exact Or.inl ⟨_, List.mem_singleton.mp member⟩
  | roomTableUpdate roomData maskcode =>
      obtain ⟨column, isColumn, rfl⟩ := mem_updateStatements member
      rw [List.mem_singleton.mp isColumn]
      exact Or.inr ⟨_, _, rfl⟩
  | _ => cases isTable

theorem perform_roomsInRange (faultless : environment.Faultless) {operation : Operation}
    (safe : operation.Safe) {session : Session TableName}
    (inRange : RoomsInRange (rooms session)) (few : (rooms session).length < mostRooms) :
    RoomsInRange (rooms (perform environment session operation)) := by
  by_cases isAdd : ∃ roomData, operation = .roomTableAddRecord roomData
  · obtain ⟨roomData, rfl⟩ := isAdd
    exact (roomTableAddRecord_leastUnused faultless safe inRange few).2
  · have notAdd : ∀ roomData, operation ≠ .roomTableAddRecord roomData :=
      fun roomData isRoom => isAdd ⟨roomData, isRoom⟩
    refine perform_invariant
      (fun connection => RoomsInRange (connection.tables .roomTable).rows) safe ?_ inRange
    intro statement member connection holds
    by_cases isRoom : statement.table = .roomTable
    · rcases Operation.roomStatements notAdd _ statement member isRoom with
        ⟨condition, rfl⟩ | ⟨value, condition, rfl⟩
      · rw [Statement.apply_delete_self]
        exact holds.filter _
      · rw [Statement.apply_update_self]
        apply holds.map
        intro row
        split_ifs
        · have isOther : (2 : Nat) ≠ 1 := by decide
          exact row.column_set_of_ne isOther
        · rfl
    · rw [Statement.apply_tables_of_ne (Ne.symm isRoom)]
      exact holds

/-- No command of the operation overruns its buffer or contains a quote too many, and
there is room for another room. -/
def RoomCondition (session : Session TableName) (operation : Operation) : Prop :=
  operation.Safe ∧ (rooms session).length < mostRooms

/-- The ids are different at all times, and every new room gets the least unused one. -/
def RoomIdsKept (environment : Environment layout.schema) (start : Session TableName)
    (operations : List Operation) : Prop :=
  (∀ before after, operations = before ++ after →
    GroupIds (rooms (performed environment start before))) ∧
  EachCall (performStep environment)
    (fun session operation => ∀ roomData, operation = .roomTableAddRecord roomData →
      AddsLeastUnused environment roomData session) start operations

/-- The group ids are kept by every run of safe operations from no rooms at all. -/
theorem roomIdsKept_of_safe (faultless : environment.Faultless) {start : Session TableName}
    (empty : rooms start = []) {operations : List Operation}
    (each : EachCall (performStep environment) RoomCondition start operations) :
    RoomIdsKept environment start operations := by
  have initial : RoomsInRange (rooms start) := by
    rw [empty]
    exact roomsInRange_nil
  have reached : ∀ before after, operations = before ++ after →
      RoomsInRange (rooms (performed environment start before)) := by
    intro before after split
    rw [split] at each
    apply invariant_finalState RoomCondition (fun session => RoomsInRange (rooms session))
      (fun session operation condition inRange =>
        perform_roomsInRange faultless condition.1 inRange condition.2)
      (eachCall_of_append each) initial
  refine ⟨fun before after split => (reached before after split).toGroupIds, ?_⟩
  intro before operation after split roomData isAdd
  have condition := each before operation after split
  rw [isAdd] at condition
  exact (roomTableAddRecord_leastUnused faultless condition.1
    (reached before _ split) condition.2).1

end Runs

/-- Two rooms are added, the first is deleted and another one takes its id. -/
theorem roomIdsKept_of_safe_hall :
    let room (name : String) : RoomTable := ⟨0, name.toList, 0⟩
    let hall : RoomTable := ⟨0, [], firstRoomId⟩
    RoomIdsKept (Environment.plain Layout.shipped.schema) Session.empty
      [.roomTableAddRecord (room "Hall"), .roomTableAddRecord (room "Bath"),
        .roomTableDelete hall, .roomTableAddRecord (room "Attic")] := by
  intro room hall
  apply roomIdsKept_of_safe Environment.plain_faultless rfl
  have added : ∀ name ∈ ["Hall", "Bath", "Attic"],
      (Operation.roomTableAddRecord (room name)).Safe := by
    intro name member
    apply roomTableAddRecord_safe
    · revert name
      decide
    · revert name
      decide
  have deleted : (Operation.roomTableDelete hall).Safe :=
    Operation.safe_of_commands (fun _ => Operation.noConfusion) (by decide +kernel)
  have few : EachCall (performStep (Environment.plain Layout.shipped.schema))
      (fun session _ => (rooms session).length < mostRooms) Session.empty
      [.roomTableAddRecord (room "Hall"), .roomTableAddRecord (room "Bath"),
        .roomTableDelete hall, .roomTableAddRecord (room "Attic")] := by
    decide +kernel
  intro before operation after split
  refine ⟨?_, few before operation after split⟩
  have member : operation ∈ [.roomTableAddRecord (room "Hall"),
      .roomTableAddRecord (room "Bath"), .roomTableDelete hall,
      .roomTableAddRecord (room "Attic")] := by
    rw [split]
    exact List.mem_append_right before List.mem_cons_self
  simp only [List.mem_cons, List.not_mem_nil, or_false] at member
  rcases member with rfl | rfl | rfl | rfl
  · exact added "Hall" (by decide)
  · exact added "Bath" (by decide)
  · exact deleted
  · exact added "Attic" (by decide)

/-- A quote in a name ends the string, and what follows it is the group id. -/
theorem roomIdsKept_fails :
    ¬RoomIdsKept (Environment.plain Layout.shipped.schema) Session.empty
      [.roomTableAddRecord ⟨0, "x',1) --".toList, 0⟩] := by
  intro kept
  have stored : (rooms (performed (Environment.plain Layout.shipped.schema) Session.empty
      [.roomTableAddRecord ⟨0, "x',1) --".toList, 0⟩])).map (fun row => row.column 2) =
      [.integer 1] := by
    decide +kernel
  obtain ⟨row, member, isOne⟩ : ∃ row ∈ rooms (performed
      (Environment.plain Layout.shipped.schema) Session.empty
      [.roomTableAddRecord ⟨0, "x',1) --".toList, 0⟩]), row.column 2 = .integer 1 := by
    apply List.mem_map.mp
    rw [stored]
    exact List.mem_singleton_self _
  obtain ⟨groupId, isId, low⟩ := (kept.1 _ [] rfl).ids row member
  rw [isOne] at isId
  have one : (1 : Int) = groupId := Value.integer.inj isId
  have bound : 0x15a00a ≤ groupId := low
  omega

end StudyDemo.Sqlite
