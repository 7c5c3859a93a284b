import StudyDemo.Sqlite.RoomIds

/-! # Scans that are cut short

A row or an allocation that fails ends the search through the rooms, and the id of a
new room is computed from the rooms listed by then: what the search returns is not
looked at. When the table could not be read at all the list was never initialised. -/

namespace StudyDemo.Sqlite

open Sql

section Scans

variable {layout : Layout} (environment : Environment layout.schema)

/-- Nothing is inserted and an error is returned, or the new room has an id that no
other has. -/
def AddsUnused (roomData : RoomTable) (session : Session TableName) : Prop :=
  let done := roomTableAddRecord environment roomData session
  ∃ status room, done.1 = some (status, room) ∧
    (status ≠ .success ∧ rooms done.2 = rooms session ∨
      ∃ row, rooms done.2 = rooms session ++ [row] ∧
        ∀ other ∈ rooms session, other.column 2 ≠ row.column 2)

/-- How far a scan of so many rows gets when it starts after these calls: how many
rows it lists, and the calls that were made at its end. -/
def scan : Nat → Nat → Nat × Nat
  | 0, calls => (0, calls + 1)
  | rows + 1, calls =>
      if environment.succeeds calls then
        if environment.succeeds (calls + 1) then
          ((scan rows (calls + 2)).1 + 1, (scan rows (calls + 2)).2)
        else (0, calls + 2)
      else (0, calls + 1)

def roomScan (session : Session TableName) : Nat × Nat :=
  scan environment (rooms session).length (session.calls + 1)

/-- The scan starts, and an id up to the next after the rooms it lists is unused, or
the command that inserts the room fails. -/
def ScanSuffices (session : Session TableName) : Prop :=
  environment.succeeds session.calls ∧
    (layout.unique .roomTable ∨ ¬environment.succeeds (roomScan environment session).2 ∨
      2 ^ 32 ≤ firstRoomId.toNat + (roomScan environment session).1 ∨
      ∃ unused, firstRoomId.toNat ≤ unused ∧
        unused ≤ firstRoomId.toNat + (roomScan environment session).1 ∧
        ∀ row ∈ rooms session, row.column 2 ≠ .integer unused)

/-- What a loop has listed, however it ended. -/
def listedBy {Listed : Type} : Except (SqliteStatus × List Listed) (List Listed) → List Listed
  | .error returned => returned.2
  | .ok list => list

variable {environment}

theorem forRows_appendTurn {Listed : Type} (ofRow : Row → Listed) (rows : List Row)
    (list : List Listed) (session : Session TableName) :
    let done := environment.forRows (appendTurn environment ofRow) rows list session
    listedBy done.1 =
        list ++ (rows.take (scan environment rows.length session.calls).1).map ofRow ∧
      done.2.calls = (scan environment rows.length session.calls).2 := by
  induction rows generalizing list session with
  | nil => exact ⟨(List.append_nil list).symm, rfl⟩
  | cons row rows induction =>
      dsimp only
      rw [Environment.forRows, List.length_cons, scan]
      split_ifs with stepped allocated
      · have memory : (environment.malloc session.called).1 = true := allocated
        have turn : appendTurn environment ofRow row list session.called =
            (.ok (list ++ [ofRow row]), session.called.called) := by
          rw [appendTurn, if_pos memory]
          rfl
        obtain ⟨listed, made⟩ := induction (list ++ [ofRow row]) session.called.called
        rw [turn]
        dsimp only
        rw [listed, made, List.take_succ_cons, List.map_cons, List.append_assoc]
        exact ⟨rfl, rfl⟩
      · have memory : ¬(environment.malloc session.called).1 = true := allocated
        have turn : appendTurn environment ofRow row list session.called =
            (.error (.mallocErr, list), session.called.called) := by
          rw [appendTurn, if_neg memory]
          rfl
        rw [turn]
        exact ⟨(List.append_nil list).symm, rfl⟩
      · exact ⟨(List.append_nil list).symm, rfl⟩

end Scans

/-! ## The count -/

theorem ofNat_toNat_cases {start : Nat} (fits : start < 2 ^ 32 + firstRoomId.toNat) :
    (BitVec.ofNat 32 start).toNat = start ∧ start < 2 ^ 32 ∨
      2 ^ 32 ≤ start ∧ (BitVec.ofNat 32 start).toNat < firstRoomId.toNat := by
  have isFirst : firstRoomId.toNat = 0x15a00a := rfl
  rw [isFirst] at fits ⊢
  rw [BitVec.toNat_ofNat]
  omega

/-- An id that was found behind so many ids from `start` on, some of which may be those
of rooms that the scan did not list. -/
structure FoundAfter (start length found : Nat) (groupIds : List Nat) : Prop where
  outside : found < firstRoomId.toNat ∨ start ≤ found
  held_iff : found ∈ groupIds ↔ start + length < 2 ^ 32 ∧
    ∀ groupId, start ≤ groupId → groupId ≤ start + length → groupId ∈ groupIds

theorem foundAfter_of_absent {start length found : Nat} {groupIds : List Nat}
    (outside : found < firstRoomId.toNat ∨ start ≤ found) (notHeld : found ∉ groupIds)
    (absent : start ∉ groupIds) : FoundAfter start length found groupIds :=
  ⟨outside, iff_of_false notHeld fun both =>
    absent (both.2 start (Nat.le_refl _) (Nat.le_add_right _ _))⟩

/-- The count stops at an id that no room has, or overflowed. -/
theorem foundAfter_stop {start length : Nat} {groupIds : List Nat}
    (low : firstRoomId.toNat ≤ start) (fits : start < 2 ^ 32 + firstRoomId.toNat)
    (above : ∀ groupId ∈ groupIds, start ≤ groupId) (absent : start ∉ groupIds) :
    FoundAfter start length (BitVec.ofNat 32 start).toNat groupIds := by
  rcases ofNat_toNat_cases fits with ⟨same, -⟩ | ⟨-, wrapped⟩
  · rw [same]
    exact foundAfter_of_absent (Or.inr (Nat.le_refl _)) absent absent
  · refine foundAfter_of_absent (Or.inl wrapped) (fun held => ?_) absent
    have := above _ held
    omega

theorem foundAfter_nil {start : Nat} {groupIds : List Nat} (low : firstRoomId.toNat ≤ start)
    (fits : start < 2 ^ 32 + firstRoomId.toNat)
    (above : ∀ groupId ∈ groupIds, start ≤ groupId) :
    FoundAfter start 0 (BitVec.ofNat 32 start).toNat groupIds := by
  rcases ofNat_toNat_cases fits with ⟨same, small⟩ | ⟨large, wrapped⟩
  · rw [same]
    refine ⟨Or.inr (Nat.le_refl _), fun held => ⟨small, fun groupId least most => ?_⟩, fun both =>
      both.2 start (Nat.le_refl _) (Nat.le_refl _)⟩
    obtain rfl : groupId = start := Nat.le_antisymm most least
    exact held
  · refine ⟨Or.inl wrapped, fun held => ?_, fun both => ?_⟩
    · have := above _ held
      omega
    · omega

theorem FoundAfter.next {start length found : Nat} {later : List Nat}
    (low : firstRoomId.toNat ≤ start) (rest : FoundAfter (start + 1) length found later) :
    FoundAfter start (length + 1) found (start :: later) := by
  have outside := rest.outside
  have notFirst : found ≠ start := by omega
  have sameEnd : start + 1 + length = start + (length + 1) := by omega
  refine ⟨by omega, ?_⟩
  rw [List.mem_cons, or_iff_right notFirst, rest.held_iff, sameEnd]
  refine and_congr_right fun _ => ⟨fun covered groupId least most => ?_,
    fun covered groupId least most => ?_⟩
  · rcases Nat.eq_or_lt_of_le least with isFirst | above
    · exact isFirst ▸ List.mem_cons_self
    · exact List.mem_cons_of_mem _ (covered groupId above most)
  · have held := covered groupId (by omega) most
    exact (List.mem_cons.mp held).resolve_left (by omega)

/-- The count stops at an id of the table when it counted all the listed ones and the
next is not among those. -/
theorem countRoomId_found {start : Nat} {list : List RoomTable} {listed rest : List Nat}
    (reads : list.map RoomTable.groupId = listed.map (BitVec.ofNat 32))
    (low : firstRoomId.toNat ≤ start)
    (fits : start + listed.length < 2 ^ 32 + firstRoomId.toNat)
    (increasing : (listed ++ rest).Pairwise (· < ·))
    (above : ∀ groupId ∈ listed ++ rest, start ≤ groupId) :
    FoundAfter start listed.length (countRoomId (BitVec.ofNat 32 start) list).toNat
      (listed ++ rest) := by
  induction listed generalizing start list with
  | nil =>
      obtain rfl := List.map_eq_nil_iff.mp reads
      exact foundAfter_nil low (Nat.lt_of_le_of_lt (Nat.le_add_right _ _) fits) above
  | cons groupId listed induction =>
      cases list with
      | nil => cases reads
      | cons room list =>
          obtain ⟨isRoom, others⟩ := List.cons.inj reads
          have first := above groupId List.mem_cons_self
          rw [List.length_cons] at fits ⊢
          rw [List.cons_append] at increasing above ⊢
          have behind := (List.pairwise_cons.mp increasing).1
          have aboveNext : ∀ other ∈ listed ++ rest, start + 1 ≤ other :=
            fun other member => Nat.lt_of_le_of_lt first (behind other member)
          have absent : groupId ≠ start → start ∉ groupId :: (listed ++ rest) := by
            intro different member
            rcases List.mem_cons.mp member with isFirst | isLater
            · exact different isFirst.symm
            · exact Nat.lt_irrefl start (aboveNext start isLater)
          have next : BitVec.ofNat 32 start + 1 = BitVec.ofNat 32 (start + 1) :=
            (BitVec.ofNat_add start 1).symm
          rw [countRoomId]
          by_cases matched : BitVec.ofNat 32 start = room.groupId
          · rw [if_neg (not_not_intro matched), next]
            have found := @induction (start + 1) list others (by omega) (by omega)
              (List.pairwise_cons.mp increasing).2 aboveNext
            by_cases isStart : groupId = start
            · rw [isStart]
              exact found.next low
            · -- The id of the room is too large for 32 bits, and so are those behind it.
              have congruent : (BitVec.ofNat 32 start).toNat = (BitVec.ofNat 32 groupId).toNat := by
                rw [matched, isRoom]
              rw [BitVec.toNat_ofNat, BitVec.toNat_ofNat] at congruent
              have small := (countRoomId (BitVec.ofNat 32 (start + 1)) list).isLt
              refine foundAfter_of_absent (found.outside.imp_right fun above => by omega)
                (fun held => ?_) (absent isStart)
              rcases List.mem_cons.mp held with isFirst | isLater
              · omega
              · have := behind _ isLater
                omega
          · rw [if_pos matched]
            have different : groupId ≠ start := by
              intro isStart
              exact matched (isStart ▸ isRoom.symm)
            exact foundAfter_stop low (Nat.lt_of_le_of_lt (Nat.le_add_right _ _) fits) above
              (absent different)

/-! ## Adding a room -/

section Adding

variable {layout : Layout} {environment : Environment layout.schema}

theorem scan_le (rows calls : Nat) : (scan environment rows calls).1 ≤ rows := by
  induction rows generalizing calls with
  | zero => exact Nat.le_refl 0
  | succ rows induction =>
      rw [scan]
      split_ifs
      · exact Nat.succ_le_succ (induction (calls + 2))
      · exact Nat.zero_le _
      · exact Nat.zero_le _

theorem dbUnUsedRoomId_of_failed {session : Session TableName}
    (failed : ¬environment.succeeds session.calls) :
    (dbUnUsedRoomId environment session).1 = none := by
  rw [dbUnUsedRoomId, roomTableSearch, Environment.prepare, if_neg failed]
  rfl

theorem dbUnUsedRoomId_of_started {session : Session TableName}
    (started : environment.succeeds session.calls) :
    ∃ sorted : List Row, sorted.Perm (rooms session) ∧
      (sorted.Pairwise fun left right => (left.column 2).le (right.column 2)) ∧
      (dbUnUsedRoomId environment session).1 =
        some (countRoomId firstRoomId ((sorted.take (roomScan environment session).1).map
          (roomOfRow environment.engine))) ∧
      (dbUnUsedRoomId environment session).2.calls = (roomScan environment session).2 := by
  have whole := @selectedRows_whole layout environment roomTableSearchCommand .roomTable (some 2)
    quoteFree_nil roomTableSearchCommand_query session.connection
  have gives := (prepare_selectedRows environment quoteFree_nil roomTableSearchCommand_query
    session.connection).1
  refine ⟨_, whole.1, whole.2 2 rfl, ?_⟩
  have loop := @forRows_appendTurn layout environment _ (roomOfRow environment.engine)
    (selectedRows environment roomTableSearchCommand session.connection) []
    { session.called with live := session.live + 1 }
  have size : (selectedRows environment roomTableSearchCommand session.connection).length =
      (rooms session).length := whole.1.length_eq
  rw [size, List.nil_append] at loop
  rw [dbUnUsedRoomId, roomTableSearch, Environment.prepare, if_pos started, gives]
  dsimp only at loop ⊢
  revert loop
  cases environment.forRows (appendTurn environment (roomOfRow environment.engine))
    (selectedRows environment roomTableSearchCommand session.connection) []
    { session.called with live := session.live + 1 } with
  | mk done after =>
      intro loop
      cases done with
      | error returned => exact ⟨congrArg (some ∘ countRoomId firstRoomId) loop.1, loop.2⟩
      | ok list => exact ⟨congrArg (some ∘ countRoomId firstRoomId) loop.1, loop.2⟩

/-- The id that is looked up is one of a room when the rooms listed, and the next one,
have the first ids. -/
theorem dbUnUsedRoomId_held_iff {session : Session TableName} {found : uint32}
    (started : environment.succeeds session.calls) (groupIds : GroupIds (rooms session))
    (few : (roomScan environment session).1 < 2 ^ 32)
    (isFound : (dbUnUsedRoomId environment session).1 = some found) :
    (∃ row ∈ rooms session, row.column 2 = .integer found.toNat) ↔
      firstRoomId.toNat + (roomScan environment session).1 < 2 ^ 32 ∧
        ∀ groupId, firstRoomId.toNat ≤ groupId →
          groupId ≤ firstRoomId.toNat + (roomScan environment session).1 →
          ∃ row ∈ rooms session, row.column 2 = .integer groupId := by
  obtain ⟨sorted, perm, ascending, isCount, -⟩ := dbUnUsedRoomId_of_started started
  obtain rfl := Option.some.inj (isCount.symm.trans isFound)
  have sortedIds := groupIds.perm perm
  have held : ∀ groupId : Nat, (∃ row ∈ rooms session, row.column 2 = .integer groupId) ↔
      groupId ∈ (sorted.take (roomScan environment session).1).map groupIdOf ++
        (sorted.drop (roomScan environment session).1).map groupIdOf := by
    intro groupId
    rw [← List.map_append, List.take_append_drop, sortedIds.mem_iff]
    simp only [perm.mem_iff]
  have size : ((sorted.take (roomScan environment session).1).map groupIdOf).length =
      (roomScan environment session).1 := by
    rw [List.length_map, List.length_take, perm.length_eq]
    exact Nat.min_eq_left (scan_le _ _)
  have reads : ((sorted.take (roomScan environment session).1).map
      (roomOfRow environment.engine)).map RoomTable.groupId =
        ((sorted.take (roomScan environment session).1).map groupIdOf).map
          (BitVec.ofNat 32) := by
    rw [List.map_map, List.map_map]
    apply List.map_congr_left
    intro row member
    rw [Function.comp_apply, Function.comp_apply, roomOfRow]
    dsimp only
    rw [(sortedIds.column row (List.mem_of_mem_take member)).1,
      environment.engine.columnInt_integer, BitVec.ofInt_natCast]
  have increasing := sortedIds.increasing ascending
  rw [← List.take_append_drop (roomScan environment session).1 sorted, List.map_append]
    at increasing
  have above : ∀ groupId ∈ (sorted.take (roomScan environment session).1).map groupIdOf ++
      (sorted.drop (roomScan environment session).1).map groupIdOf,
      firstRoomId.toNat ≤ groupId := by
    intro groupId member
    rw [← List.map_append, List.take_append_drop] at member
    obtain ⟨row, rowMember, rfl⟩ := List.mem_map.mp member
    exact (sortedIds.column row rowMember).2
  have count := countRoomId_found reads (Nat.le_refl firstRoomId.toNat)
    (by rw [size]; omega) increasing above
  have isFirst : BitVec.ofNat 32 firstRoomId.toNat = firstRoomId := rfl
  rw [size, isFirst] at count
  simp only [held]
  exact count.held_iff

theorem runCommand_success_iff {command : Command} (isSafe : Safe command)
    {statement : Statement TableName}
    (isStatement : command.statement layout.schema = some statement)
    (session : Session TableName) :
    (runCommand environment command session).1 = true ↔
      environment.succeeds session.calls = true ∧
        (statement.run layout.schema session.connection).isSome = true := by
  rw [runCommand, if_pos isSafe.fits, Environment.exec,
    environment.engine.exec_statement _ _ (readStatement_text isSafe.quoteFree isStatement)]
  by_cases succeeds : environment.succeeds session.calls = true
  · rw [if_pos succeeds]
    cases statement.run layout.schema session.connection with
    | none => simp
    | some next => simp [succeeds]
  · rw [if_neg succeeds]
    simp [succeeds]

section Found

variable {roomData : RoomTable} (safe : (Operation.roomTableAddRecord roomData).Safe)
  {session : Session TableName} {found : uint32}

/-- The command that inserts the room with the id that was found. -/
def insertFound (environment : Environment layout.schema) (roomData : RoomTable)
    (found : uint32) (session : Session TableName) : Bool × Session TableName :=
  runCommand environment (roomTableAddCommand { roomData with groupId := found })
    (dbUnUsedRoomId environment session).2

/-- No room has the id that was found. -/
def Unheld (session : Session TableName) (found : uint32) : Prop :=
  ∀ other ∈ rooms session, other.column 2 ≠ .integer found.toNat

include safe

theorem addsUnused_iff_of_found (isFound : (dbUnUsedRoomId environment session).1 = some found) :
    AddsUnused environment roomData session ↔
      ((insertFound environment roomData found session).1 = true → Unheld session found) := by
  have unchanged := dbUnUsedRoomId_connection environment session
  have isSafe := safe found _ (List.mem_singleton_self _)
  have isInsert := @roomTableAddCommand_statement layout { roomData with groupId := found }
  have ends := @runCommand_cases layout environment _ isSafe _ isInsert
    (dbUnUsedRoomId environment session).2
  have isId := @newRoom_column layout { roomData with groupId := found } session.connection
  rw [unchanged] at ends
  rw [AddsUnused, roomTableAddRecord, isFound, insertFound]
  dsimp only
  rw [insertRecord]
  rcases ends with ⟨success, ran⟩ | ⟨failed, kept⟩
  · have after : rooms (runCommand environment
        (roomTableAddCommand { roomData with groupId := found })
        (dbUnUsedRoomId environment session).2).2 =
          rooms session ++ [newRow layout session.connection .roomTable
            (fieldsOf (roomTableAddCommand { roomData with groupId := found }))] := by
      rw [rooms, ← (Statement.run_eq_some.mp ran).2, Statement.apply_insert_self]
      rfl
    rw [if_pos success]
    dsimp only
    rw [after]
    constructor
    · rintro ⟨status, room, isResult, ⟨isError, -⟩ | ⟨row, isNew, unheld⟩⟩ -
      · exact absurd (Prod.mk.inj (Option.some.inj isResult)).1.symm isError
      · have isLast := List.singleton_inj.mp (List.append_cancel_left isNew)
        rw [← isLast, isId] at unheld
        exact unheld
    · intro unheld
      refine ⟨_, _, rfl, Or.inr ⟨_, rfl, ?_⟩⟩
      rw [isId]
      exact unheld success
  · have notDone : ¬(runCommand environment
        (roomTableAddCommand { roomData with groupId := found })
        (dbUnUsedRoomId environment session).2).1 = true := by
      rw [failed]
      exact Bool.false_ne_true
    rw [if_neg notDone]
    dsimp only
    refine iff_of_true ⟨_, _, rfl, Or.inl ⟨SqliteStatus.noConfusion, ?_⟩⟩
      fun success => absurd success notDone
    rw [rooms, kept]
    rfl

theorem insertFound_success_iff (groupIds : GroupIds (rooms session)) :
    (insertFound environment roomData found session).1 = true ↔
      environment.succeeds (dbUnUsedRoomId environment session).2.calls ∧
        (layout.unique .roomTable → Unheld session found) := by
  have unchanged := dbUnUsedRoomId_connection environment session
  have isSafe := safe found _ (List.mem_singleton_self _)
  have isInsert := @roomTableAddCommand_statement layout { roomData with groupId := found }
  have isId := @newRoom_column layout { roomData with groupId := found } session.connection
  have called := @runCommand_success_iff layout environment _ isSafe _ isInsert
    (dbUnUsedRoomId environment session).2
  have unique : (∀ position ∈ layout.schema.unique .roomTable,
      ((session.connection.tables .roomTable).insert (newRow layout session.connection .roomTable
        (fieldsOf (roomTableAddCommand { roomData with groupId := found })))).Unique position) ↔
      (layout.unique .roomTable → Unheld session found) := by
    by_cases isUnique : layout.unique .roomTable = true
    · have positions : layout.schema.unique .roomTable = [2] := if_pos isUnique
      have appended : ∀ row : Row, row.column 2 = .integer found.toNat →
          (((session.connection.tables .roomTable).insert row).Unique 2 ↔
            Unheld session found) := by
        intro row isFound
        rw [Table.Unique, Table.insert, List.pairwise_append]
        constructor
        · rintro ⟨-, -, apart⟩ other member same
          have isNull := apart other member row (List.mem_singleton_self row)
            (same.trans isFound.symm)
          rw [same] at isNull
          cases isNull
        · intro unheld
          refine ⟨groupIds.distinct.imp fun different same => absurd same different,
            List.pairwise_singleton _ _, fun other member last isLast same => ?_⟩
          rw [List.mem_singleton.mp isLast, isFound] at same
          exact absurd same (unheld other member)
      rw [positions, List.forall_mem_singleton, appended _ isId]
      exact ⟨fun unheld _ => unheld, fun claimed => claimed isUnique⟩
    · have positions : layout.schema.unique .roomTable = [] := if_neg isUnique
      rw [positions]
      exact iff_of_true (fun _ member => absurd member List.not_mem_nil)
        fun claimed => absurd claimed isUnique
  rw [insertFound, called, unchanged]
  refine and_congr_right fun _ => ?_
  rw [← unique, Option.isSome_iff_exists]
  simp only [Statement.run_eq_some, exists_and_left, exists_eq', and_true, Statement.table,
    Statement.apply_insert_self]
  rfl

end Found

/-- A cut short scan duplicates no group id when it suffices, and only then. -/
theorem roomTableAddRecord_addsUnused_iff {roomData : RoomTable}
    (safe : (Operation.roomTableAddRecord roomData).Safe) {session : Session TableName}
    (groupIds : GroupIds (rooms session)) (few : (roomScan environment session).1 < 2 ^ 32) :
    AddsUnused environment roomData session ↔ ScanSuffices environment session := by
  by_cases started : environment.succeeds session.calls
  · obtain ⟨sorted, -, -, isFound, calls⟩ := dbUnUsedRoomId_of_started started
    have held := dbUnUsedRoomId_held_iff started groupIds few isFound
    have unheld : Unheld session (countRoomId firstRoomId
        ((sorted.take (roomScan environment session).1).map (roomOfRow environment.engine))) ↔
        2 ^ 32 ≤ firstRoomId.toNat + (roomScan environment session).1 ∨
          ∃ unused, firstRoomId.toNat ≤ unused ∧
            unused ≤ firstRoomId.toNat + (roomScan environment session).1 ∧
            ∀ row ∈ rooms session, row.column 2 ≠ .integer unused := by
      rw [Unheld, ← not_lt]
      have negated := not_congr held
      simp only [not_exists, not_and, not_forall, exists_prop] at negated
      exact negated.trans imp_iff_not_or
    rw [addsUnused_iff_of_found safe isFound, insertFound_success_iff safe groupIds, calls,
      ScanSuffices, and_iff_right started, ← unheld]
    tauto
  · have crashed : ¬AddsUnused environment roomData session := by
      rintro ⟨status, room, added, -⟩
      rw [roomTableAddRecord, dbUnUsedRoomId_of_failed started] at added
      cases added
    exact iff_of_false crashed fun enough => started enough.1

end Adding

/-- One call fails. -/
def failingAt (layout : Layout) (call : Nat) : Environment layout.schema :=
  { Environment.plain layout.schema with succeeds := fun other => decide (other ≠ call) }

/-- A database with one room, which has the first id. -/
def hall : Session TableName where
  connection :=
    { tables := Function.update (fun _ => ⟨[], 0⟩) .roomTable
        ⟨[⟨1, cellsOf [(1, .text "Hall".toList), (2, .integer firstRoomId.toNat)]⟩], 1⟩
      lastInsertRowid := 1 }
  calls := 0
  live := 0

/-- The scan lists nothing: there is no memory for the first room. -/
theorem roomTableAddRecord_addsUnused_iff_hall :
    AddsUnused (failingAt Layout.repeating 2) ⟨0, "Bath".toList, 0⟩ hall ↔
      ScanSuffices (failingAt Layout.repeating 2) hall := by
  apply roomTableAddRecord_addsUnused_iff
  · exact roomTableAddRecord_safe (by decide) (by decide)
  · constructor
    · intro row member
      rw [List.mem_singleton.mp member]
      exact ⟨firstRoomId.toNat, rfl, Nat.le_refl _⟩
    · exact List.pairwise_singleton _ _
  · exact Nat.lt_of_le_of_lt (scan_le _ _) (by decide)

/-- Without memory for the first room the first id is given out again, and a query that
is not prepared ends the program. -/
theorem roomTableAddRecord_addsUnused_fails :
    ¬AddsUnused (failingAt Layout.repeating 2) ⟨0, "Bath".toList, 0⟩ hall ∧
      ¬AddsUnused (failingAt Layout.shipped 0) ⟨0, "Bath".toList, 0⟩ hall := by
  have status : (roomTableAddRecord (failingAt Layout.repeating 2) ⟨0, "Bath".toList, 0⟩
      hall).1.map Prod.fst = some .success := by
    decide +kernel
  have ids : (rooms (roomTableAddRecord (failingAt Layout.repeating 2) ⟨0, "Bath".toList, 0⟩
      hall).2).map (fun row => row.column 2) =
        [.integer firstRoomId.toNat, .integer firstRoomId.toNat] := by
    decide +kernel
  have crashed : (roomTableAddRecord (failingAt Layout.shipped 0) ⟨0, "Bath".toList, 0⟩
      hall).1.isNone := by
    decide +kernel
  constructor
  · rintro ⟨returned, room, isResult, ⟨isError, -⟩ | ⟨row, isNew, unheld⟩⟩
    · rw [isResult, Option.map_some] at status
      exact isError (Option.some.inj status)
    · have first : (rooms hall).map (fun row => row.column 2) = [.integer firstRoomId.toNat] := rfl
      rw [isNew, List.map_append, first] at ids
      have isLast : row.column 2 = .integer firstRoomId.toNat :=
        (List.cons.inj (List.cons.inj ids).2).1
      exact unheld _ (List.mem_singleton_self _) isLast.symm
  · rintro ⟨returned, room, isResult, -⟩
    rw [isResult] at crashed
    cases crashed

end StudyDemo.Sqlite
