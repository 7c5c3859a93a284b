import StudyDemo.Foundation.Gaps
import StudyDemo.Sqlite.Lookups

/-! # Unused ids of scenes and profiles

The search for an unused id counts from 1 along the sorted ids of the table. Nothing
keeps these different or above 0, and the count stops too early when they are not. -/

namespace StudyDemo.Sqlite

open Sql Execution

/-! ## Ids -/

/-- The tables whose records have ids of 16 bits that callers choose. -/
def idTables : List TableName := [.sceneTable, .profileTable]

def Held (rows : List Row) (id : Nat) : Prop := ∃ row ∈ rows, row.column 1 = .integer id

def HeldTwice (rows : List Row) (id : Nat) : Prop :=
  2 ≤ rows.countP fun row => row.satisfies (some (1, .integer id))

/-- If an id from 1 to 65535 is not held by any row, the one returned is not. -/
def Fresh (rows : List Row) (returned : Option uint16) : Prop :=
  (∃ unused : Nat, 1 ≤ unused ∧ unused ≤ 65535 ∧ ¬Held rows unused) →
    ∃ id, returned = some id ∧ ¬Held rows id.toNat

/-- The count meets the id 0 while 1 is held, or meets an id a second time while this
one and all from 1 to the next are held. -/
def StopsEarly (rows : List Row) : Prop :=
  (Held rows 1 ∧ Held rows 0) ∨
    ∃ twice ≥ 1, HeldTwice rows twice ∧ ∀ id, 1 ≤ id → id ≤ twice + 1 → Held rows id

/-- The count gets to a gap, or there is none. -/
def GapReached (rows : List Row) : Prop :=
  (∀ id, 1 ≤ id → id ≤ 65535 → Held rows id) ∨ ¬StopsEarly rows

/-- Every row has a number of 16 bits as its id. -/
def HaveIds (rows : List Row) : Prop :=
  ∀ row ∈ rows, ∃ id : uint16, row.column 1 = .integer id.toNat

def idNumber (row : Row) : Nat :=
  match row.column 1 with
  | .integer value => value.toNat
  | _ => 0

section Numbers

theorem idNumber_eq {row : Row} {id : Nat} (isId : row.column 1 = .integer id) :
    idNumber row = id := by
  rw [idNumber, isId]
  exact Int.toNat_natCast id

variable {rows : List Row} (haveIds : HaveIds rows)

include haveIds

theorem HaveIds.column : ∀ row ∈ rows, row.column 1 = .integer (idNumber row) ∧
    idNumber row < 2 ^ 16 := by
  intro row member
  obtain ⟨id, isId⟩ := haveIds row member
  rw [idNumber_eq isId]
  exact ⟨isId, id.isLt⟩

theorem HaveIds.mem_iff (id : Nat) : id ∈ rows.map idNumber ↔ Held rows id := by
  rw [List.mem_map]
  constructor
  · rintro ⟨row, member, rfl⟩
    exact ⟨row, member, (haveIds.column row member).1⟩
  · rintro ⟨row, member, isId⟩
    exact ⟨row, member, idNumber_eq isId⟩

theorem HaveIds.count_eq (id : Nat) :
    (rows.map idNumber).count id =
      rows.countP fun row => row.satisfies (some (1, .integer id)) := by
  rw [List.count, List.countP_map]
  apply List.countP_congr
  intro row member
  have isNumber := (haveIds.column row member).1
  rw [Function.comp_apply, Row.satisfies, decide_eq_true_eq, beq_iff_eq]
  constructor
  · intro same
    exact isNumber.trans (congrArg (fun number : Nat => Value.integer number) same)
  · exact idNumber_eq

theorem HaveIds.crowded_iff : Gaps.Crowded 1 (rows.map idNumber) ↔ StopsEarly rows := by
  have zero : (∃ low < 1, Held rows low) ↔ Held rows 0 := by
    constructor
    · rintro ⟨low, below, held⟩
      obtain rfl : low = 0 := by omega
      exact held
    · intro held
      exact ⟨0, by decide, held⟩
  simp only [Gaps.Crowded, haveIds.mem_iff, haveIds.count_eq, zero]
  rfl

end Numbers

/-! ## The count -/

section Count

variable {Listed : Type} {idOf : Listed → uint16}

/-- Counting to a gap is counting through the numbers: the counter does not overflow. -/
theorem countId_toNat {start unused : Nat} {list : List Listed} (low : start ≤ unused)
    (fits : unused < 2 ^ 16) (absent : unused ∉ list.map fun temp => (idOf temp).toNat) :
    (countId idOf (BitVec.ofNat 16 start) list).toNat =
      Gaps.firstGap start (list.map fun temp => (idOf temp).toNat) := by
  induction list generalizing start with
  | nil =>
      rw [countId, List.map_nil, Gaps.firstGap]
      exact Nat.mod_eq_of_lt (by omega)
  | cons temp list induction =>
      have isStart : (BitVec.ofNat 16 start).toNat = start := Nat.mod_eq_of_lt (by omega)
      have next : BitVec.ofNat 16 start + 1 = BitVec.ofNat 16 (start + 1) :=
        (BitVec.ofNat_add start 1).symm
      rw [List.map_cons] at absent
      rw [countId, List.map_cons, Gaps.firstGap]
      by_cases equal : start = (idOf temp).toNat
      · have same : BitVec.ofNat 16 start = idOf temp :=
          BitVec.eq_of_toNat_eq (isStart.trans equal)
        have notFirst : unused ≠ (idOf temp).toNat := fun isFirst =>
          absent (isFirst ▸ List.mem_cons_self)
        rw [if_neg (not_not_intro same), if_pos equal, next]
        exact induction (by omega) fun later => absent (List.mem_cons_of_mem _ later)
      · have different : BitVec.ofNat 16 start ≠ idOf temp := by
          intro same
          exact equal (isStart.symm.trans (congrArg BitVec.toNat same))
        rw [if_pos different, if_neg equal, isStart]

/-- The list holds the ids of the rows. -/
def Reads (idOf : Listed → uint16) (ofRow : Row → Listed) : Prop :=
  ∀ (row : Row) (id : uint16), row.column 1 = .integer id.toNat → idOf (ofRow row) = id

variable {ofRow : Row → Listed}

theorem fresh_countId_iff (reads : Reads idOf ofRow) {rows sorted : List Row}
    (haveIds : HaveIds rows) (perm : sorted.Perm rows)
    (ascending : sorted.Pairwise fun left right => (left.column 1).le (right.column 1)) :
    Fresh rows (some (countId idOf 1 (sorted.map ofRow))) ↔ GapReached rows := by
  have sortedIds : HaveIds sorted := fun row member => haveIds row (perm.mem_iff.mp member)
  have listed : (sorted.map ofRow).map (fun temp => (idOf temp).toNat) = sorted.map idNumber := by
    rw [List.map_map]
    apply List.map_congr_left
    intro row member
    obtain ⟨id, isId⟩ := sortedIds row member
    rw [Function.comp_apply, reads row id isId, idNumber_eq isId]
  have numbers : (sorted.map idNumber).Pairwise (· ≤ ·) := by
    apply List.pairwise_map.mpr
    apply ascending.imp_of_mem
    intro left right leftMember rightMember le
    rw [(sortedIds.column left leftMember).1, (sortedIds.column right rightMember).1] at le
    exact Int.ofNat_le.mp (of_decide_eq_true le)
  have same : ∀ id, Held sorted id ↔ Held rows id := by
    intro id
    rw [Held, Held]
    simp only [perm.mem_iff]
  have counts : StopsEarly sorted ↔ StopsEarly rows := by
    simp only [StopsEarly, HeldTwice, same, perm.countP_eq]
  by_cases full : ∀ id, 1 ≤ id → id ≤ 65535 → Held rows id
  · constructor
    · intro _
      exact Or.inl full
    · rintro - ⟨unused, low, high, notHeld⟩
      exact absurd (full unused low high) notHeld
  · have gap : ∃ unused : Nat, 1 ≤ unused ∧ unused ≤ 65535 ∧ ¬Held rows unused := by
      simpa only [not_forall, exists_prop] using full
    obtain ⟨unused, low, high, notHeld⟩ := gap
    have absent : unused ∉ (sorted.map ofRow).map fun temp => (idOf temp).toNat := by
      rw [listed, sortedIds.mem_iff, same]
      exact notHeld
    have count := countId_toNat low (by omega) absent
    have stops := @Gaps.firstGap_mem_iff 1 _ numbers
    rw [sortedIds.mem_iff, same, sortedIds.crowded_iff, counts] at stops
    rw [listed] at count
    rw [GapReached, or_iff_right full, ← stops, ← count]
    constructor
    · intro fresh held
      obtain ⟨id, isId, notId⟩ := fresh ⟨unused, low, high, notHeld⟩
      exact notId (Option.some.inj isId ▸ held)
    · intro notId _
      exact ⟨_, rfl, notId⟩

end Count

/-! ## Statements -/

/-- What an operation does to a table with ids. -/
inductive IdStatement (table : TableName) : Statement TableName → Prop
  | insert (fields : List Field) (id : uint16) (isId : cellsOf fields 1 = .integer id.toNat) :
      IdStatement table (.insert table fields)
  | delete (condition : Option Field) : IdStatement table (.delete table condition)
  | update (field : Field) (condition : Option Field) (isOther : 1 ≠ field.1) :
      IdStatement table (.update table field condition)

theorem IdStatement.haveIds {table : TableName} {statement : Statement TableName}
    (isIdStatement : IdStatement table statement) {schema : Schema TableName}
    {connection : Connection TableName} (holds : HaveIds (connection.tables table).rows) :
    HaveIds ((statement.apply schema connection).tables table).rows := by
  cases isIdStatement with
  | insert fields id isId =>
      rw [Statement.apply_insert_self]
      intro row member
      rcases List.mem_append.mp member with old | new
      · exact holds row old
      · rw [List.mem_singleton.mp new]
        exact ⟨id, isId⟩
  | delete condition =>
      rw [Statement.apply_delete_self]
      exact fun row member => holds row (List.mem_of_mem_filter member)
  | update field condition isOther =>
      rw [Statement.apply_update_self]
      intro row member
      obtain ⟨old, oldMember, rfl⟩ := List.mem_map.mp member
      split_ifs
      · rw [old.column_set_of_ne isOther]
        exact holds old oldMember
      · exact holds old oldMember

theorem idStatement_update {table : TableName} {key : Field} {columns : List (Bool × Field)}
    (others : ∀ column ∈ columns, 1 ≠ column.2.1) :
    ∀ statement ∈ updateStatements table key columns, IdStatement table statement := by
  intro statement member
  obtain ⟨column, isColumn, rfl⟩ := mem_updateStatements member
  exact .update _ _ (others column isColumn)

theorem Operation.idStatements (operation : Operation) (groupId : uint32) {table : TableName}
    (isIdTable : table ∈ idTables) :
    ∀ statement ∈ operation.statements groupId, statement.table = table →
      IdStatement table statement := by
  intro statement member isOwn
  have isTable := (operation.statement_table groupId statement member).symm.trans isOwn
  cases operation with
  | sceneTableAddRecord sceneData =>
      rw [← isTable, List.mem_singleton.mp member]
      exact .insert _ sceneData.sceneId (promoted_value _)
  | sceneTableDelete sceneData =>
      rw [← isTable, List.mem_singleton.mp member]
      exact .delete _
  | sceneTableUpdate sceneData maskcode =>
      rw [← isTable]
      exact idStatement_update (by simp [sceneTableUpdateColumns]) statement member
  | sceneTableClear =>
      rw [← isTable, List.mem_singleton.mp member]
      exact .delete _
  | profileTableAddRecord profileData =>
      rw [← isTable, List.mem_singleton.mp member]
      exact .insert _ profileData.profileId (promoted_value _)
  | profileTableDelete profileData =>
      rw [← isTable, List.mem_singleton.mp member]
      exact .delete _
  | profileTableUpdate profileData maskcode =>
      rw [← isTable]
      exact idStatement_update (by simp [profileTableUpdateColumns]) statement member
  | profileTableClear =>
      rw [← isTable, List.mem_singleton.mp member]
      exact .delete _
  | _ =>
      rw [← isTable] at isIdTable
      simp [idTables, Operation.table] at isIdTable

/-! ## Runs -/

section Runs

variable {layout : Layout} {environment : Environment layout.schema}

theorem performed_haveIds {table : TableName} (isIdTable : table ∈ idTables)
    {start : Session TableName} (initial : HaveIds (rowsOf table start))
    {operations : List Operation} (safe : ∀ operation ∈ operations, operation.Safe) :
    HaveIds (rowsOf table (performed environment start operations)) := by
  induction operations generalizing start with
  | nil => exact initial
  | cons operation operations induction =>
      have next : HaveIds (rowsOf table (perform environment start operation)) := by
        refine perform_invariant (fun connection => HaveIds (connection.tables table).rows)
          (safe operation List.mem_cons_self) ?_ initial
        intro statement member connection holds
        by_cases isOwn : statement.table = table
        · exact (operation.idStatements _ isIdTable statement member isOwn).haveIds holds
        · rw [Statement.apply_tables_of_ne (Ne.symm isOwn)]
          exact holds
      exact induction next fun other member => safe other (List.mem_cons_of_mem operation member)

theorem reads_sceneOfRow (engine : Engine layout.schema) :
    Reads SceneTable.sceneId (sceneOfRow engine) := by
  intro row id isId
  rw [sceneOfRow]
  dsimp only
  rw [isId]
  exact columnInt_setWidth engine (by decide) id

theorem reads_profileOfRow (engine : Engine layout.schema) :
    Reads ProfileTable.profileId (profileOfRow engine) := by
  intro row id isId
  exact reads_sceneOfRow engine row id isId

theorem fresh_dbUnUsedSceneId_iff (faultless : environment.Faultless)
    {session : Session TableName} (haveIds : HaveIds (rowsOf .sceneTable session)) :
    Fresh (rowsOf .sceneTable session) (dbUnUsedSceneId environment session).1 ↔
      GapReached (rowsOf .sceneTable session) := by
  have listed := tableSearch_of_faultless faultless quoteFree_nil sceneTableSearchCommand_query
    session (appendTurn_continues faultless _ (sceneOfRow environment.engine))
  have sorted := @selectedRows_whole layout environment _ _ _ quoteFree_nil
    sceneTableSearchCommand_query session.connection
  rw [dbUnUsedSceneId, sceneTableSearch]
  dsimp only
  rw [listed, Option.map_some]
  exact fresh_countId_iff (reads_sceneOfRow environment.engine) haveIds sorted.1
    (sorted.2 1 rfl)

theorem fresh_dbUnUsedProfileId_iff (faultless : environment.Faultless)
    {session : Session TableName} (haveIds : HaveIds (rowsOf .profileTable session)) :
    Fresh (rowsOf .profileTable session) (dbUnUsedProfileId environment session).1 ↔
      GapReached (rowsOf .profileTable session) := by
  have listed := tableSearch_of_faultless faultless quoteFree_nil
    profileTableSearchCommand_query session (profileTurn_continues faultless _)
  have sorted := @selectedRows_whole layout environment _ _ _ quoteFree_nil
    profileTableSearchCommand_query session.connection
  rw [dbUnUsedProfileId, profileTableSearch]
  dsimp only
  rw [listed, Option.map_some]
  exact fresh_countId_iff (reads_profileOfRow environment.engine) haveIds sorted.1
    (sorted.2 1 rfl)

/-- After every run of safe operations the ids that are found are unused when the
counts get to a gap, and only then. -/
theorem unusedIds_fresh_iff (faultless : environment.Faultless) {start : Session TableName}
    (initial : ∀ table ∈ idTables, HaveIds (rowsOf table start)) {operations : List Operation}
    (safe : ∀ operation ∈ operations, operation.Safe) :
    let reached := performed environment start operations
    (Fresh (rowsOf .sceneTable reached) (dbUnUsedSceneId environment reached).1 ↔
        GapReached (rowsOf .sceneTable reached)) ∧
      (Fresh (rowsOf .profileTable reached) (dbUnUsedProfileId environment reached).1 ↔
        GapReached (rowsOf .profileTable reached)) := by
  intro reached
  have haveIds : ∀ table ∈ idTables, HaveIds (rowsOf table reached) :=
    fun table isIdTable => performed_haveIds isIdTable (initial table isIdTable) safe
  exact ⟨fresh_dbUnUsedSceneId_iff faultless (haveIds .sceneTable (by decide)),
    fresh_dbUnUsedProfileId_iff faultless (haveIds .profileTable (by decide))⟩

end Runs

/-- Two scenes with the id 1 and one with the id 2. -/
def repeatedScenes : List Operation :=
  [1, 1, 2].map fun id => .sceneTableAddRecord ⟨0, id, "8:00".toList, 0, 0⟩

theorem repeatedScenes_safe : ∀ operation ∈ repeatedScenes, operation.Safe := by
  intro operation member
  obtain ⟨id, _, rfl⟩ := List.mem_map.mp member
  have noQuote : '\'' ∉ cString "8:00".toList := by decide
  have short : (cString "8:00".toList).length < 900 := by decide
  exact sceneTableAddRecord_safe noQuote short

theorem unusedIds_fresh_iff_repeatedScenes :
    let reached := performed (Environment.plain Layout.repeating.schema) Session.empty
      repeatedScenes
    (Fresh (rowsOf .sceneTable reached)
        (dbUnUsedSceneId (Environment.plain Layout.repeating.schema) reached).1 ↔
        GapReached (rowsOf .sceneTable reached)) ∧
      (Fresh (rowsOf .profileTable reached)
        (dbUnUsedProfileId (Environment.plain Layout.repeating.schema) reached).1 ↔
        GapReached (rowsOf .profileTable reached)) :=
  unusedIds_fresh_iff Environment.plain_faultless
    (fun _ _ _ member => absurd member List.not_mem_nil) repeatedScenes_safe

/-- The count stops at the second scene with the id 1, and the id 2 is not unused. -/
theorem unusedIds_fresh_fails :
    let reached := performed (Environment.plain Layout.repeating.schema) Session.empty
      repeatedScenes
    ¬Fresh (rowsOf .sceneTable reached)
      (dbUnUsedSceneId (Environment.plain Layout.repeating.schema) reached).1 := by
  intro reached fresh
  have ids : (rowsOf .sceneTable reached).map (fun row => row.column 1) =
      [.integer 1, .integer 1, .integer 2] := by
    decide +kernel
  have found : (dbUnUsedSceneId (Environment.plain Layout.repeating.schema) reached).1 =
      some 2 := by
    decide +kernel
  have held : ∀ id : Nat, Held (rowsOf .sceneTable reached) id ↔
      Value.integer id ∈ [Value.integer 1, .integer 1, .integer 2] := by
    intro id
    rw [← ids, List.mem_map]
    rfl
  obtain ⟨id, isId, notHeld⟩ := fresh ⟨3, by decide, by decide, by
    rw [held]
    decide⟩
  rw [found] at isId
  rw [← Option.some.inj isId, held] at notHeld
  exact notHeld (by decide)

end StudyDemo.Sqlite
