import StudyDemo.Sqlite.Results

/-! # Looking through whole tables

The searches that list a table, and what is looked up in their lists: an id that no
record has yet, and whether a record is there. -/

namespace StudyDemo.Sqlite

open Sql

/-! ## Commands -/

def sceneTableSearchCommand : Command :=
  ⟨["Select * From Scene_Table ", "Order By sceneid asc"], []⟩

def profileTableSearchCommand : Command :=
  ⟨["Select * From Profile_Table ", "Order By profileid asc"], []⟩

def deviceTableSearchCommand : Command := ⟨["Select * From Device_Table"], []⟩

def sceneTableSearchOneCommand (sceneData : SceneTable) : Command :=
  ⟨["Select * From Scene_Table ", "where sceneid=%d"], [promoted sceneData.sceneId]⟩

def linkageTableSearchOneCommand (linkageData : LinkageTable) : Command :=
  ⟨["Select * From Linkage_Table ", "where linkagesensoripv6='%s'"],
    [.string linkageData.linkageSensorAddress]⟩

section Queries

variable {layout : Layout}

-- The slots of a format are evaluated.
set_option maxRecDepth 4000

theorem sceneTableSearchCommand_query :
    sceneTableSearchCommand.query layout.schema = some ⟨.sceneTable, none, some 1⟩ :=
  query_ordered "scene_table" "sceneid" rfl rfl rfl

theorem profileTableSearchCommand_query :
    profileTableSearchCommand.query layout.schema = some ⟨.profileTable, none, some 1⟩ :=
  query_ordered "profile_table" "profileid" rfl rfl rfl

theorem deviceTableSearchCommand_query :
    deviceTableSearchCommand.query layout.schema = some ⟨.deviceTable, none, none⟩ :=
  query_whole "device_table" rfl rfl

theorem sceneTableSearchOneCommand_query (sceneData : SceneTable) :
    (sceneTableSearchOneCommand sceneData).query layout.schema =
      some ⟨.sceneTable, some (1, (promoted sceneData.sceneId).value), none⟩ :=
  query_where "scene_table" "sceneid" rfl rfl ⟨rfl, rfl⟩

end Queries

/-! ## Listing a table -/

section Listing

variable {layout : Layout} (environment : Environment layout.schema)

/-- A query and the loop over its rows. `none` is a list head that was never
initialised. -/
def tableSearch {Listed : Type} (command : Command) (turn : Turn Listed)
    (session : Session TableName) :
    (SqliteStatus × Option (List Listed)) × Session TableName :=
  let prepared := environment.prepare command.text session
  match prepared.1 with
  | none => ((.findErr, none), prepared.2)
  | some rows =>
      let done := environment.forRows turn rows [] prepared.2
      match done.1 with
      | .error returned => ((returned.1, some returned.2), done.2)
      | .ok list => ((.success, some list), done.2.finalize)

theorem roomTableSearch_eq (session : Session TableName) :
    roomTableSearch environment session = tableSearch environment roomTableSearchCommand
      (appendTurn environment (roomOfRow environment.engine)) session := by
  rw [roomTableSearch, tableSearch]
  cases (environment.prepare roomTableSearchCommand.text session).1 with
  | none => rfl
  | some rows =>
      dsimp only
      cases (environment.forRows (appendTurn environment (roomOfRow environment.engine)) rows []
        (environment.prepare roomTableSearchCommand.text session).2).1 with
      | error returned => rfl
      | ok list => rfl

def sceneTableSearch : Session TableName →
    (SqliteStatus × Option (List SceneTable)) × Session TableName :=
  tableSearch environment sceneTableSearchCommand
    (appendTurn environment (sceneOfRow environment.engine))

def deviceTableSearch : Session TableName →
    (SqliteStatus × Option (List DeviceTable)) × Session TableName :=
  tableSearch environment deviceTableSearchCommand
    (appendTurn environment (deviceOfRow environment.engine))

def profileOfRow (engine : Engine layout.schema) (row : Row) : ProfileTable where
  index := (engine.columnInt (row.column 0)).setWidth 16
  profileId := (engine.columnInt (row.column 1)).setWidth 16
  profileName := memcpy (zeros 1024) (engine.columnText (row.column 2))
  profileOnOff := memcpy (zeros 5) (engine.columnText (row.column 3))
  profileStartTime := memcpy (zeros 10) (engine.columnText (row.column 4))
  profileEndTime := memcpy (zeros 10) (engine.columnText (row.column 5))
  profileTimeRepeat := memcpy (zeros 1024) (engine.columnText (row.column 6))
  profileTableDevices := engine.columnText (row.column 7) ++ zeros 1

/-- The devices are allocated after the record, which is lost when that fails. -/
def profileTurn : Turn ProfileTable := fun row list session =>
  let memory := environment.malloc session
  if memory.1 then
    let devices := environment.malloc memory.2
    if devices.1 then (.ok (list ++ [profileOfRow environment.engine row]), devices.2)
    else (.error (.mallocErr, list), devices.2)
  else (.error (.mallocErr, list), memory.2)

def profileTableSearch : Session TableName →
    (SqliteStatus × Option (List ProfileTable)) × Session TableName :=
  tableSearch environment profileTableSearchCommand (profileTurn environment)

end Listing

/-! ## Unused ids -/

section Unused

variable {layout : Layout} (environment : Environment layout.schema)

/-- The loop of `DBUnUsedSceneId` and `DBUnUsedProfileId`. -/
def countId {Listed : Type} (idOf : Listed → uint16) : uint16 → List Listed → uint16
  | id, [] => id
  | id, temp :: list => if id ≠ idOf temp then id else countId idOf (id + 1) list

def dbUnUsedSceneId (session : Session TableName) : Option uint16 × Session TableName :=
  let found := sceneTableSearch environment session
  (found.1.2.map (countId SceneTable.sceneId 1), found.2)

def dbUnUsedProfileId (session : Session TableName) : Option uint16 × Session TableName :=
  let found := profileTableSearch environment session
  (found.1.2.map (countId ProfileTable.profileId 1), found.2)

end Unused

/-! ## Whether a record is there -/

section Existence

variable {layout : Layout} (environment : Environment layout.schema)

def copyScene (engine : Engine layout.schema) (sceneData : SceneTable) (row : Row) :
    SceneTable where
  index := (engine.columnInt (row.column 0)).setWidth 16
  sceneId := (engine.columnInt (row.column 1)).setWidth 16
  timeSpan := memcpy sceneData.timeSpan (engine.columnText (row.column 2))
  onOff := (engine.columnInt (row.column 3)).setWidth 8
  repeatMode := (engine.columnInt (row.column 4)).setWidth 8

/-- The loop copies every row and counts them in 8 bits. -/
def sceneTableSearchOneTurn (row : Row) (found : uint8 × SceneTable)
    (session : Session TableName) : Except Empty (uint8 × SceneTable) × Session TableName :=
  (.ok (found.1 + 1, copyScene environment.engine found.2 row), session)

def sceneTableSearchOne (sceneData : SceneTable) (session : Session TableName) :
    (SqliteStatus × SceneTable) × Session TableName :=
  let prepared := environment.prepare (sceneTableSearchOneCommand sceneData).text session
  match prepared.1 with
  | none => ((.findErr, sceneData), prepared.2)
  | some rows =>
      let done := environment.forRows (sceneTableSearchOneTurn environment) rows
        (0, sceneData) prepared.2
      match done.1 with
      | .ok found =>
          ((if found.1 = 0 then .notFound else .success, found.2), done.2.finalize)

def copyRoom (engine : Engine layout.schema) (roomData : RoomTable) (row : Row) : RoomTable where
  index := (engine.columnInt (row.column 0)).setWidth 16
  roomName := memcpy roomData.roomName (engine.columnText (row.column 1))
  groupId := engine.columnInt (row.column 2)

def roomTableSearchOneTurn (row : Row) (found : uint8 × RoomTable)
    (session : Session TableName) : Except Empty (uint8 × RoomTable) × Session TableName :=
  (.ok (found.1 + 1, copyRoom environment.engine found.2 row), session)

def roomTableSearchOne (roomData : RoomTable) (session : Session TableName) :
    (SqliteStatus × RoomTable) × Session TableName :=
  let prepared := environment.prepare (roomTableSelect roomData.groupId).text session
  match prepared.1 with
  | none => ((.findErr, roomData), prepared.2)
  | some rows =>
      let done := environment.forRows (roomTableSearchOneTurn environment) rows
        (0, roomData) prepared.2
      match done.1 with
      | .ok found =>
          ((if found.1 = 0 then .notFound else .success, found.2), done.2.finalize)

/-- The list of devices is allocated after the other columns were copied. -/
def linkageTableSearchOneTurn (row : Row) (found : uint8 × LinkageTable)
    (session : Session TableName) :
    Except (SqliteStatus × LinkageTable) (uint8 × LinkageTable) × Session TableName :=
  let engine := environment.engine
  let linkageData := { found.2 with
    index := (engine.columnInt (row.column 0)).setWidth 16
    linkageId := (engine.columnInt (row.column 1)).setWidth 16
    linkageSensorAddress :=
      memcpy found.2.linkageSensorAddress (engine.columnText (row.column 2)) }
  let memory := environment.malloc session
  if memory.1 then
    (.ok (found.1 + 1,
      { linkageData with
        linkageDevicesList := engine.columnText (row.column 3) ++ zeros 1 }), memory.2)
  else (.error (.mallocErr, { linkageData with linkageDevicesList := [] }), memory.2)

/-- `none` is a command that overruns its buffer. -/
def linkageTableSearchOne (linkageData : LinkageTable) (session : Session TableName) :
    Option ((SqliteStatus × LinkageTable) × Session TableName) :=
  let command := linkageTableSearchOneCommand linkageData
  if Fits command then
    let prepared := environment.prepare command.text session
    match prepared.1 with
    | none => some ((.findErr, linkageData), prepared.2)
    | some rows =>
        let done := environment.forRows (linkageTableSearchOneTurn environment) rows
          (0, linkageData) prepared.2
        match done.1 with
        | .error returned => some (returned, done.2)
        | .ok found =>
            some ((if found.1 = 0 then .notFound else .success, found.2), done.2.finalize)
  else none

/-- Whether the list has a record with the key. -/
def dataIsExist {Listed : Type} (sameKey : Listed → Bool)
    (found : (SqliteStatus × Option (List Listed)) × Session TableName) :
    Option SqliteStatus × Session TableName :=
  (found.1.2.map fun list => if list.any sameKey then .success else .findErr, found.2)

def sceneTableDataIsExist (sceneData : SceneTable) (session : Session TableName) :
    Option SqliteStatus × Session TableName :=
  dataIsExist (fun temp => decide (sceneData.sceneId = temp.sceneId))
    (sceneTableSearch environment session)

def deviceTableDataIsExist (deviceData : DeviceTable) (session : Session TableName) :
    Option SqliteStatus × Session TableName :=
  dataIsExist (fun temp => decide (cString deviceData.deviceIpv6 = cString temp.deviceIpv6))
    (deviceTableSearch environment session)

end Existence

/-! ## When no call fails -/

section Results

variable {layout : Layout} {environment : Environment layout.schema}

theorem profileTurn_continues (faultless : environment.Faultless)
    (connection : Connection TableName) :
    Continues connection (profileTurn environment)
      fun row list => list ++ [profileOfRow environment.engine row] := by
  intro row list session unchanged
  have memory : (environment.malloc session).1 = true := faultless _
  have devices : (environment.malloc (environment.malloc session).2).1 = true := faultless _
  rw [profileTurn, if_pos memory]
  dsimp only
  rw [if_pos devices]
  exact ⟨rfl, unchanged⟩

theorem tableSearch_of_faultless {Listed : Type} (faultless : environment.Faultless)
    {command : Command} {query : Query TableName} (quoteFree : QuoteFree command.arguments)
    (isQuery : command.query layout.schema = some query) {turn : Turn Listed}
    {ofRow : Row → Listed} (session : Session TableName)
    (continues : Continues session.connection turn fun row list => list ++ [ofRow row]) :
    (tableSearch environment command turn session).1 =
      (.success,
        some ((selectedRows environment command session.connection).map ofRow)) := by
  have prepared := prepare_of_faultless faultless quoteFree isQuery session
  have after := Environment.prepare_connection environment command.text session
  have loop := Environment.forRows_of_forall faultless
    (selectedRows environment command session.connection)
    (fun row _ => continues row) [] after
  rw [tableSearch, prepared]
  dsimp only
  rw [loop.1, foldl_append_singleton, List.nil_append]

theorem quoteFree_nil : QuoteFree [] := fun _ member => absurd member List.not_mem_nil

theorem roomTableSearch_of_faultless (faultless : environment.Faultless)
    (session : Session TableName) :
    (roomTableSearch environment session).1 =
      (.success, some ((selectedRows environment roomTableSearchCommand session.connection).map
        (roomOfRow environment.engine))) := by
  rw [roomTableSearch_eq]
  exact tableSearch_of_faultless faultless quoteFree_nil roomTableSearchCommand_query session
    (appendTurn_continues faultless _ _)

theorem selectedRows_whole {command : Command} {table : TableName} {order : Option Nat}
    (quoteFree : QuoteFree command.arguments)
    (isQuery : command.query layout.schema = some ⟨table, none, order⟩)
    (connection : Connection TableName) :
    (selectedRows environment command connection).Perm (connection.tables table).rows ∧
      ∀ position ∈ order, (selectedRows environment command connection).Pairwise
        fun left right => (left.column position).le (right.column position) := by
  have answers := (prepare_selectedRows environment quoteFree isQuery connection).2
  have whole : (connection.tables table).rows.filter (·.satisfies none) =
      (connection.tables table).rows :=
    List.filter_eq_self.mpr fun _ _ => rfl
  exact ⟨whole ▸ answers.perm, answers.sorted⟩

end Results

end StudyDemo.Sqlite
