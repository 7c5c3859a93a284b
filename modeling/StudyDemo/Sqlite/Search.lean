import StudyDemo.Sqlite.Records

/-! # Searching

The searches go through the rows of a query, often with another query for each row,
and put what they read into a list. A search that returns early leaves the list as
far as it was built. -/

namespace StudyDemo.Sqlite

open Sql

/-- `memcpy` to the start of a character array. -/
def memcpy (array bytes : Text) : Text := bytes ++ array.drop bytes.length

def zeros (size : Nat) : Text := List.replicate size '\x00'

/-! ## Commands -/

def roomTableSearchCommand : Command := ⟨["Select * From Room_Table ", "Order By groupid asc"], []⟩

def profileTableSelect (profileId : uint16) : Command :=
  ⟨["Select * From Profile_Table ", "where profileid=%d"], [promoted profileId]⟩

def profileListTableSelect (profileId : uint32) : Command :=
  ⟨["Select * From Profile_List_Table ", "where profileid=%d"], [.int profileId]⟩

def sceneTableSelect (indexnum : uint32) : Command :=
  ⟨["Select * From Scene_Table ", "where indexnum=%d"], [.int indexnum]⟩

def sceneDeviceTableSelect (indexnum : uint32) : Command :=
  ⟨["Select * From Scene_Device_Table ", "where indexnum=%d"], [.int indexnum]⟩

def deviceTableSearchOneCommand (deviceData : DeviceTable) : Command :=
  ⟨["Select * From Device_Table where deviceipv6='%s'"], [.string deviceData.deviceIpv6]⟩

def deviceTableSelect (indexnum : uint32) : Command :=
  ⟨["Select * From Device_Table ", "where indexnum=%d"], [.int indexnum]⟩

def roomTableSelect (groupId : uint32) : Command :=
  ⟨["Select * From Room_Table ", "where groupid=%d"], [.int groupId]⟩

def roomListTableSelect (roomId : uint32) : Command :=
  ⟨["Select * From Room_List_Table ", "where roomid=%d"], [.int roomId]⟩

section Queries

variable {layout : Layout}

-- The slots of a format are evaluated.
set_option maxRecDepth 4000

theorem roomTableSearchCommand_query :
    roomTableSearchCommand.query layout.schema = some ⟨.roomTable, none, some 2⟩ :=
  query_ordered "room_table" "groupid" rfl rfl rfl

theorem profileTableSelect_query (profileId : uint16) :
    (profileTableSelect profileId).query layout.schema =
      some ⟨.profileTable, some (1, (promoted profileId).value), none⟩ :=
  query_where "profile_table" "profileid" rfl rfl ⟨rfl, rfl⟩

theorem profileListTableSelect_query (profileId : uint32) :
    (profileListTableSelect profileId).query layout.schema =
      some ⟨.profileListTable, some (2, (Argument.int profileId).value), none⟩ :=
  query_where "profile_list_table" "profileid" rfl rfl ⟨rfl, rfl⟩

theorem sceneTableSelect_query (indexnum : uint32) :
    (sceneTableSelect indexnum).query layout.schema =
      some ⟨.sceneTable, some (0, (Argument.int indexnum).value), none⟩ :=
  query_where "scene_table" "indexnum" rfl rfl ⟨rfl, rfl⟩

theorem sceneDeviceTableSelect_query (indexnum : uint32) :
    (sceneDeviceTableSelect indexnum).query layout.schema =
      some ⟨.sceneDeviceTable, some (0, (Argument.int indexnum).value), none⟩ :=
  query_where "scene_device_table" "indexnum" rfl rfl ⟨rfl, rfl⟩

theorem deviceTableSearchOneCommand_query (deviceData : DeviceTable) :
    (deviceTableSearchOneCommand deviceData).query layout.schema =
      some ⟨.deviceTable, some (5, .text (cString deviceData.deviceIpv6)), none⟩ :=
  query_where "device_table" "deviceipv6" rfl rfl ⟨rfl, rfl⟩

theorem deviceTableSelect_query (indexnum : uint32) :
    (deviceTableSelect indexnum).query layout.schema =
      some ⟨.deviceTable, some (0, (Argument.int indexnum).value), none⟩ :=
  query_where "device_table" "indexnum" rfl rfl ⟨rfl, rfl⟩

theorem roomTableSelect_query (groupId : uint32) :
    (roomTableSelect groupId).query layout.schema =
      some ⟨.roomTable, some (2, (Argument.int groupId).value), none⟩ :=
  query_where "room_table" "groupid" rfl rfl ⟨rfl, rfl⟩

theorem roomListTableSelect_query (roomId : uint32) :
    (roomListTableSelect roomId).query layout.schema =
      some ⟨.roomListTable, some (2, (Argument.int roomId).value), none⟩ :=
  query_where "room_list_table" "roomid" rfl rfl ⟨rfl, rfl⟩

end Queries

/-! ## Records from rows -/

section Rows

variable {layout : Layout} (engine : Engine layout.schema)

def roomOfRow (row : Row) : RoomTable where
  index := (engine.columnInt (row.column 0)).setWidth 16
  roomName := memcpy (zeros 1024) (engine.columnText (row.column 1))
  groupId := engine.columnInt (row.column 2)

def sceneOfRow (row : Row) : SceneTable where
  index := (engine.columnInt (row.column 0)).setWidth 16
  sceneId := (engine.columnInt (row.column 1)).setWidth 16
  timeSpan := memcpy (zeros 30) (engine.columnText (row.column 2))
  onOff := (engine.columnInt (row.column 3)).setWidth 8
  repeatMode := (engine.columnInt (row.column 4)).setWidth 8

def deviceOfRow (row : Row) : DeviceTable where
  index := (engine.columnInt (row.column 0)).setWidth 16
  deviceId := engine.columnInt (row.column 1)
  deviceName := memcpy (zeros 1024) (engine.columnText (row.column 2))
  userName := memcpy (zeros 1024) (engine.columnText (row.column 3))
  address := (engine.columnInt (row.column 4)).setWidth 16
  deviceIpv6 := memcpy (zeros 1024) (engine.columnText (row.column 5))
  macAddress := engine.columnInt64 (row.column 6)
  deviceType := (engine.columnInt (row.column 7)).setWidth 8
  deviceOnOff := (engine.columnInt (row.column 8)).setWidth 8
  deviceValue1 := (engine.columnInt (row.column 9)).setWidth 16
  deviceValue2 := (engine.columnInt (row.column 10)).setWidth 16
  deviceIsOnline := (engine.columnInt (row.column 11)).setWidth 8
  deviceAppendstr := memcpy (zeros 2048) (engine.columnText (row.column 12))

end Rows

/-! ## Loops over rows -/

section Loops

variable {layout : Layout} (environment : Environment layout.schema) {Listed : Type}

/-- What a search does with a row: it goes on with another list, or returns. -/
abbrev Turn (Listed : Type) :=
  Row → List Listed → Session TableName →
    Except (SqliteStatus × List Listed) (List Listed) × Session TableName

/-- A query and the loop over its rows. One search forgets to finalize its
statement. -/
def selectLoop (command : Command) (finalizes : Bool) (turn : Turn Listed)
    (list : List Listed) (session : Session TableName) :
    Except (SqliteStatus × List Listed) (List Listed) × Session TableName :=
  let prepared := environment.prepare command.text session
  match prepared.1 with
  | none => (.error (.findErr, list), prepared.2)
  | some rows =>
      let done := environment.forRows turn rows list prepared.2
      match done.1 with
      | .error returned => (.error returned, done.2)
      | .ok list => (.ok list, if finalizes then done.2.finalize else done.2)

def appendTurn (ofRow : Row → Listed) : Turn Listed := fun row list session =>
  let memory := environment.malloc session
  if memory.1 then (.ok (list ++ [ofRow row]), memory.2)
  else (.error (.mallocErr, list), memory.2)

def returned (done : Except (SqliteStatus × List Listed) (List Listed) × Session TableName) :
    (SqliteStatus × List Listed) × Session TableName :=
  match done.1 with
  | .error returned => (returned, done.2)
  | .ok list => ((.success, list), done.2)

end Loops

/-! ## The searches -/

section Searches

variable {layout : Layout} (environment : Environment layout.schema)

/-- `none` is a list head that was never initialised. -/
def roomTableSearch (session : Session TableName) :
    (SqliteStatus × Option (List RoomTable)) × Session TableName :=
  let prepared := environment.prepare roomTableSearchCommand.text session
  match prepared.1 with
  | none => ((.findErr, none), prepared.2)
  | some rows =>
      let done := environment.forRows (appendTurn environment (roomOfRow environment.engine))
        rows [] prepared.2
      match done.1 with
      | .error returned => ((returned.1, some returned.2), done.2)
      | .ok list => ((.success, some list), done.2.finalize)

/-- The loop of `DBUnUsedRoomId`. -/
def countRoomId : uint32 → List RoomTable → uint32
  | roomId, [] => roomId
  | roomId, temp :: rooms =>
      if roomId ≠ temp.groupId then roomId else countRoomId (roomId + 1) rooms

def firstRoomId : uint32 := 0x15a00a

/-- Going through a list that was never initialised ends the program: `none`. -/
def dbUnUsedRoomId (session : Session TableName) : Option uint32 × Session TableName :=
  let found := roomTableSearch environment session
  (found.1.2.map (countRoomId firstRoomId), found.2)

def roomTableAddRecord (roomData : RoomTable) (session : Session TableName) :
    Option (SqliteStatus × RoomTable) × Session TableName :=
  let unused := dbUnUsedRoomId environment session
  match unused.1 with
  | none => (none, unused.2)
  | some groupId =>
      let roomData := { roomData with groupId := groupId }
      let done := insertRecord environment (roomTableAddCommand roomData) unused.2
      (some (done.1.1, { roomData with index := done.1.2.getD roomData.index }), done.2)

/-- The arrays keep what lies behind the bytes that are copied. -/
def copyDevice (engine : Engine layout.schema) (deviceData : DeviceTable) (row : Row) :
    DeviceTable where
  index := (engine.columnInt (row.column 0)).setWidth 16
  deviceId := engine.columnInt (row.column 1)
  deviceName := memcpy deviceData.deviceName (engine.columnText (row.column 2))
  userName := memcpy deviceData.userName (engine.columnText (row.column 3))
  address := (engine.columnInt (row.column 4)).setWidth 16
  deviceIpv6 := memcpy deviceData.deviceIpv6 (engine.columnText (row.column 5))
  macAddress := engine.columnInt64 (row.column 6)
  deviceType := (engine.columnInt (row.column 7)).setWidth 8
  deviceOnOff := (engine.columnInt (row.column 8)).setWidth 8
  deviceValue1 := (engine.columnInt (row.column 9)).setWidth 16
  deviceValue2 := (engine.columnInt (row.column 10)).setWidth 16
  deviceIsOnline := (engine.columnInt (row.column 11)).setWidth 8
  deviceAppendstr := memcpy deviceData.deviceAppendstr (engine.columnText (row.column 12))

/-- The loop copies every row and counts them in 8 bits. -/
def deviceTableSearchOneTurn (row : Row) (found : uint8 × DeviceTable)
    (session : Session TableName) :
    Except Empty (uint8 × DeviceTable) × Session TableName :=
  (.ok (found.1 + 1, copyDevice environment.engine found.2 row), session)

/-- `none` is a command that overruns its buffer. -/
def deviceTableSearchOne (deviceData : DeviceTable) (session : Session TableName) :
    Option ((SqliteStatus × DeviceTable) × Session TableName) :=
  let command := deviceTableSearchOneCommand deviceData
  if Fits command then
    let prepared := environment.prepare command.text session
    match prepared.1 with
    | none => some ((.findErr, deviceData), prepared.2)
    | some rows =>
        let done := environment.forRows (deviceTableSearchOneTurn environment) rows
          (0, deviceData) prepared.2
        match done.1 with
        | .ok found =>
            some ((if found.1 = 0 then .notFound else .success, found.2), done.2.finalize)
  else none

/-- One row of `ProfileTableSearchOne`. The counter of rows is 8 bits wide. -/
def profileTableSearchOneTurn (row : Row) (found : uint8 × ProfileTable)
    (session : Session TableName) :
    Except (SqliteStatus × ProfileTable) (uint8 × ProfileTable) × Session TableName :=
  let engine := environment.engine
  let profileData := { found.2 with
    index := (engine.columnInt (row.column 0)).setWidth 16
    profileId := (engine.columnInt (row.column 1)).setWidth 16
    profileName := memcpy found.2.profileName (engine.columnText (row.column 2))
    profileOnOff := memcpy found.2.profileOnOff (engine.columnText (row.column 3))
    profileStartTime := memcpy found.2.profileStartTime (engine.columnText (row.column 4))
    profileEndTime := memcpy found.2.profileEndTime (engine.columnText (row.column 5))
    profileTimeRepeat := memcpy found.2.profileTimeRepeat (engine.columnText (row.column 6)) }
  let memory := environment.malloc session
  if memory.1 then
    (.ok (found.1 + 1,
      { profileData with
        profileTableDevices := engine.columnText (row.column 7) ++ zeros 1 }), memory.2)
  else (.error (.mallocErr, { profileData with profileTableDevices := [] }), memory.2)

def profileTableSearchOne (profileData : ProfileTable) (session : Session TableName) :
    (SqliteStatus × ProfileTable) × Session TableName :=
  let prepared := environment.prepare (profileTableSelect profileData.profileId).text session
  match prepared.1 with
  | none => ((.findErr, profileData), prepared.2)
  | some rows =>
      let done := environment.forRows (profileTableSearchOneTurn environment) rows
        (0, profileData) prepared.2
      match done.1 with
      | .error returned => (returned, done.2)
      | .ok found =>
          ((if found.1 = 0 then .notFound else .success, found.2), done.2.finalize)

/-- An address that the list has already is not listed again. -/
def newAddressTurn : Turn DeviceTable := fun row list session =>
  let memory := environment.malloc session
  let device := deviceOfRow environment.engine row
  if memory.1 then
    if list.any fun listed => decide (cString listed.deviceIpv6 = cString device.deviceIpv6) then
      (.ok list, memory.2)
    else (.ok (list ++ [device]), memory.2)
  else (.error (.mallocErr, list), memory.2)

/-- The scenes of a profile are looked up by `indexnum` here. -/
def profileDeviceListSearch (profileId : uint16) (session : Session TableName) :
    (SqliteStatus × List DeviceTable) × Session TableName :=
  let engine := environment.engine
  returned <| selectLoop environment (profileTableSelect profileId) true
    (fun profile => selectLoop environment
      (profileListTableSelect (engine.columnInt (profile.column 0))) true
      (fun profileList => selectLoop environment
        (sceneDeviceTableSelect (engine.columnInt (profileList.column 1))) true
        (fun sceneDevice => selectLoop environment
          (deviceTableSelect (engine.columnInt (sceneDevice.column 2))) true
          (newAddressTurn environment)))) [] session

def zeroedProfile (profileId : uint16) : ProfileTable where
  index := 0
  profileId := profileId
  profileName := zeros 1024
  profileOnOff := zeros 5
  profileStartTime := zeros 10
  profileEndTime := zeros 10
  profileTimeRepeat := zeros 1024
  profileTableDevices := []

/-- The outer statement is never finalized, and what `ProfileTableSearchOne`
returns is not looked at. -/
def profileSceneListSearch (profileId : uint16) (session : Session TableName) :
    (SqliteStatus × List SceneTable) × Session TableName :=
  let engine := environment.engine
  let found := profileTableSearchOne environment (zeroedProfile profileId) session
  returned <| selectLoop environment
    (profileListTableSelect (found.1.2.index.setWidth 32)) false
    (fun profileList => selectLoop environment
      (sceneTableSelect (engine.columnInt (profileList.column 1))) true
      (appendTurn environment (sceneOfRow engine))) [] found.2

def roomDeviceListSearch (roomId : uint32) (session : Session TableName) :
    (SqliteStatus × List DeviceTable) × Session TableName :=
  let engine := environment.engine
  returned <| selectLoop environment (roomTableSelect roomId) true
    (fun room => selectLoop environment
      (roomListTableSelect (engine.columnInt (room.column 0))) true
      (fun roomList => selectLoop environment
        (deviceTableSelect (engine.columnInt (roomList.column 1))) true
        (appendTurn environment (deviceOfRow engine)))) [] session

end Searches

end StudyDemo.Sqlite
