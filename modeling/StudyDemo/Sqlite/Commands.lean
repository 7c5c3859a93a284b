import Mathlib.Tactic.FinCases
import StudyDemo.Sql.Forms
import StudyDemo.Sqlite.Tables

/-! # Records and their commands

The records of the tables and the commands that are made of them. When no string of
a record contains a quote, each command is the statement one expects. -/

namespace StudyDemo.Sqlite

open Sql

abbrev uint8 := BitVec 8
abbrev uint16 := BitVec 16
abbrev uint32 := BitVec 32
abbrev uint64 := BitVec 64

/-! ## Records

Character arrays are the bytes they hold; the links of the lists are left out. -/

structure DeviceTable where
  index : uint16
  deviceId : uint32
  deviceName : Text
  userName : Text
  address : uint16
  deviceIpv6 : Text
  macAddress : uint64
  deviceType : uint8
  deviceOnOff : uint8
  deviceValue1 : uint16
  deviceValue2 : uint16
  deviceIsOnline : uint8
  deviceAppendstr : Text

structure ProfileTable where
  index : uint16
  profileId : uint16
  profileName : Text
  profileOnOff : Text
  profileStartTime : Text
  profileEndTime : Text
  profileTimeRepeat : Text
  profileTableDevices : Text

structure LinkageTable where
  index : uint16
  linkageId : uint16
  linkageSensorAddress : Text
  linkageDevicesList : Text

structure SceneTable where
  index : uint16
  sceneId : uint16
  timeSpan : Text
  onOff : uint8
  repeatMode : uint8

structure SceneDeviceTable where
  index : uint16
  sceneData : SceneTable
  deviceData : DeviceTable

structure RoomTable where
  index : uint16
  roomName : Text
  groupId : uint32
  deriving DecidableEq

structure ProfileListTable where
  index : uint16
  sceneId : SceneTable
  profileId : ProfileTable

structure RoomListTable where
  index : uint16
  deviceId : DeviceTable
  roomId : RoomTable

/-! ## Commands -/

/-- A narrow argument is promoted before it is printed. -/
def promoted {width : Nat} (value : BitVec width) : Argument := .int (value.setWidth 32)

theorem promoted_value_of_lt {width : Nat} (narrow : width < 32) (value : BitVec width) :
    (promoted value).value = .integer value.toNat := by
  have bound := value.isLt
  have below : 2 ^ width ≤ 2 ^ 31 := Nat.pow_le_pow_right (by decide) (by omega)
  have isNat : (value.setWidth 32).toInt = value.toNat := by
    rw [BitVec.toInt_eq_toNat_cond, BitVec.toNat_setWidth, Nat.mod_eq_of_lt (by omega)]
    split_ifs
    · rfl
    · omega
  rw [promoted, Argument.int_value, isNat]

theorem promoted_value (index : uint16) : (promoted index).value = .integer index.toNat :=
  promoted_value_of_lt (by decide) index

/-- The values of a new row, from the first column after the key. -/
def fieldsOf (command : Command) : List Field :=
  (command.arguments.zipIdx 1).map fun argument => (argument.2, argument.1.value)

def deviceTableAddCommand (deviceData : DeviceTable) : Command :=
  ⟨["Insert Into Device_Table(",
      "deviceid,devicename,username,",
      "address,deviceipv6,macaddress,",
      "devicetype,deviceonoff,devicevalue1,",
      "devicevalue2,deviceisonline,deviceappend) ",
      "values(%lu,'%s','%s',",
      "%d,'%s',%llu,",
      "%d,%d,%d,",
      "%d,%d,'%s')"],
    [.unsignedLong deviceData.deviceId, .string deviceData.deviceName,
      .string deviceData.userName, promoted deviceData.address, .string deviceData.deviceIpv6,
      .unsignedLongLong deviceData.macAddress, promoted deviceData.deviceType,
      promoted deviceData.deviceOnOff, promoted deviceData.deviceValue1,
      promoted deviceData.deviceValue2, promoted deviceData.deviceIsOnline,
      .string deviceData.deviceAppendstr]⟩

def sceneTableAddCommand (sceneData : SceneTable) : Command :=
  ⟨["Insert Into Scene_Table(sceneid,timespan,onoff,repeatmode) ", "values(%d,'%s',%d,%d)"],
    [promoted sceneData.sceneId, .string sceneData.timeSpan, promoted sceneData.onOff,
      promoted sceneData.repeatMode]⟩

def sceneDeviceTableAddCommand (sceneDeviceData : SceneDeviceTable) : Command :=
  ⟨["Insert Into Scene_Device_Table(sceneindex,deviceindex) ", "values(%d,%d)"],
    [promoted sceneDeviceData.sceneData.index, promoted sceneDeviceData.deviceData.index]⟩

def profileTableAddCommand (profileData : ProfileTable) : Command :=
  ⟨["Insert Into Profile_Table(profileid,profilename,", "profileonoff,profilestarttime,",
      "profileendtime,profiletimerepeat,", "profiledevices)",
      "values(%d,'%s','%s','%s','%s','%s','%s')"],
    [promoted profileData.profileId, .string profileData.profileName,
      .string profileData.profileOnOff, .string profileData.profileStartTime,
      .string profileData.profileEndTime, .string profileData.profileTimeRepeat,
      .string profileData.profileTableDevices]⟩

def linkageTableAddCommand (linkageData : LinkageTable) : Command :=
  ⟨["Insert Into linkage_Table(linkageid,", "linkagesensoripv6,linkagedeviceslist)",
      "values(%d,'%s','%s')"],
    [promoted linkageData.linkageId, .string linkageData.linkageSensorAddress,
      .string linkageData.linkageDevicesList]⟩

def roomTableAddCommand (roomData : RoomTable) : Command :=
  ⟨["Insert Into Room_Table(roomname,groupid) ", "values('%s',%lu)"],
    [.string roomData.roomName, .unsignedLong roomData.groupId]⟩

def profileListTableAddCommand (profileListData : ProfileListTable) : Command :=
  ⟨["Insert Into Profile_List_Table(sceneid,profileid) ", "values(%d,%d)"],
    [promoted profileListData.sceneId.index, promoted profileListData.profileId.index]⟩

def roomListTableAddCommand (roomListData : RoomListTable) : Command :=
  ⟨["Insert Into Room_List_Table(deviceid,roomid) ", "values(%d,%d)"],
    [promoted roomListData.deviceId.index, promoted roomListData.roomId.index]⟩

def deviceTableDeleteCommand (deviceData : DeviceTable) : Command :=
  ⟨["Delete From Device_Table ", "where deviceipv6='%s'"], [.string deviceData.deviceIpv6]⟩

def sceneTableDeleteCommand (sceneData : SceneTable) : Command :=
  ⟨["Delete From Scene_Table ", "where sceneid=%d"], [promoted sceneData.sceneId]⟩

def sceneDeviceTableDeleteCommand (sceneDeviceData : SceneDeviceTable) : Command :=
  ⟨["Delete From Scene_Device_Table ", "Where sceneindex=%d"],
    [promoted sceneDeviceData.sceneData.index]⟩

def profileTableDeleteCommand (profileData : ProfileTable) : Command :=
  ⟨["Delete From Profile_Table ", "Where profileid=%d"], [promoted profileData.profileId]⟩

def linkageTableDeleteCommand (linkageData : LinkageTable) : Command :=
  ⟨["Delete From Linkage_Table ", "Where linkagesensoripv6='%s'"],
    [.string linkageData.linkageSensorAddress]⟩

def roomTableDeleteCommand (roomData : RoomTable) : Command :=
  ⟨["Delete From Room_Table ", "Where groupid=%d"], [.int roomData.groupId]⟩

def profileListTableDeleteCommand (profileListData : ProfileListTable) : Command :=
  ⟨["Delete From Profile_List_Table ", "Where profileid=%d"],
    [promoted profileListData.profileId.index]⟩

def roomListTableDeleteCommand (roomListData : RoomListTable) : Command :=
  ⟨["Delete From Room_List_Table ", "Where roomid=%d"], [promoted roomListData.roomId.index]⟩

def roomListTableDeleteUnderDeviceCommand (roomListData : RoomListTable) : Command :=
  ⟨["Delete From Room_List_Table ", "Where deviceid=%d"],
    [promoted roomListData.deviceId.index]⟩

/-- `Delete From` a whole table. -/
def tableClearCommand (table : TableName) : Command := ⟨["Delete From ", table.written], []⟩

def deviceTableUpdateCommand (assignment : String) (argument : Argument)
    (deviceData : DeviceTable) : Command :=
  ⟨["Update Device_Table Set ", assignment, " Where deviceipv6='%s'"],
    [argument, .string deviceData.deviceIpv6]⟩

def sceneTableUpdateCommand (assignment : String) (argument : Argument)
    (sceneData : SceneTable) : Command :=
  ⟨["Update Scene_Table Set ", assignment, " Where sceneid=%d"],
    [argument, promoted sceneData.sceneId]⟩

def profileTableUpdateCommand (assignment : String) (argument : Argument)
    (profileData : ProfileTable) : Command :=
  ⟨["Update Profile_Table Set ", assignment, " Where profileid=%d"],
    [argument, promoted profileData.profileId]⟩

def roomTableUpdateCommand (roomData : RoomTable) : Command :=
  ⟨["Update Room_Table Set ", "roomname='%s' Where groupid=%d"],
    [.string roomData.roomName, .int roomData.groupId]⟩

def profileListTableUpdateCommand (profileListData : ProfileListTable) : Command :=
  ⟨["Update Profile_List_Table Set ", "sceneid=%d Where profileid=%d"],
    [promoted profileListData.sceneId.index, promoted profileListData.profileId.index]⟩

def roomListTableUpdateCommand (roomListData : RoomListTable) : Command :=
  ⟨["Update Room_List_Table Set ", "roomid=%d Where deviceid=%d"],
    [promoted roomListData.roomId.index, promoted roomListData.deviceId.index]⟩

section Statements

variable {layout : Layout}

theorem distinct_columns (table : TableName) :
    ((layout.schema.columns table).map Column.name).Nodup := by
  show (table.columns.map Column.name).Nodup
  cases table <;> decide

-- The slots of a format are evaluated.
set_option maxRecDepth 4000

theorem deviceTableAddCommand_statement (deviceData : DeviceTable) :
    (deviceTableAddCommand deviceData).statement layout.schema =
      some (.insert .deviceTable (fieldsOf (deviceTableAddCommand deviceData))) :=
  statement_insert "device_table" rfl rfl (distinct_columns .deviceTable) rfl
    (List.cons_ne_nil _ _)

theorem sceneTableAddCommand_statement (sceneData : SceneTable) :
    (sceneTableAddCommand sceneData).statement layout.schema =
      some (.insert .sceneTable (fieldsOf (sceneTableAddCommand sceneData))) :=
  statement_insert "scene_table" rfl rfl (distinct_columns .sceneTable) rfl
    (List.cons_ne_nil _ _)

theorem sceneDeviceTableAddCommand_statement (sceneDeviceData : SceneDeviceTable) :
    (sceneDeviceTableAddCommand sceneDeviceData).statement layout.schema =
      some (.insert .sceneDeviceTable (fieldsOf (sceneDeviceTableAddCommand sceneDeviceData))) :=
  statement_insert "scene_device_table" rfl rfl (distinct_columns .sceneDeviceTable) rfl
    (List.cons_ne_nil _ _)

theorem profileTableAddCommand_statement (profileData : ProfileTable) :
    (profileTableAddCommand profileData).statement layout.schema =
      some (.insert .profileTable (fieldsOf (profileTableAddCommand profileData))) :=
  statement_insert "profile_table" rfl rfl (distinct_columns .profileTable) rfl
    (List.cons_ne_nil _ _)

theorem linkageTableAddCommand_statement (linkageData : LinkageTable) :
    (linkageTableAddCommand linkageData).statement layout.schema =
      some (.insert .linkageTable (fieldsOf (linkageTableAddCommand linkageData))) :=
  statement_insert "linkage_table" rfl rfl (distinct_columns .linkageTable) rfl
    (List.cons_ne_nil _ _)

theorem roomTableAddCommand_statement (roomData : RoomTable) :
    (roomTableAddCommand roomData).statement layout.schema =
      some (.insert .roomTable (fieldsOf (roomTableAddCommand roomData))) :=
  statement_insert "room_table" rfl rfl (distinct_columns .roomTable) rfl
    (List.cons_ne_nil _ _)

theorem profileListTableAddCommand_statement (profileListData : ProfileListTable) :
    (profileListTableAddCommand profileListData).statement layout.schema =
      some (.insert .profileListTable (fieldsOf (profileListTableAddCommand profileListData))) :=
  statement_insert "profile_list_table" rfl rfl (distinct_columns .profileListTable) rfl
    (List.cons_ne_nil _ _)

theorem roomListTableAddCommand_statement (roomListData : RoomListTable) :
    (roomListTableAddCommand roomListData).statement layout.schema =
      some (.insert .roomListTable (fieldsOf (roomListTableAddCommand roomListData))) :=
  statement_insert "room_list_table" rfl rfl (distinct_columns .roomListTable) rfl
    (List.cons_ne_nil _ _)

theorem deviceTableDeleteCommand_statement (deviceData : DeviceTable) :
    (deviceTableDeleteCommand deviceData).statement layout.schema =
      some (.delete .deviceTable (some (5, .text (cString deviceData.deviceIpv6)))) :=
  statement_delete "device_table" "deviceipv6" rfl rfl ⟨rfl, rfl⟩

theorem sceneTableDeleteCommand_statement (sceneData : SceneTable) :
    (sceneTableDeleteCommand sceneData).statement layout.schema =
      some (.delete .sceneTable (some (1, (promoted sceneData.sceneId).value))) :=
  statement_delete "scene_table" "sceneid" rfl rfl ⟨rfl, rfl⟩

theorem sceneDeviceTableDeleteCommand_statement (sceneDeviceData : SceneDeviceTable) :
    (sceneDeviceTableDeleteCommand sceneDeviceData).statement layout.schema =
      some (.delete .sceneDeviceTable
        (some (1, (promoted sceneDeviceData.sceneData.index).value))) :=
  statement_delete "scene_device_table" "sceneindex" rfl rfl ⟨rfl, rfl⟩

theorem profileTableDeleteCommand_statement (profileData : ProfileTable) :
    (profileTableDeleteCommand profileData).statement layout.schema =
      some (.delete .profileTable (some (1, (promoted profileData.profileId).value))) :=
  statement_delete "profile_table" "profileid" rfl rfl ⟨rfl, rfl⟩

theorem linkageTableDeleteCommand_statement (linkageData : LinkageTable) :
    (linkageTableDeleteCommand linkageData).statement layout.schema =
      some (.delete .linkageTable
        (some (2, .text (cString linkageData.linkageSensorAddress)))) :=
  statement_delete "linkage_table" "linkagesensoripv6" rfl rfl ⟨rfl, rfl⟩

theorem roomTableDeleteCommand_statement (roomData : RoomTable) :
    (roomTableDeleteCommand roomData).statement layout.schema =
      some (.delete .roomTable (some (2, (Argument.int roomData.groupId).value))) :=
  statement_delete "room_table" "groupid" rfl rfl ⟨rfl, rfl⟩

theorem profileListTableDeleteCommand_statement (profileListData : ProfileListTable) :
    (profileListTableDeleteCommand profileListData).statement layout.schema =
      some (.delete .profileListTable
        (some (2, (promoted profileListData.profileId.index).value))) :=
  statement_delete "profile_list_table" "profileid" rfl rfl ⟨rfl, rfl⟩

theorem roomListTableDeleteCommand_statement (roomListData : RoomListTable) :
    (roomListTableDeleteCommand roomListData).statement layout.schema =
      some (.delete .roomListTable (some (2, (promoted roomListData.roomId.index).value))) :=
  statement_delete "room_list_table" "roomid" rfl rfl ⟨rfl, rfl⟩

theorem roomListTableDeleteUnderDeviceCommand_statement (roomListData : RoomListTable) :
    (roomListTableDeleteUnderDeviceCommand roomListData).statement layout.schema =
      some (.delete .roomListTable
        (some (1, (promoted roomListData.deviceId.index).value))) :=
  statement_delete "room_list_table" "deviceid" rfl rfl ⟨rfl, rfl⟩

theorem tableClearCommand_statement (table : TableName) :
    (tableClearCommand table).statement layout.schema = some (.delete table none) := by
  cases table <;> rfl

theorem deviceTableUpdateCommand_statement_int (value : uint32) (deviceData : DeviceTable) :
    ∀ column ∈ [("address=%d", 4), ("devicetype=%d", 7), ("deviceonoff=%d", 8),
      ("devicevalue1=%d", 9), ("devicevalue2=%d", 10), ("deviceisonline=%d", 11)],
      (deviceTableUpdateCommand column.1 (.int value) deviceData).statement layout.schema =
        some (.update .deviceTable (column.2, (Argument.int value).value)
          (some (5, .text (cString deviceData.deviceIpv6)))) := by
  intro column member
  fin_cases member
  · exact statement_update "device_table" "address" "deviceipv6" rfl rfl ⟨rfl, rfl⟩ (by decide)
      ⟨rfl, rfl⟩
  · exact statement_update "device_table" "devicetype" "deviceipv6" rfl rfl ⟨rfl, rfl⟩ (by decide)
      ⟨rfl, rfl⟩
  · exact statement_update "device_table" "deviceonoff" "deviceipv6" rfl rfl ⟨rfl, rfl⟩ (by decide)
      ⟨rfl, rfl⟩
  · exact statement_update "device_table" "devicevalue1" "deviceipv6" rfl rfl ⟨rfl, rfl⟩ (by decide)
      ⟨rfl, rfl⟩
  · exact statement_update "device_table" "devicevalue2" "deviceipv6" rfl rfl ⟨rfl, rfl⟩ (by decide)
      ⟨rfl, rfl⟩
  · exact statement_update "device_table" "deviceisonline" "deviceipv6" rfl rfl ⟨rfl, rfl⟩ (by decide)
      ⟨rfl, rfl⟩

theorem deviceTableUpdateCommand_statement_string (characters : Text) (deviceData : DeviceTable) :
    ∀ column ∈ [("username='%s'", 3), ("deviceappend='%s'", 12)],
      (deviceTableUpdateCommand column.1 (.string characters) deviceData).statement layout.schema =
        some (.update .deviceTable (column.2, .text (cString characters))
          (some (5, .text (cString deviceData.deviceIpv6)))) := by
  intro column member
  fin_cases member
  · exact statement_update "device_table" "username" "deviceipv6" rfl rfl ⟨rfl, rfl⟩ (by decide)
      ⟨rfl, rfl⟩
  · exact statement_update "device_table" "deviceappend" "deviceipv6" rfl rfl ⟨rfl, rfl⟩ (by decide)
      ⟨rfl, rfl⟩

theorem deviceTableUpdateCommand_statement_deviceId (deviceData : DeviceTable) :
    (deviceTableUpdateCommand "deviceid=%lu" (.unsignedLong deviceData.deviceId)
        deviceData).statement layout.schema =
      some (.update .deviceTable (1, (Argument.unsignedLong deviceData.deviceId).value)
        (some (5, .text (cString deviceData.deviceIpv6)))) :=
  statement_update "device_table" "deviceid" "deviceipv6" rfl rfl ⟨rfl, rfl⟩ (by decide) ⟨rfl, rfl⟩

theorem deviceTableUpdateCommand_statement_macAddress (deviceData : DeviceTable) :
    (deviceTableUpdateCommand "macaddress=%llu" (.unsignedLongLong deviceData.macAddress)
        deviceData).statement layout.schema =
      some (.update .deviceTable (6, (Argument.unsignedLongLong deviceData.macAddress).value)
        (some (5, .text (cString deviceData.deviceIpv6)))) :=
  statement_update "device_table" "macaddress" "deviceipv6" rfl rfl ⟨rfl, rfl⟩ (by decide) ⟨rfl, rfl⟩

theorem sceneTableUpdateCommand_statement_int (value : uint32) (sceneData : SceneTable) :
    ∀ column ∈ [("onoff=%d", 3), ("repeatmode=%d", 4)],
      (sceneTableUpdateCommand column.1 (.int value) sceneData).statement layout.schema =
        some (.update .sceneTable (column.2, (Argument.int value).value)
          (some (1, (promoted sceneData.sceneId).value))) := by
  intro column member
  fin_cases member
  · exact statement_update "scene_table" "onoff" "sceneid" rfl rfl ⟨rfl, rfl⟩ (by decide)
      ⟨rfl, rfl⟩
  · exact statement_update "scene_table" "repeatmode" "sceneid" rfl rfl ⟨rfl, rfl⟩ (by decide)
      ⟨rfl, rfl⟩

theorem sceneTableUpdateCommand_statement_timeSpan (sceneData : SceneTable) :
    (sceneTableUpdateCommand "timespan='%s'" (.string sceneData.timeSpan) sceneData).statement
        layout.schema =
      some (.update .sceneTable (2, .text (cString sceneData.timeSpan))
        (some (1, (promoted sceneData.sceneId).value))) :=
  statement_update "scene_table" "timespan" "sceneid" rfl rfl ⟨rfl, rfl⟩ (by decide) ⟨rfl, rfl⟩

theorem profileTableUpdateCommand_statement (characters : Text) (profileData : ProfileTable) :
    ∀ column ∈ [("profilename='%s'", 2), ("profileonoff='%s'", 3),
      ("profilestarttime='%s'", 4), ("profileendtime='%s'", 5),
      ("profiletimerepeat='%s'", 6), ("profiledevices='%s'", 7)],
      (profileTableUpdateCommand column.1 (.string characters) profileData).statement
          layout.schema =
        some (.update .profileTable (column.2, .text (cString characters))
          (some (1, (promoted profileData.profileId).value))) := by
  intro column member
  fin_cases member
  · exact statement_update "profile_table" "profilename" "profileid" rfl rfl ⟨rfl, rfl⟩ (by decide)
      ⟨rfl, rfl⟩
  · exact statement_update "profile_table" "profileonoff" "profileid" rfl rfl ⟨rfl, rfl⟩ (by decide)
      ⟨rfl, rfl⟩
  · exact statement_update "profile_table" "profilestarttime" "profileid" rfl rfl ⟨rfl, rfl⟩ (by decide)
      ⟨rfl, rfl⟩
  · exact statement_update "profile_table" "profileendtime" "profileid" rfl rfl ⟨rfl, rfl⟩ (by decide)
      ⟨rfl, rfl⟩
  · exact statement_update "profile_table" "profiletimerepeat" "profileid" rfl rfl ⟨rfl, rfl⟩ (by decide)
      ⟨rfl, rfl⟩
  · exact statement_update "profile_table" "profiledevices" "profileid" rfl rfl ⟨rfl, rfl⟩ (by decide)
      ⟨rfl, rfl⟩

theorem roomTableUpdateCommand_statement (roomData : RoomTable) :
    (roomTableUpdateCommand roomData).statement layout.schema =
      some (.update .roomTable (1, .text (cString roomData.roomName))
        (some (2, (Argument.int roomData.groupId).value))) :=
  statement_update "room_table" "roomname" "groupid" rfl rfl ⟨rfl, rfl⟩ (by decide) ⟨rfl, rfl⟩

theorem profileListTableUpdateCommand_statement (profileListData : ProfileListTable) :
    (profileListTableUpdateCommand profileListData).statement layout.schema =
      some (.update .profileListTable (1, (promoted profileListData.sceneId.index).value)
        (some (2, (promoted profileListData.profileId.index).value))) :=
  statement_update "profile_list_table" "sceneid" "profileid" rfl rfl ⟨rfl, rfl⟩ (by decide) ⟨rfl, rfl⟩

theorem roomListTableUpdateCommand_statement (roomListData : RoomListTable) :
    (roomListTableUpdateCommand roomListData).statement layout.schema =
      some (.update .roomListTable (2, (promoted roomListData.roomId.index).value)
        (some (1, (promoted roomListData.deviceId.index).value))) :=
  statement_update "room_list_table" "roomid" "deviceid" rfl rfl ⟨rfl, rfl⟩ (by decide) ⟨rfl, rfl⟩

end Statements

end StudyDemo.Sqlite
