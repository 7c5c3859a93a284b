import StudyDemo.Sql.Engine
import StudyDemo.Sqlite.Commands

/-! # Adding, deleting and updating records

Each function prints a command into a buffer of 1024 bytes and executes it. The
functions that add a record keep the key of the new row in 16 bits. -/

namespace StudyDemo.Sqlite

open Sql

/-- `t_SqliteStatus`, in the order of the enumeration. -/
inductive SqliteStatus
  | success
  | err
  | findErr
  | mallocErr
  | dbError
  | notFound
  | deviceTableDeviceIdError
  | deviceTableSceneIdError
  | deviceTableUserNameError
  | deviceTableAddressError
  | deviceTableMacAddressError
  | deviceTableDeviceTypeError
  | sceneTableTimeSpanError
  | sceneTableOnOffError
  | sceneTableRepeatModeError
  | profileNameError
  | profileOnOffError
  | profileAddStrError
  | profileIdError
  | roomTableNameError
  | roomListTableNameError
  | profileListTableNameError
  deriving DecidableEq

/-- The size of the buffers for commands. -/
def commandSize : Nat := 1024

/-- The text and its NUL fit the buffer. -/
def Fits (command : Command) : Prop := command.text.length < commandSize

instance (command : Command) : Decidable (Fits command) :=
  inferInstanceAs (Decidable (_ < _))

section Calls

variable {layout : Layout} (environment : Environment layout.schema)

def runCommand (command : Command) (session : Session TableName) : Bool × Session TableName :=
  if Fits command then environment.exec command.text session
  else environment.overrun command.text session

theorem runCommand_called {command : Command} (fits : Fits command)
    (session : Session TableName) :
    (runCommand environment command session).2.calls = session.calls + 1 ∧
      (runCommand environment command session).2.live = session.live := by
  rw [runCommand, if_pos fits, Environment.exec]
  split_ifs
  · exact ⟨rfl, rfl⟩
  · exact ⟨rfl, rfl⟩

def execute (command : Command) (failure : SqliteStatus) (session : Session TableName) :
    SqliteStatus × Session TableName :=
  let done := runCommand environment command session
  (if done.1 then .success else failure, done.2)

/-- With the new `Index` when the row was inserted. -/
def insertRecord (command : Command) (session : Session TableName) :
    (SqliteStatus × Option uint16) × Session TableName :=
  let done := runCommand environment command session
  if done.1 then
    ((.success, some (BitVec.ofInt 16 done.2.connection.lastInsertRowid)), done.2)
  else ((.err, none), done.2)

/-- One command of an update: whether the mask selects it, and its error. -/
structure UpdateStep where
  selected : Bool
  command : Command
  failure : SqliteStatus

/-- The selected commands one after the other, up to the first that fails. -/
def runUpdate : List UpdateStep → Session TableName → SqliteStatus × Session TableName
  | [], session => (.success, session)
  | step :: steps, session =>
      if step.selected then
        let done := runCommand environment step.command session
        if done.1 then runUpdate steps done.2 else (step.failure, done.2)
      else runUpdate steps session

def selects (maskcode mask : uint8) : Bool := maskcode &&& mask != 0

/-! ## Devices -/

def deviceTableAddRecord (deviceData : DeviceTable) (session : Session TableName) :
    (SqliteStatus × DeviceTable) × Session TableName :=
  let done := insertRecord environment (deviceTableAddCommand deviceData) session
  ((done.1.1, { deviceData with index := done.1.2.getD deviceData.index }), done.2)

def deviceTableDelete (deviceData : DeviceTable) :
    Session TableName → SqliteStatus × Session TableName :=
  execute environment (deviceTableDeleteCommand deviceData) .err

/-- `DEVICETYPE` is 0x100, which no 8-bit mask selects. -/
def deviceTableUpdateSteps (deviceData : DeviceTable) (maskcode : uint8) : List UpdateStep :=
  [⟨selects maskcode 0x01,
      deviceTableUpdateCommand "deviceid=%lu" (.unsignedLong deviceData.deviceId) deviceData,
      .deviceTableDeviceIdError⟩,
    ⟨selects maskcode 0x02,
      deviceTableUpdateCommand "username='%s'" (.string deviceData.userName) deviceData,
      .deviceTableUserNameError⟩,
    ⟨selects maskcode 0x04,
      deviceTableUpdateCommand "address=%d" (promoted deviceData.address) deviceData,
      .deviceTableAddressError⟩,
    ⟨selects maskcode 0x08,
      deviceTableUpdateCommand "macaddress=%llu" (.unsignedLongLong deviceData.macAddress)
        deviceData,
      .deviceTableMacAddressError⟩,
    ⟨maskcode.setWidth 32 &&& (0x100 : uint32) != 0,
      deviceTableUpdateCommand "devicetype=%d" (promoted deviceData.deviceType) deviceData,
      .deviceTableDeviceTypeError⟩,
    ⟨selects maskcode 0x20,
      deviceTableUpdateCommand "deviceonoff=%d" (promoted deviceData.deviceOnOff) deviceData,
      .deviceTableDeviceTypeError⟩,
    ⟨selects maskcode 0x40,
      deviceTableUpdateCommand "devicevalue1=%d" (promoted deviceData.deviceValue1) deviceData,
      .deviceTableDeviceTypeError⟩,
    ⟨selects maskcode 0x80,
      deviceTableUpdateCommand "devicevalue2=%d" (promoted deviceData.deviceValue2) deviceData,
      .deviceTableDeviceTypeError⟩,
    ⟨selects maskcode 0x10,
      deviceTableUpdateCommand "deviceisonline=%d" (promoted deviceData.deviceIsOnline) deviceData,
      .deviceTableDeviceTypeError⟩,
    ⟨maskcode == 0x03,
      deviceTableUpdateCommand "deviceappend='%s'" (.string deviceData.deviceAppendstr) deviceData,
      .deviceTableDeviceTypeError⟩]

def deviceTableUpdate (deviceData : DeviceTable) (maskcode : uint8) :
    Session TableName → SqliteStatus × Session TableName :=
  runUpdate environment (deviceTableUpdateSteps deviceData maskcode)

def deviceTableClear : Session TableName → SqliteStatus × Session TableName :=
  execute environment (tableClearCommand .deviceTable) .err

/-! ## Scenes -/

def sceneTableAddRecord (sceneData : SceneTable) (session : Session TableName) :
    (SqliteStatus × SceneTable) × Session TableName :=
  let done := insertRecord environment (sceneTableAddCommand sceneData) session
  ((done.1.1, { sceneData with index := done.1.2.getD sceneData.index }), done.2)

def sceneTableDelete (sceneData : SceneTable) :
    Session TableName → SqliteStatus × Session TableName :=
  execute environment (sceneTableDeleteCommand sceneData) .err

def sceneTableUpdateSteps (sceneData : SceneTable) (maskcode : uint8) : List UpdateStep :=
  [⟨selects maskcode 0x01,
      sceneTableUpdateCommand "timespan='%s'" (.string sceneData.timeSpan) sceneData,
      .sceneTableTimeSpanError⟩,
    ⟨selects maskcode 0x02,
      sceneTableUpdateCommand "onoff=%d" (promoted sceneData.onOff) sceneData,
      .sceneTableTimeSpanError⟩,
    ⟨selects maskcode 0x04,
      sceneTableUpdateCommand "repeatmode=%d" (promoted sceneData.repeatMode) sceneData,
      .sceneTableTimeSpanError⟩]

def sceneTableUpdate (sceneData : SceneTable) (maskcode : uint8) :
    Session TableName → SqliteStatus × Session TableName :=
  runUpdate environment (sceneTableUpdateSteps sceneData maskcode)

def sceneTableClear : Session TableName → SqliteStatus × Session TableName :=
  execute environment (tableClearCommand .sceneTable) .err

def sceneDeviceTableAddRecord (sceneDeviceData : SceneDeviceTable)
    (session : Session TableName) :
    (SqliteStatus × SceneDeviceTable) × Session TableName :=
  let done := insertRecord environment (sceneDeviceTableAddCommand sceneDeviceData) session
  ((done.1.1, { sceneDeviceData with index := done.1.2.getD sceneDeviceData.index }), done.2)

def sceneDeviceTableDelete (sceneDeviceData : SceneDeviceTable) :
    Session TableName → SqliteStatus × Session TableName :=
  execute environment (sceneDeviceTableDeleteCommand sceneDeviceData) .err

def sceneDeviceTableClear : Session TableName → SqliteStatus × Session TableName :=
  execute environment (tableClearCommand .sceneDeviceTable) .err

/-! ## Profiles -/

def profileTableAddRecord (profileData : ProfileTable) (session : Session TableName) :
    (SqliteStatus × ProfileTable) × Session TableName :=
  let done := insertRecord environment (profileTableAddCommand profileData) session
  ((done.1.1, { profileData with index := done.1.2.getD profileData.index }), done.2)

def profileTableDelete (profileData : ProfileTable) :
    Session TableName → SqliteStatus × Session TableName :=
  execute environment (profileTableDeleteCommand profileData) .err

def profileTableUpdateSteps (profileData : ProfileTable) (maskcode : uint8) :
    List UpdateStep :=
  [⟨selects maskcode 0x01,
      profileTableUpdateCommand "profilename='%s'" (.string profileData.profileName) profileData,
      .profileNameError⟩,
    ⟨selects maskcode 0x20,
      profileTableUpdateCommand "profileonoff='%s'" (.string profileData.profileOnOff) profileData,
      .profileOnOffError⟩,
    ⟨selects maskcode 0x02,
      profileTableUpdateCommand "profilestarttime='%s'" (.string profileData.profileStartTime)
        profileData,
      .profileAddStrError⟩,
    ⟨selects maskcode 0x04,
      profileTableUpdateCommand "profileendtime='%s'" (.string profileData.profileEndTime)
        profileData,
      .profileAddStrError⟩,
    ⟨selects maskcode 0x08,
      profileTableUpdateCommand "profiletimerepeat='%s'" (.string profileData.profileTimeRepeat)
        profileData,
      .profileAddStrError⟩,
    ⟨selects maskcode 0x10,
      profileTableUpdateCommand "profiledevices='%s'" (.string profileData.profileTableDevices)
        profileData,
      .profileAddStrError⟩]

def profileTableUpdate (profileData : ProfileTable) (maskcode : uint8) :
    Session TableName → SqliteStatus × Session TableName :=
  runUpdate environment (profileTableUpdateSteps profileData maskcode)

def profileTableClear : Session TableName → SqliteStatus × Session TableName :=
  execute environment (tableClearCommand .profileTable) .err

def profileListTableAddRecord (profileListData : ProfileListTable)
    (session : Session TableName) :
    (SqliteStatus × ProfileListTable) × Session TableName :=
  let done := insertRecord environment (profileListTableAddCommand profileListData) session
  ((done.1.1, { profileListData with index := done.1.2.getD profileListData.index }), done.2)

def profileListTableDelete (profileListData : ProfileListTable) :
    Session TableName → SqliteStatus × Session TableName :=
  execute environment (profileListTableDeleteCommand profileListData) .err

def profileListTableUpdateSteps (profileListData : ProfileListTable) (maskcode : uint8) :
    List UpdateStep :=
  [⟨selects maskcode 0x01, profileListTableUpdateCommand profileListData,
    .profileListTableNameError⟩]

def profileListTableUpdate (profileListData : ProfileListTable) (maskcode : uint8) :
    Session TableName → SqliteStatus × Session TableName :=
  runUpdate environment (profileListTableUpdateSteps profileListData maskcode)

def profileListTableClear : Session TableName → SqliteStatus × Session TableName :=
  execute environment (tableClearCommand .profileListTable) .err

/-! ## Linkages -/

def linkageTableAddRecord (linkageData : LinkageTable) (session : Session TableName) :
    (SqliteStatus × LinkageTable) × Session TableName :=
  let done := insertRecord environment (linkageTableAddCommand linkageData) session
  ((done.1.1, { linkageData with index := done.1.2.getD linkageData.index }), done.2)

def linkageTableDelete (linkageData : LinkageTable) :
    Session TableName → SqliteStatus × Session TableName :=
  execute environment (linkageTableDeleteCommand linkageData) .err

def linkageTableClear : Session TableName → SqliteStatus × Session TableName :=
  execute environment (tableClearCommand .linkageTable) .err

/-! ## Rooms -/

def roomTableDelete (roomData : RoomTable) :
    Session TableName → SqliteStatus × Session TableName :=
  execute environment (roomTableDeleteCommand roomData) .err

def roomTableUpdateSteps (roomData : RoomTable) (maskcode : uint8) : List UpdateStep :=
  [⟨selects maskcode 0x01, roomTableUpdateCommand roomData, .roomTableNameError⟩]

def roomTableUpdate (roomData : RoomTable) (maskcode : uint8) :
    Session TableName → SqliteStatus × Session TableName :=
  runUpdate environment (roomTableUpdateSteps roomData maskcode)

def roomTableClear : Session TableName → SqliteStatus × Session TableName :=
  execute environment (tableClearCommand .roomTable) .err

def roomListTableAddRecord (roomListData : RoomListTable) (session : Session TableName) :
    (SqliteStatus × RoomListTable) × Session TableName :=
  let done := insertRecord environment (roomListTableAddCommand roomListData) session
  ((done.1.1, { roomListData with index := done.1.2.getD roomListData.index }), done.2)

def roomListTableDelete (roomListData : RoomListTable) :
    Session TableName → SqliteStatus × Session TableName :=
  execute environment (roomListTableDeleteCommand roomListData) .err

def roomListTableDeleteUnderDevice (roomListData : RoomListTable) :
    Session TableName → SqliteStatus × Session TableName :=
  execute environment (roomListTableDeleteUnderDeviceCommand roomListData) .err

def roomListTableUpdateSteps (roomListData : RoomListTable) (maskcode : uint8) :
    List UpdateStep :=
  [⟨selects maskcode 0x01, roomListTableUpdateCommand roomListData, .roomListTableNameError⟩]

def roomListTableUpdate (roomListData : RoomListTable) (maskcode : uint8) :
    Session TableName → SqliteStatus × Session TableName :=
  runUpdate environment (roomListTableUpdateSteps roomListData maskcode)

def roomListTableClear : Session TableName → SqliteStatus × Session TableName :=
  execute environment (tableClearCommand .roomListTable) .err

end Calls

end StudyDemo.Sqlite
