import StudyDemo.Foundation.Execution
import StudyDemo.Sql.Keys
import StudyDemo.Sqlite.Search

/-! # Runs of operations

The functions that change the database, in any order. What each statement of an
operation preserves, the operation preserves, whichever of its calls fail. -/

namespace StudyDemo.Sqlite

open Sql

/-- The command fits its buffer and its strings contain no quote. -/
structure Safe (command : Command) : Prop where
  quoteFree : QuoteFree command.arguments
  fits : Fits command

instance (command : Command) : Decidable (Safe command) :=
  decidable_of_iff (QuoteFree command.arguments ∧ Fits command)
    ⟨fun both => ⟨both.1, both.2⟩, fun safe => ⟨safe.quoteFree, safe.fits⟩⟩

theorem safe_of_width {command : Command} (quoteFree : QuoteFree command.arguments)
    (short : (pieces (command.format.flatMap String.toList)).length +
      (command.arguments.map Argument.width).sum < commandSize) : Safe command :=
  ⟨quoteFree, Nat.lt_of_le_of_lt command.length_text_le short⟩

inductive Operation
  | deviceTableAddRecord (deviceData : DeviceTable)
  | deviceTableDelete (deviceData : DeviceTable)
  | deviceTableUpdate (deviceData : DeviceTable) (maskcode : uint8)
  | deviceTableClear
  | sceneTableAddRecord (sceneData : SceneTable)
  | sceneTableDelete (sceneData : SceneTable)
  | sceneTableUpdate (sceneData : SceneTable) (maskcode : uint8)
  | sceneTableClear
  | sceneDeviceTableAddRecord (sceneDeviceData : SceneDeviceTable)
  | sceneDeviceTableDelete (sceneDeviceData : SceneDeviceTable)
  | sceneDeviceTableClear
  | profileTableAddRecord (profileData : ProfileTable)
  | profileTableDelete (profileData : ProfileTable)
  | profileTableUpdate (profileData : ProfileTable) (maskcode : uint8)
  | profileTableClear
  | profileListTableAddRecord (profileListData : ProfileListTable)
  | profileListTableDelete (profileListData : ProfileListTable)
  | profileListTableUpdate (profileListData : ProfileListTable) (maskcode : uint8)
  | profileListTableClear
  | linkageTableAddRecord (linkageData : LinkageTable)
  | linkageTableDelete (linkageData : LinkageTable)
  | linkageTableClear
  | roomTableAddRecord (roomData : RoomTable)
  | roomTableDelete (roomData : RoomTable)
  | roomTableUpdate (roomData : RoomTable) (maskcode : uint8)
  | roomTableClear
  | roomListTableAddRecord (roomListData : RoomListTable)
  | roomListTableDelete (roomListData : RoomListTable)
  | roomListTableDeleteUnderDevice (roomListData : RoomListTable)
  | roomListTableUpdate (roomListData : RoomListTable) (maskcode : uint8)
  | roomListTableClear

section Perform

variable {layout : Layout} (environment : Environment layout.schema)

/-- The session after the function returned. -/
def perform (session : Session TableName) : Operation → Session TableName
  | .deviceTableAddRecord deviceData => (deviceTableAddRecord environment deviceData session).2
  | .deviceTableDelete deviceData => (deviceTableDelete environment deviceData session).2
  | .deviceTableUpdate deviceData maskcode =>
      (deviceTableUpdate environment deviceData maskcode session).2
  | .deviceTableClear => (deviceTableClear environment session).2
  | .sceneTableAddRecord sceneData => (sceneTableAddRecord environment sceneData session).2
  | .sceneTableDelete sceneData => (sceneTableDelete environment sceneData session).2
  | .sceneTableUpdate sceneData maskcode =>
      (sceneTableUpdate environment sceneData maskcode session).2
  | .sceneTableClear => (sceneTableClear environment session).2
  | .sceneDeviceTableAddRecord sceneDeviceData =>
      (sceneDeviceTableAddRecord environment sceneDeviceData session).2
  | .sceneDeviceTableDelete sceneDeviceData =>
      (sceneDeviceTableDelete environment sceneDeviceData session).2
  | .sceneDeviceTableClear => (sceneDeviceTableClear environment session).2
  | .profileTableAddRecord profileData =>
      (profileTableAddRecord environment profileData session).2
  | .profileTableDelete profileData => (profileTableDelete environment profileData session).2
  | .profileTableUpdate profileData maskcode =>
      (profileTableUpdate environment profileData maskcode session).2
  | .profileTableClear => (profileTableClear environment session).2
  | .profileListTableAddRecord profileListData =>
      (profileListTableAddRecord environment profileListData session).2
  | .profileListTableDelete profileListData =>
      (profileListTableDelete environment profileListData session).2
  | .profileListTableUpdate profileListData maskcode =>
      (profileListTableUpdate environment profileListData maskcode session).2
  | .profileListTableClear => (profileListTableClear environment session).2
  | .linkageTableAddRecord linkageData =>
      (linkageTableAddRecord environment linkageData session).2
  | .linkageTableDelete linkageData => (linkageTableDelete environment linkageData session).2
  | .linkageTableClear => (linkageTableClear environment session).2
  | .roomTableAddRecord roomData => (roomTableAddRecord environment roomData session).2
  | .roomTableDelete roomData => (roomTableDelete environment roomData session).2
  | .roomTableUpdate roomData maskcode =>
      (roomTableUpdate environment roomData maskcode session).2
  | .roomTableClear => (roomTableClear environment session).2
  | .roomListTableAddRecord roomListData =>
      (roomListTableAddRecord environment roomListData session).2
  | .roomListTableDelete roomListData =>
      (roomListTableDelete environment roomListData session).2
  | .roomListTableDeleteUnderDevice roomListData =>
      (roomListTableDeleteUnderDevice environment roomListData session).2
  | .roomListTableUpdate roomListData maskcode =>
      (roomListTableUpdate environment roomListData maskcode session).2
  | .roomListTableClear => (roomListTableClear environment session).2

def performStep : Execution.Step (Session TableName) Operation Empty := fun session operation =>
  (perform environment session operation, none)

abbrev performed (start : Session TableName) (operations : List Operation) :
    Session TableName := Execution.finalState (performStep environment) start operations

end Perform

def selectedCommands (steps : List UpdateStep) : List Command :=
  (steps.filter UpdateStep.selected).map UpdateStep.command

/-- The commands that an operation may execute. The group id of a new room is looked
up first. -/
def Operation.commands (groupId : uint32) : Operation → List Command
  | .deviceTableAddRecord deviceData => [deviceTableAddCommand deviceData]
  | .deviceTableDelete deviceData => [deviceTableDeleteCommand deviceData]
  | .deviceTableUpdate deviceData maskcode =>
      selectedCommands (deviceTableUpdateSteps deviceData maskcode)
  | .deviceTableClear => [tableClearCommand .deviceTable]
  | .sceneTableAddRecord sceneData => [sceneTableAddCommand sceneData]
  | .sceneTableDelete sceneData => [sceneTableDeleteCommand sceneData]
  | .sceneTableUpdate sceneData maskcode =>
      selectedCommands (sceneTableUpdateSteps sceneData maskcode)
  | .sceneTableClear => [tableClearCommand .sceneTable]
  | .sceneDeviceTableAddRecord sceneDeviceData => [sceneDeviceTableAddCommand sceneDeviceData]
  | .sceneDeviceTableDelete sceneDeviceData => [sceneDeviceTableDeleteCommand sceneDeviceData]
  | .sceneDeviceTableClear => [tableClearCommand .sceneDeviceTable]
  | .profileTableAddRecord profileData => [profileTableAddCommand profileData]
  | .profileTableDelete profileData => [profileTableDeleteCommand profileData]
  | .profileTableUpdate profileData maskcode =>
      selectedCommands (profileTableUpdateSteps profileData maskcode)
  | .profileTableClear => [tableClearCommand .profileTable]
  | .profileListTableAddRecord profileListData => [profileListTableAddCommand profileListData]
  | .profileListTableDelete profileListData => [profileListTableDeleteCommand profileListData]
  | .profileListTableUpdate profileListData maskcode =>
      selectedCommands (profileListTableUpdateSteps profileListData maskcode)
  | .profileListTableClear => [tableClearCommand .profileListTable]
  | .linkageTableAddRecord linkageData => [linkageTableAddCommand linkageData]
  | .linkageTableDelete linkageData => [linkageTableDeleteCommand linkageData]
  | .linkageTableClear => [tableClearCommand .linkageTable]
  | .roomTableAddRecord roomData =>
      [roomTableAddCommand { roomData with groupId := groupId }]
  | .roomTableDelete roomData => [roomTableDeleteCommand roomData]
  | .roomTableUpdate roomData maskcode =>
      selectedCommands (roomTableUpdateSteps roomData maskcode)
  | .roomTableClear => [tableClearCommand .roomTable]
  | .roomListTableAddRecord roomListData => [roomListTableAddCommand roomListData]
  | .roomListTableDelete roomListData => [roomListTableDeleteCommand roomListData]
  | .roomListTableDeleteUnderDevice roomListData =>
      [roomListTableDeleteUnderDeviceCommand roomListData]
  | .roomListTableUpdate roomListData maskcode =>
      selectedCommands (roomListTableUpdateSteps roomListData maskcode)
  | .roomListTableClear => [tableClearCommand .roomListTable]

/-- Every command of the operation is safe, whatever group id a new room gets. -/
def Operation.Safe (operation : Operation) : Prop :=
  ∀ groupId, ∀ command ∈ operation.commands groupId, Sqlite.Safe command

/-! ## Statements -/

/-- The columns that an update sets when they are selected. -/
def updateStatements (table : TableName) (key : Field) (columns : List (Bool × Field)) :
    List (Statement TableName) :=
  (columns.filter Prod.fst).map fun column => .update table column.2 (some key)

def deviceTableUpdateColumns (deviceData : DeviceTable) (maskcode : uint8) :
    List (Bool × Field) :=
  [(selects maskcode 0x01, (1, (Argument.unsignedLong deviceData.deviceId).value)),
    (selects maskcode 0x02, (3, .text (cString deviceData.userName))),
    (selects maskcode 0x04, (4, (promoted deviceData.address).value)),
    (selects maskcode 0x08, (6, (Argument.unsignedLongLong deviceData.macAddress).value)),
    (maskcode.setWidth 32 &&& (0x100 : uint32) != 0,
      (7, (promoted deviceData.deviceType).value)),
    (selects maskcode 0x20, (8, (promoted deviceData.deviceOnOff).value)),
    (selects maskcode 0x40, (9, (promoted deviceData.deviceValue1).value)),
    (selects maskcode 0x80, (10, (promoted deviceData.deviceValue2).value)),
    (selects maskcode 0x10, (11, (promoted deviceData.deviceIsOnline).value)),
    (maskcode == 0x03, (12, .text (cString deviceData.deviceAppendstr)))]

def sceneTableUpdateColumns (sceneData : SceneTable) (maskcode : uint8) : List (Bool × Field) :=
  [(selects maskcode 0x01, (2, .text (cString sceneData.timeSpan))),
    (selects maskcode 0x02, (3, (promoted sceneData.onOff).value)),
    (selects maskcode 0x04, (4, (promoted sceneData.repeatMode).value))]

def profileTableUpdateColumns (profileData : ProfileTable) (maskcode : uint8) :
    List (Bool × Field) :=
  [(selects maskcode 0x01, (2, .text (cString profileData.profileName))),
    (selects maskcode 0x20, (3, .text (cString profileData.profileOnOff))),
    (selects maskcode 0x02, (4, .text (cString profileData.profileStartTime))),
    (selects maskcode 0x04, (5, .text (cString profileData.profileEndTime))),
    (selects maskcode 0x08, (6, .text (cString profileData.profileTimeRepeat))),
    (selects maskcode 0x10, (7, .text (cString profileData.profileTableDevices)))]

/-- What the commands of an operation say. -/
def Operation.statements (groupId : uint32) : Operation → List (Statement TableName)
  | .deviceTableAddRecord deviceData =>
      [.insert .deviceTable (fieldsOf (deviceTableAddCommand deviceData))]
  | .deviceTableDelete deviceData =>
      [.delete .deviceTable (some (5, .text (cString deviceData.deviceIpv6)))]
  | .deviceTableUpdate deviceData maskcode =>
      updateStatements .deviceTable (5, .text (cString deviceData.deviceIpv6))
        (deviceTableUpdateColumns deviceData maskcode)
  | .deviceTableClear => [.delete .deviceTable none]
  | .sceneTableAddRecord sceneData =>
      [.insert .sceneTable (fieldsOf (sceneTableAddCommand sceneData))]
  | .sceneTableDelete sceneData =>
      [.delete .sceneTable (some (1, (promoted sceneData.sceneId).value))]
  | .sceneTableUpdate sceneData maskcode =>
      updateStatements .sceneTable (1, (promoted sceneData.sceneId).value)
        (sceneTableUpdateColumns sceneData maskcode)
  | .sceneTableClear => [.delete .sceneTable none]
  | .sceneDeviceTableAddRecord sceneDeviceData =>
      [.insert .sceneDeviceTable (fieldsOf (sceneDeviceTableAddCommand sceneDeviceData))]
  | .sceneDeviceTableDelete sceneDeviceData =>
      [.delete .sceneDeviceTable
        (some (1, (promoted sceneDeviceData.sceneData.index).value))]
  | .sceneDeviceTableClear => [.delete .sceneDeviceTable none]
  | .profileTableAddRecord profileData =>
      [.insert .profileTable (fieldsOf (profileTableAddCommand profileData))]
  | .profileTableDelete profileData =>
      [.delete .profileTable (some (1, (promoted profileData.profileId).value))]
  | .profileTableUpdate profileData maskcode =>
      updateStatements .profileTable (1, (promoted profileData.profileId).value)
        (profileTableUpdateColumns profileData maskcode)
  | .profileTableClear => [.delete .profileTable none]
  | .profileListTableAddRecord profileListData =>
      [.insert .profileListTable (fieldsOf (profileListTableAddCommand profileListData))]
  | .profileListTableDelete profileListData =>
      [.delete .profileListTable
        (some (2, (promoted profileListData.profileId.index).value))]
  | .profileListTableUpdate profileListData maskcode =>
      updateStatements .profileListTable (2, (promoted profileListData.profileId.index).value)
        [(selects maskcode 0x01, (1, (promoted profileListData.sceneId.index).value))]
  | .profileListTableClear => [.delete .profileListTable none]
  | .linkageTableAddRecord linkageData =>
      [.insert .linkageTable (fieldsOf (linkageTableAddCommand linkageData))]
  | .linkageTableDelete linkageData =>
      [.delete .linkageTable (some (2, .text (cString linkageData.linkageSensorAddress)))]
  | .linkageTableClear => [.delete .linkageTable none]
  | .roomTableAddRecord roomData =>
      [.insert .roomTable
        (fieldsOf (roomTableAddCommand { roomData with groupId := groupId }))]
  | .roomTableDelete roomData =>
      [.delete .roomTable (some (2, (Argument.int roomData.groupId).value))]
  | .roomTableUpdate roomData maskcode =>
      updateStatements .roomTable (2, (Argument.int roomData.groupId).value)
        [(selects maskcode 0x01, (1, .text (cString roomData.roomName)))]
  | .roomTableClear => [.delete .roomTable none]
  | .roomListTableAddRecord roomListData =>
      [.insert .roomListTable (fieldsOf (roomListTableAddCommand roomListData))]
  | .roomListTableDelete roomListData =>
      [.delete .roomListTable (some (2, (promoted roomListData.roomId.index).value))]
  | .roomListTableDeleteUnderDevice roomListData =>
      [.delete .roomListTable (some (1, (promoted roomListData.deviceId.index).value))]
  | .roomListTableUpdate roomListData maskcode =>
      updateStatements .roomListTable (1, (promoted roomListData.deviceId.index).value)
        [(selects maskcode 0x01, (2, (promoted roomListData.roomId.index).value))]
  | .roomListTableClear => [.delete .roomListTable none]

def Operation.table : Operation → TableName
  | .deviceTableAddRecord _ => .deviceTable
  | .deviceTableDelete _ => .deviceTable
  | .deviceTableUpdate _ _ => .deviceTable
  | .deviceTableClear => .deviceTable
  | .sceneTableAddRecord _ => .sceneTable
  | .sceneTableDelete _ => .sceneTable
  | .sceneTableUpdate _ _ => .sceneTable
  | .sceneTableClear => .sceneTable
  | .sceneDeviceTableAddRecord _ => .sceneDeviceTable
  | .sceneDeviceTableDelete _ => .sceneDeviceTable
  | .sceneDeviceTableClear => .sceneDeviceTable
  | .profileTableAddRecord _ => .profileTable
  | .profileTableDelete _ => .profileTable
  | .profileTableUpdate _ _ => .profileTable
  | .profileTableClear => .profileTable
  | .profileListTableAddRecord _ => .profileListTable
  | .profileListTableDelete _ => .profileListTable
  | .profileListTableUpdate _ _ => .profileListTable
  | .profileListTableClear => .profileListTable
  | .linkageTableAddRecord _ => .linkageTable
  | .linkageTableDelete _ => .linkageTable
  | .linkageTableClear => .linkageTable
  | .roomTableAddRecord _ => .roomTable
  | .roomTableDelete _ => .roomTable
  | .roomTableUpdate _ _ => .roomTable
  | .roomTableClear => .roomTable
  | .roomListTableAddRecord _ => .roomListTable
  | .roomListTableDelete _ => .roomListTable
  | .roomListTableDeleteUnderDevice _ => .roomListTable
  | .roomListTableUpdate _ _ => .roomListTable
  | .roomListTableClear => .roomListTable

theorem mem_updateStatements {table : TableName} {key : Field} {columns : List (Bool × Field)}
    {statement : Statement TableName} (member : statement ∈ updateStatements table key columns) :
    ∃ column ∈ columns, statement = .update table column.2 (some key) := by
  obtain ⟨column, selected, rfl⟩ := List.mem_map.mp member
  exact ⟨column, List.mem_of_mem_filter selected, rfl⟩

theorem Operation.statement_table (operation : Operation) (groupId : uint32) :
    ∀ statement ∈ operation.statements groupId, statement.table = operation.table := by
  have one : ∀ only : Statement TableName, ∀ statement ∈ [only],
      statement.table = only.table := by
    intro only statement member
    rw [List.mem_singleton.mp member]
  have update : ∀ table key columns, ∀ statement ∈ updateStatements table key columns,
      statement.table = table := by
    intro table key columns statement member
    obtain ⟨column, _, rfl⟩ := mem_updateStatements member
    rfl
  cases operation <;> first | exact one _ | exact update _ _ _

section Statements

variable (layout : Layout)

/-- The command of an update step sets its column. -/
def Sets (table : TableName) (key : Field) (step : UpdateStep) (column : Bool × Field) : Prop :=
  step.selected = column.1 ∧
    step.command.statement layout.schema = some (.update table column.2 (some key))

variable {layout}

theorem selectedCommands_statements {table : TableName} {key : Field} {steps : List UpdateStep}
    {columns : List (Bool × Field)} (sets : List.Forall₂ (Sets layout table key) steps columns) :
    List.Forall₂ (fun command statement => command.statement layout.schema = some statement)
      (selectedCommands steps) (updateStatements table key columns) := by
  induction sets with
  | nil => exact .nil
  | @cons step column steps columns first _ induction =>
      rw [selectedCommands, updateStatements] at *
      cases selected : step.selected with
      | false =>
          have notColumn : ¬column.1 = true := by
            rw [← first.1, selected]
            exact Bool.false_ne_true
          have notStep : ¬step.selected = true := by
            rw [selected]
            exact Bool.false_ne_true
          rw [List.filter_cons_of_neg notStep, List.filter_cons_of_neg notColumn]
          exact induction
      | true =>
          have isColumn : column.1 = true := first.1.symm.trans selected
          rw [List.filter_cons_of_pos selected, List.filter_cons_of_pos isColumn]
          exact .cons first.2 induction

theorem deviceTableUpdateSteps_sets (deviceData : DeviceTable) (maskcode : uint8) :
    List.Forall₂ (Sets layout .deviceTable (5, .text (cString deviceData.deviceIpv6)))
      (deviceTableUpdateSteps deviceData maskcode)
      (deviceTableUpdateColumns deviceData maskcode) := by
  have ints := fun value => @deviceTableUpdateCommand_statement_int layout value deviceData
  have strings := fun characters =>
    @deviceTableUpdateCommand_statement_string layout characters deviceData
  refine .cons ?deviceId <| .cons ?userName <| .cons ?address <| .cons ?macAddress <|
    .cons ?deviceType <| .cons ?onOff <| .cons ?value1 <| .cons ?value2 <|
    .cons ?isOnline <| .cons ?append .nil
  case deviceId => exact ⟨rfl, deviceTableUpdateCommand_statement_deviceId deviceData⟩
  case userName => exact ⟨rfl, strings _ ("username='%s'", 3) (by simp)⟩
  case address => exact ⟨rfl, ints _ ("address=%d", 4) (by simp)⟩
  case macAddress => exact ⟨rfl, deviceTableUpdateCommand_statement_macAddress deviceData⟩
  case deviceType => exact ⟨rfl, ints _ ("devicetype=%d", 7) (by simp)⟩
  case onOff => exact ⟨rfl, ints _ ("deviceonoff=%d", 8) (by simp)⟩
  case value1 => exact ⟨rfl, ints _ ("devicevalue1=%d", 9) (by simp)⟩
  case value2 => exact ⟨rfl, ints _ ("devicevalue2=%d", 10) (by simp)⟩
  case isOnline => exact ⟨rfl, ints _ ("deviceisonline=%d", 11) (by simp)⟩
  case append => exact ⟨rfl, strings _ ("deviceappend='%s'", 12) (by simp)⟩

theorem sceneTableUpdateSteps_sets (sceneData : SceneTable) (maskcode : uint8) :
    List.Forall₂ (Sets layout .sceneTable (1, (promoted sceneData.sceneId).value))
      (sceneTableUpdateSteps sceneData maskcode)
      (sceneTableUpdateColumns sceneData maskcode) := by
  have ints := fun value => @sceneTableUpdateCommand_statement_int layout value sceneData
  refine .cons ?timeSpan <| .cons ?onOff <| .cons ?repeatMode .nil
  case timeSpan => exact ⟨rfl, sceneTableUpdateCommand_statement_timeSpan sceneData⟩
  case onOff => exact ⟨rfl, ints _ ("onoff=%d", 3) (by simp)⟩
  case repeatMode => exact ⟨rfl, ints _ ("repeatmode=%d", 4) (by simp)⟩

theorem profileTableUpdateSteps_sets (profileData : ProfileTable) (maskcode : uint8) :
    List.Forall₂ (Sets layout .profileTable (1, (promoted profileData.profileId).value))
      (profileTableUpdateSteps profileData maskcode)
      (profileTableUpdateColumns profileData maskcode) := by
  have strings := fun characters =>
    @profileTableUpdateCommand_statement layout characters profileData
  refine .cons ?name <| .cons ?onOff <| .cons ?startTime <| .cons ?endTime <|
    .cons ?timeRepeat <| .cons ?devices .nil
  case name => exact ⟨rfl, strings _ ("profilename='%s'", 2) (by simp)⟩
  case onOff => exact ⟨rfl, strings _ ("profileonoff='%s'", 3) (by simp)⟩
  case startTime => exact ⟨rfl, strings _ ("profilestarttime='%s'", 4) (by simp)⟩
  case endTime => exact ⟨rfl, strings _ ("profileendtime='%s'", 5) (by simp)⟩
  case timeRepeat => exact ⟨rfl, strings _ ("profiletimerepeat='%s'", 6) (by simp)⟩
  case devices => exact ⟨rfl, strings _ ("profiledevices='%s'", 7) (by simp)⟩

theorem single {command : Command} {statement : Statement TableName}
    (isStatement : command.statement layout.schema = some statement) :
    List.Forall₂ (fun command statement => command.statement layout.schema = some statement)
      [command] [statement] := .cons isStatement .nil

theorem statement_of_mem {commands : List Command} {statements : List (Statement TableName)}
    (say : List.Forall₂
      (fun command statement => command.statement layout.schema = some statement)
      commands statements) :
    ∀ command ∈ commands, ∃ statement ∈ statements,
      command.statement layout.schema = some statement := by
  induction say with
  | nil => exact fun _ member => absurd member List.not_mem_nil
  | cons first _ induction =>
      intro command member
      rcases List.mem_cons.mp member with rfl | later
      · exact ⟨_, List.mem_cons_self, first⟩
      · obtain ⟨statement, inside, isStatement⟩ := induction command later
        exact ⟨statement, List.mem_cons_of_mem _ inside, isStatement⟩

theorem Operation.commands_statements (groupId : uint32) (operation : Operation) :
    List.Forall₂ (fun command statement => command.statement layout.schema = some statement)
      (operation.commands groupId) (operation.statements groupId) := by
  cases operation with
  | deviceTableAddRecord deviceData => exact single (deviceTableAddCommand_statement _)
  | deviceTableDelete deviceData => exact single (deviceTableDeleteCommand_statement _)
  | deviceTableUpdate deviceData maskcode =>
      exact selectedCommands_statements (deviceTableUpdateSteps_sets deviceData maskcode)
  | deviceTableClear => exact single (tableClearCommand_statement _)
  | sceneTableAddRecord sceneData => exact single (sceneTableAddCommand_statement _)
  | sceneTableDelete sceneData => exact single (sceneTableDeleteCommand_statement _)
  | sceneTableUpdate sceneData maskcode =>
      exact selectedCommands_statements (sceneTableUpdateSteps_sets sceneData maskcode)
  | sceneTableClear => exact single (tableClearCommand_statement _)
  | sceneDeviceTableAddRecord sceneDeviceData =>
      exact single (sceneDeviceTableAddCommand_statement _)
  | sceneDeviceTableDelete sceneDeviceData =>
      exact single (sceneDeviceTableDeleteCommand_statement _)
  | sceneDeviceTableClear => exact single (tableClearCommand_statement _)
  | profileTableAddRecord profileData => exact single (profileTableAddCommand_statement _)
  | profileTableDelete profileData => exact single (profileTableDeleteCommand_statement _)
  | profileTableUpdate profileData maskcode =>
      exact selectedCommands_statements (profileTableUpdateSteps_sets profileData maskcode)
  | profileTableClear => exact single (tableClearCommand_statement _)
  | profileListTableAddRecord profileListData =>
      exact single (profileListTableAddCommand_statement _)
  | profileListTableDelete profileListData =>
      exact single (profileListTableDeleteCommand_statement _)
  | profileListTableUpdate profileListData maskcode =>
      exact selectedCommands_statements
        (.cons ⟨rfl, profileListTableUpdateCommand_statement _⟩ .nil)
  | profileListTableClear => exact single (tableClearCommand_statement _)
  | linkageTableAddRecord linkageData => exact single (linkageTableAddCommand_statement _)
  | linkageTableDelete linkageData => exact single (linkageTableDeleteCommand_statement _)
  | linkageTableClear => exact single (tableClearCommand_statement _)
  | roomTableAddRecord roomData => exact single (roomTableAddCommand_statement _)
  | roomTableDelete roomData => exact single (roomTableDeleteCommand_statement _)
  | roomTableUpdate roomData maskcode =>
      exact selectedCommands_statements (.cons ⟨rfl, roomTableUpdateCommand_statement _⟩ .nil)
  | roomTableClear => exact single (tableClearCommand_statement _)
  | roomListTableAddRecord roomListData => exact single (roomListTableAddCommand_statement _)
  | roomListTableDelete roomListData =>
      exact single (roomListTableDeleteCommand_statement _)
  | roomListTableDeleteUnderDevice roomListData =>
      exact single (roomListTableDeleteUnderDeviceCommand_statement _)
  | roomListTableUpdate roomListData maskcode =>
      exact selectedCommands_statements
        (.cons ⟨rfl, roomListTableUpdateCommand_statement _⟩ .nil)
  | roomListTableClear => exact single (tableClearCommand_statement _)

end Statements

/-! ## Commands -/

section Invariants

variable {layout : Layout} {environment : Environment layout.schema}

theorem runCommand_cases {command : Command} (safe : Safe command)
    {statement : Statement TableName}
    (isStatement : command.statement layout.schema = some statement)
    (session : Session TableName) :
    (runCommand environment command session).1 = true ∧
        statement.run layout.schema session.connection =
          some (runCommand environment command session).2.connection ∨
      (runCommand environment command session).1 = false ∧
        (runCommand environment command session).2.connection = session.connection := by
  rw [runCommand, if_pos safe.fits]
  exact Environment.exec_cases (readStatement_text safe.quoteFree isStatement) session

theorem runCommand_of_run (faultless : environment.Faultless) {command : Command}
    (safe : Safe command) {statement : Statement TableName}
    (isStatement : command.statement layout.schema = some statement)
    {session : Session TableName} {next : Connection TableName}
    (ran : statement.run layout.schema session.connection = some next) :
    (runCommand environment command session).1 = true ∧
      (runCommand environment command session).2.connection = next := by
  rw [runCommand, if_pos safe.fits]
  exact Environment.exec_of_run faultless (readStatement_text safe.quoteFree isStatement) ran

/-- The command is a statement that keeps the invariant. -/
def Keeps (layout : Layout) (Invariant : Connection TableName → Prop) (command : Command) :
    Prop :=
  ∃ statement, command.statement layout.schema = some statement ∧
    ∀ connection, Invariant connection → Invariant (statement.apply layout.schema connection)

variable {Invariant : Connection TableName → Prop}

variable (environment) in
theorem Keeps.runCommand {command : Command} (keeps : Keeps layout Invariant command)
    (safe : Safe command) {session : Session TableName} (holds : Invariant session.connection) :
    Invariant (runCommand environment command session).2.connection := by
  obtain ⟨statement, isStatement, kept⟩ := keeps
  rcases runCommand_cases safe isStatement session with ⟨-, ran⟩ | ⟨-, unchanged⟩
  · rw [← (Statement.run_eq_some.mp ran).2]
    exact kept _ holds
  · rw [unchanged]
    exact holds

variable (environment) in
/-- The commands one after the other, up to the first that fails. -/
def runCommands : List Command → Session TableName → Session TableName
  | [], session => session
  | command :: commands, session =>
      let done := runCommand environment command session
      if done.1 then runCommands commands done.2 else done.2

variable (environment) in
theorem runCommands_singleton (command : Command) (session : Session TableName) :
    runCommands environment [command] session =
      (runCommand environment command session).2 := by
  rw [runCommands]
  split_ifs <;> rfl

variable (environment) in
theorem runUpdate_session (steps : List UpdateStep) (session : Session TableName) :
    (runUpdate environment steps session).2 =
      runCommands environment (selectedCommands steps) session := by
  induction steps generalizing session with
  | nil => rfl
  | cons step steps induction =>
      rw [runUpdate]
      by_cases selected : step.selected = true
      · rw [if_pos selected, selectedCommands, List.filter_cons_of_pos selected, List.map_cons,
          runCommands]
        dsimp only
        split_ifs
        · exact induction _
        · rfl
      · rw [if_neg selected, selectedCommands, List.filter_cons_of_neg selected]
        exact induction session

theorem runCommands_invariant {commands : List Command}
    (keeps : ∀ command ∈ commands, Keeps layout Invariant command)
    (safe : ∀ command ∈ commands, Safe command) {session : Session TableName}
    (holds : Invariant session.connection) :
    Invariant (runCommands environment commands session).connection := by
  induction commands generalizing session with
  | nil => exact holds
  | cons command commands induction =>
      have after := (keeps command List.mem_cons_self).runCommand environment
        (safe command List.mem_cons_self) holds
      rw [runCommands]
      split_ifs
      · exact induction (fun other member => keeps other (List.mem_cons_of_mem _ member))
          (fun other member => safe other (List.mem_cons_of_mem _ member)) after
      · exact after

theorem runCommands_of_runs (faultless : environment.Faultless) {commands : List Command}
    {statements : List (Statement TableName)}
    (say : List.Forall₂
      (fun command statement => command.statement layout.schema = some statement)
      commands statements)
    (safe : ∀ command ∈ commands, Safe command) {session : Session TableName}
    {next : Connection TableName}
    (ran : statements.foldlM (fun connection statement => statement.run layout.schema connection)
      session.connection = some next) :
    (runCommands environment commands session).connection = next := by
  induction say generalizing session with
  | nil => exact Option.some.inj ran
  | @cons command statement commands statements first _ induction =>
      rw [List.foldlM_cons] at ran
      obtain ⟨middle, runs, rest⟩ := Option.bind_eq_some_iff.mp ran
      obtain ⟨success, isMiddle⟩ :=
        runCommand_of_run faultless (safe command List.mem_cons_self) first runs
      rw [runCommands, if_pos success]
      exact induction (fun other member => safe other (List.mem_cons_of_mem _ member))
        (isMiddle.symm ▸ rest)

theorem insertRecord_session (command : Command) (session : Session TableName) :
    (insertRecord environment command session).2 =
      (runCommand environment command session).2 := by
  rw [insertRecord]
  split_ifs
  · rfl
  · rfl

variable (environment) in
theorem appendTurn_connection {Listed : Type} (ofRow : Row → Listed) (row : Row)
    (list : List Listed) (session : Session TableName) :
    (appendTurn environment ofRow row list session).2.connection = session.connection := by
  rw [appendTurn]
  split_ifs
  · rfl
  · rfl

variable (environment) in
theorem dbUnUsedRoomId_connection (session : Session TableName) :
    (dbUnUsedRoomId environment session).2.connection = session.connection := by
  have prepared := Environment.prepare_connection environment roomTableSearchCommand.text session
  rw [dbUnUsedRoomId, roomTableSearch]
  dsimp only
  split
  · exact prepared
  · have loop := Environment.forRows_connection environment
      (appendTurn_connection environment (roomOfRow environment.engine))
    split
    · exact (loop _ _ _).trans prepared
    · exact (loop _ _ _).trans prepared

/-- The group id that a new room gets. -/
def unusedGroupId (environment : Environment layout.schema) (session : Session TableName) :
    uint32 := (dbUnUsedRoomId environment session).1.getD 0

variable (environment) in
theorem perform_cases (operation : Operation) (session : Session TableName) :
    ∃ middle : Session TableName, middle.connection = session.connection ∧
      (operation.table = .roomTable ∧ perform environment session operation = middle ∨
        perform environment session operation = runCommands environment
          (operation.commands (unusedGroupId environment session)) middle) := by
  have one : ∀ command,
      (runCommand environment command session).2 = runCommands environment [command] session :=
    fun command => (runCommands_singleton environment command session).symm
  have inserted : ∀ command,
      (insertRecord environment command session).2 = runCommands environment [command] session :=
    fun command => (insertRecord_session command session).trans (one command)
  have updated := fun steps => runUpdate_session environment steps session
  by_cases isAdd : ∃ roomData, operation = .roomTableAddRecord roomData
  · obtain ⟨roomData, rfl⟩ := isAdd
    refine ⟨_, dbUnUsedRoomId_connection environment session, ?_⟩
    rw [perform, roomTableAddRecord, Operation.commands, unusedGroupId, runCommands_singleton]
    cases (dbUnUsedRoomId environment session).1 with
    | none => exact Or.inl ⟨rfl, rfl⟩
    | some groupId => exact Or.inr (insertRecord_session _ _)
  · refine ⟨session, rfl, Or.inr ?_⟩
    cases operation with
    | deviceTableAddRecord deviceData => exact inserted _
    | deviceTableDelete deviceData => exact one _
    | deviceTableUpdate deviceData maskcode => exact updated _
    | deviceTableClear => exact one _
    | sceneTableAddRecord sceneData => exact inserted _
    | sceneTableDelete sceneData => exact one _
    | sceneTableUpdate sceneData maskcode => exact updated _
    | sceneTableClear => exact one _
    | sceneDeviceTableAddRecord sceneDeviceData => exact inserted _
    | sceneDeviceTableDelete sceneDeviceData => exact one _
    | sceneDeviceTableClear => exact one _
    | profileTableAddRecord profileData => exact inserted _
    | profileTableDelete profileData => exact one _
    | profileTableUpdate profileData maskcode => exact updated _
    | profileTableClear => exact one _
    | profileListTableAddRecord profileListData => exact inserted _
    | profileListTableDelete profileListData => exact one _
    | profileListTableUpdate profileListData maskcode => exact updated _
    | profileListTableClear => exact one _
    | linkageTableAddRecord linkageData => exact inserted _
    | linkageTableDelete linkageData => exact one _
    | linkageTableClear => exact one _
    | roomTableAddRecord roomData => exact absurd ⟨roomData, rfl⟩ isAdd
    | roomTableDelete roomData => exact one _
    | roomTableUpdate roomData maskcode => exact updated _
    | roomTableClear => exact one _
    | roomListTableAddRecord roomListData => exact inserted _
    | roomListTableDelete roomListData => exact one _
    | roomListTableDeleteUnderDevice roomListData => exact one _
    | roomListTableUpdate roomListData maskcode => exact updated _
    | roomListTableClear => exact one _

variable (Invariant) in
theorem perform_invariant {operation : Operation} (safe : operation.Safe)
    {session : Session TableName}
    (keeps : ∀ statement ∈ operation.statements (unusedGroupId environment session),
      ∀ connection, Invariant connection → Invariant (statement.apply layout.schema connection))
    (holds : Invariant session.connection) :
    Invariant (perform environment session operation).connection := by
  have kept : ∀ command ∈ operation.commands (unusedGroupId environment session),
      Keeps layout Invariant command := by
    intro command member
    obtain ⟨statement, inside, isStatement⟩ :=
      statement_of_mem (operation.commands_statements _) command member
    exact ⟨statement, isStatement, keeps statement inside⟩
  obtain ⟨middle, unchanged, ⟨-, notAdded⟩ | executed⟩ :=
    perform_cases environment operation session
  · rw [notAdded, unchanged]
    exact holds
  · rw [executed]
    exact runCommands_invariant kept (safe _) (unchanged.symm ▸ holds)

/-- Only a room that is added depends on the group id. -/
theorem Operation.statements_of_ne {operation : Operation} (notRoom : operation.table ≠ .roomTable)
    (groupId : uint32) : operation.statements groupId = operation.statements 0 := by
  cases operation with
  | roomTableAddRecord roomData => exact absurd rfl notRoom
  | _ => rfl

/-- Only a new room is given a group id that is looked up. -/
theorem Operation.safe_of_commands {operation : Operation}
    (notAdd : ∀ roomData, operation ≠ .roomTableAddRecord roomData)
    (safe : ∀ command ∈ operation.commands 0, Sqlite.Safe command) : operation.Safe := by
  intro groupId
  have same : operation.commands groupId = operation.commands 0 := by
    cases operation with
    | roomTableAddRecord roomData => exact absurd rfl (notAdd roomData)
    | _ => rfl
  rw [same]
  exact safe

theorem performed_of_runs (faultless : environment.Faultless) {operations : List Operation}
    (safe : ∀ operation ∈ operations, operation.Safe)
    (notRooms : ∀ operation ∈ operations, operation.table ≠ .roomTable)
    {start : Session TableName} {next : Connection TableName}
    (ran : (operations.flatMap (Operation.statements 0)).foldlM
      (fun connection statement => statement.run layout.schema connection)
      start.connection = some next) :
    (performed environment start operations).connection = next := by
  induction operations generalizing start with
  | nil => exact Option.some.inj ran
  | cons operation operations induction =>
      rw [List.flatMap_cons, List.foldlM_append] at ran
      obtain ⟨middle, first, rest⟩ := Option.bind_eq_some_iff.mp ran
      have notRoom := notRooms operation List.mem_cons_self
      have done : (perform environment start operation).connection = middle := by
        obtain ⟨called, unchanged, ⟨isRoom, -⟩ | executed⟩ :=
          perform_cases environment operation start
        · exact absurd isRoom notRoom
        · rw [executed]
          apply runCommands_of_runs faultless (operation.commands_statements _)
            (safe operation List.mem_cons_self _)
          rw [Operation.statements_of_ne notRoom, unchanged]
          exact first
      apply induction (fun other member => safe other (List.mem_cons_of_mem _ member))
        (fun other member => notRooms other (List.mem_cons_of_mem _ member))
      exact done.symm ▸ rest

end Invariants

end StudyDemo.Sqlite
