import StudyDemo.Sql.Parser

/-! # The tables of the gateway

The tables of `SQLITE.DB`. Each has the integer primary key `indexnum` first. How
new keys are chosen and whether ids are unique is left open: no statement of the
gateway depends on it. -/

namespace StudyDemo.Sqlite

open Sql

inductive TableName
  | deviceTable
  | sceneTable
  | sceneDeviceTable
  | profileTable
  | linkageTable
  | roomTable
  | profileListTable
  | roomListTable
  deriving DecidableEq

def TableName.all : List TableName :=
  [.deviceTable, .sceneTable, .sceneDeviceTable, .profileTable, .linkageTable, .roomTable,
    .profileListTable, .roomListTable]

def TableName.written : TableName → String
  | .deviceTable => "Device_Table"
  | .sceneTable => "Scene_Table"
  | .sceneDeviceTable => "Scene_Device_Table"
  | .profileTable => "Profile_Table"
  | .linkageTable => "Linkage_Table"
  | .roomTable => "Room_Table"
  | .profileListTable => "Profile_List_Table"
  | .roomListTable => "Room_List_Table"

def integerColumn (name : String) : Column := ⟨name.toList, .integer⟩

def textColumn (name : String) : Column := ⟨name.toList, .text⟩

def TableName.columns : TableName → List Column
  | .deviceTable =>
      [integerColumn "indexnum", integerColumn "deviceid", textColumn "devicename",
        textColumn "username", integerColumn "address", textColumn "deviceipv6",
        integerColumn "macaddress", integerColumn "devicetype", integerColumn "deviceonoff",
        integerColumn "devicevalue1", integerColumn "devicevalue2",
        integerColumn "deviceisonline", textColumn "deviceappend"]
  | .sceneTable =>
      [integerColumn "indexnum", integerColumn "sceneid", textColumn "timespan",
        integerColumn "onoff", integerColumn "repeatmode"]
  | .sceneDeviceTable =>
      [integerColumn "indexnum", integerColumn "sceneindex", integerColumn "deviceindex"]
  | .profileTable =>
      [integerColumn "indexnum", integerColumn "profileid", textColumn "profilename",
        textColumn "profileonoff", textColumn "profilestarttime", textColumn "profileendtime",
        textColumn "profiletimerepeat", textColumn "profiledevices"]
  | .linkageTable =>
      [integerColumn "indexnum", integerColumn "linkageid", textColumn "linkagesensoripv6",
        textColumn "linkagedeviceslist"]
  | .roomTable =>
      [integerColumn "indexnum", textColumn "roomname", integerColumn "groupid"]
  | .profileListTable =>
      [integerColumn "indexnum", integerColumn "sceneid", integerColumn "profileid"]
  | .roomListTable =>
      [integerColumn "indexnum", integerColumn "deviceid", integerColumn "roomid"]

/-- The column by which the records of a table are told apart. -/
def TableName.idColumn : TableName → List Nat
  | .deviceTable => [5]
  | .sceneTable => [1]
  | .profileTable => [1]
  | .linkageTable => [2]
  | .roomTable => [2]
  | _ => []

/-- Whether keys are never used twice, and whether the id column is unique. -/
structure Layout where
  autoincrement : TableName → Bool
  unique : TableName → Bool

/-- The layout with which `SQLITE.DB` was made. -/
def Layout.shipped : Layout := ⟨fun _ => true, fun _ => true⟩

/-- The layout in which ids may be repeated. -/
def Layout.repeating : Layout := ⟨fun _ => true, fun _ => false⟩

/-- The layout in which the next key is one more than the largest present. -/
def Layout.reusing : Layout := ⟨fun _ => false, fun _ => true⟩

def Layout.schema (layout : Layout) : Schema TableName where
  tableNamed name :=
    TableName.all.find? fun table => decide (table.written.toList.map Char.toLower = name)
  columns := TableName.columns
  autoincrement := layout.autoincrement
  unique table := if layout.unique table then table.idColumn else []

end StudyDemo.Sqlite
