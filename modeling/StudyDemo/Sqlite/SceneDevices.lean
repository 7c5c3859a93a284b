import StudyDemo.Foundation.Joins
import StudyDemo.Sqlite.ProfileDevices

/-! # Devices of a scene

`RoomDeviceListSearch` looks the room up by its id and follows the links of its key.
`SceneDeviceListSearch` takes the id of the scene for its key. -/

namespace StudyDemo.Sqlite

open Sql Execution Joins

def sceneDeviceListSelect (sceneId : uint16) : Command :=
  ⟨["Select * From Scene_Device_Table ", "where sceneindex=%d"], [promoted sceneId]⟩

set_option maxRecDepth 4000 in
theorem sceneDeviceListSelect_query {layout : Layout} (sceneId : uint16) :
    (sceneDeviceListSelect sceneId).query layout.schema =
      some ⟨.sceneDeviceTable, some (1, (promoted sceneId).value), none⟩ :=
  query_where "scene_device_table" "sceneindex" rfl rfl ⟨rfl, rfl⟩

def sceneDeviceListSearch {layout : Layout} (environment : Environment layout.schema)
    (sceneId : uint16) (session : Session TableName) :
    (SqliteStatus × List DeviceTable) × Session TableName :=
  let engine := environment.engine
  returned <| selectLoop environment (sceneDeviceListSelect sceneId) true
    (fun sceneDevice => selectLoop environment
      (deviceTableSelect (engine.columnInt (sceneDevice.column 2))) true
      (appendTurn environment (deviceOfRow engine))) [] session

/-! ## Linked devices -/

/-- The links of a table from this key, which is in the column `source`. -/
def linksFrom (table : TableName) (source : Nat) (key : Int) (session : Session TableName) :
    List Row :=
  (rowsOf table session).filter (·.satisfies (some (source, .integer key)))

/-- The link names the device with this key in the column `target`. -/
def namesKey (target : Nat) (link : Row) (key : Int) : Bool :=
  decide (link.column target = .integer key)

/-- The rows of the device table that are linked from this key, once for each link. -/
def linkedDevices (table : TableName) (source target : Nat) (key : Int)
    (session : Session TableName) : List Row :=
  follow Row.rowid (namesKey target) (rowsOf .deviceTable session)
    (linksFrom table source key session)

section Links

variable {layout : Layout} {environment : Environment layout.schema}

variable (environment) in
theorem flatMap_selectedRows_perm {session : Session TableName} {table : TableName}
    (isList : table ∈ linkTables) {command : Command} {source target : Nat} {key : Int}
    (isTarget : target = 1 ∨ target = 2) (quoteFree : QuoteFree command.arguments)
    (isQuery : command.query layout.schema = some ⟨table, some (source, .integer key), none⟩)
    (linked : Linked session.connection) :
    ((selectedRows environment command session.connection).flatMap fun link =>
      selectedRows environment
        (deviceTableSelect (environment.engine.columnInt (link.column target)))
        session.connection).Perm (linkedDevices table source target key session) := by
  have links := (prepare_selectedRows environment quoteFree isQuery session.connection).2.perm
  refine List.Perm.flatMap links fun link member => ?_
  have isLink := linked table isList link ((mem_selectedRows quoteFree isQuery).mp member).1
  have isIndex : IsIndex (link.column target) := by
    rcases isTarget with rfl | rfl
    · exact isLink.1
    · exact isLink.2
  have named := (prepare_selectedRows environment
    (quoteFree_int (environment.engine.columnInt (link.column target)))
    (deviceTableSelect_query _) session.connection).2.perm
  refine named.trans (List.Perm.of_eq (List.filter_congr fun device _ => ?_))
  rw [columnInt_isIndex environment isIndex]
  exact decide_eq_decide.mpr eq_comm

theorem index_deviceOfRow (engine : Engine layout.schema) {device : Row} {index : uint16}
    (isIndex : device.rowid = index.toNat) :
    ((deviceOfRow engine device).index.toNat : Int) = device.rowid := by
  have isKey : device.column 0 = .integer (index.toNat : Int) :=
    congrArg Value.integer isIndex
  rw [deviceOfRow, isKey, columnInt_setWidth engine (by decide), isIndex]

/-- How often the links from a key name a device. -/
def linkCount (table : TableName) (source target : Nat) (key : Int) (device : Row)
    (session : Session TableName) : Nat :=
  (linksFrom table source key session).countP fun link => namesKey target link device.rowid

/-- The devices linked from two keys are the same if and only if each device is linked
as often from the one as from the other. -/
theorem linkedDevices_perm_iff (engine : Engine layout.schema) {session : Session TableName}
    (consistent : Consistent session.connection) {table : TableName} (isList : table ∈ linkTables)
    {source target : Nat} (isTarget : target = 1 ∨ target = 2) (left right : Int) :
    ((linkedDevices table source target left session).map (deviceOfRow engine)).Perm
        ((linkedDevices table source target right session).map (deviceOfRow engine)) ↔
      ∀ device ∈ rowsOf .deviceTable session,
        linkCount table source target left device session =
          linkCount table source target right device session := by
  have distinct : ((rowsOf .deviceTable session).map Row.rowid).Nodup :=
    List.pairwise_map.mpr (consistent.keyed .deviceTable).distinct
  apply perm_map_follow_iff distinct fun device : DeviceTable => (device.index.toNat : Int)
  intro link member device _ named
  have inside : link ∈ rowsOf table session := by
    rcases List.mem_append.mp member with isLeft | isRight
    · exact List.mem_of_mem_filter isLeft
    · exact List.mem_of_mem_filter isRight
  have isLink := consistent.linked table isList link inside
  have isIndex : IsIndex (link.column target) := by
    rcases isTarget with rfl | rfl
    · exact isLink.1
    · exact isLink.2
  obtain ⟨index, isNat⟩ := isIndex
  have isKey : Value.integer device.rowid = .integer index.toNat :=
    (of_decide_eq_true named).symm.trans isNat
  exact index_deviceOfRow engine (Value.integer.inj isKey)

end Links

/-! ## By the id -/

/-- The row has the value, and no other row of the table has it. -/
structure OnlyRow (table : TableName) (position : Nat) (value : Value) (row : Row)
    (session : Session TableName) : Prop where
  member : row ∈ rowsOf table session
  holds : row.column position = value
  only : ∀ other ∈ rowsOf table session, other.column position = value → other = row

theorem OnlyRow.filter_eq {table : TableName} {position : Nat} {value : Value} {row : Row}
    {session : Session TableName} (only : OnlyRow table position value row session)
    (keyed : session.connection.Keyed) :
    (rowsOf table session).filter (·.satisfies (some (position, value))) = [row] := by
  have same : ∀ other ∈ (rowsOf table session).filter (·.satisfies (some (position, value))),
      other = row := by
    intro other member
    obtain ⟨inside, satisfied⟩ := List.mem_filter.mp member
    exact only.only other inside (of_decide_eq_true satisfied)
  have distinct : (rowsOf table session).Nodup :=
    (keyed table).distinct.imp fun different equal => different (congrArg Row.rowid equal)
  have kept : row ∈ (rowsOf table session).filter (·.satisfies (some (position, value))) :=
    List.mem_filter.mpr ⟨only.member, decide_eq_true only.holds⟩
  have replicated := List.eq_replicate_of_mem same
  have atMostOne : ((rowsOf table session).filter
      (·.satisfies (some (position, value)))).length ≤ 1 := by
    rw [← @List.nodup_replicate _ _ row, ← replicated]
    exact distinct.filter _
  have atLeastOne := List.length_pos_of_mem kept
  rw [replicated, Nat.le_antisymm atMostOne atLeastOne]
  rfl

section Searches

variable {layout : Layout} {environment : Environment layout.schema}

/-- The search for a room gives the devices that are linked from its key, which is read
in 32 bits. -/
theorem roomDeviceListSearch_linked (faultless : environment.Faultless) {roomId : uint32}
    {room : Row} {session : Session TableName} (consistent : Consistent session.connection)
    (only : OnlyRow .roomTable 2 (.integer roomId.toInt) room session) :
    (roomDeviceListSearch environment roomId session).1.2.Perm
      ((linkedDevices .roomListTable 2 1 (BitVec.ofInt 32 room.rowid).toInt session).map
        (deviceOfRow environment.engine)) := by
  have selected := (prepare_selectedRows environment (quoteFree_int roomId)
    (roomTableSelect_query roomId) session.connection).2.perm
  rw [Argument.int_value] at selected
  have isRoom := List.perm_singleton.mp
    (selected.trans (List.Perm.of_eq (only.filter_eq consistent.keyed)))
  have isQuery : (roomListTableSelect (environment.engine.columnInt (room.column 0))).query
      layout.schema = some ⟨.roomListTable,
        some (2, .integer (BitVec.ofInt 32 room.rowid).toInt), none⟩ := by
    rw [roomListTableSelect_query, columnInt_rowid]
  rw [roomDeviceListSearch_of_faultless faultless, roomDevices, isRoom, List.flatMap_singleton]
  exact (flatMap_selectedRows_perm environment (by decide) (Or.inl rfl) (quoteFree_int _) isQuery
    consistent.linked).map _

theorem sceneDeviceListSearch_linked (faultless : environment.Faultless) (sceneId : uint16)
    {session : Session TableName} (linked : Linked session.connection) :
    (sceneDeviceListSearch environment sceneId session).1.2.Perm
      ((linkedDevices .sceneDeviceTable 1 2 sceneId.toNat session).map
        (deviceOfRow environment.engine)) := by
  let engine := environment.engine
  have deviceLoop : ∀ link : Row, Continues session.connection
      (appendTurn environment (deviceOfRow engine))
      fun row list => list ++ [deviceOfRow engine row] :=
    fun _ => appendTurn_continues faultless session.connection (deviceOfRow engine)
  have linkLoop := fun start : Row => selectLoop_continues faultless
    (fun link => quoteFree_int (engine.columnInt (link.column 2)))
    (fun link => deviceTableSelect_query (engine.columnInt (link.column 2))) deviceLoop true
  have whole := selectLoop_continues faultless
    (fun _ : Row => quoteFree_int (sceneId.setWidth 32))
    (fun _ => sceneDeviceListSelect_query sceneId) linkLoop true
  have done := (whole ⟨0, fun _ => .null⟩ [] session rfl).1
  simp only [foldl_append_singleton, foldl_flatMap_append, List.nil_append] at done
  have isQuery : (sceneDeviceListSelect sceneId).query layout.schema =
      some ⟨.sceneDeviceTable, some (1, .integer sceneId.toNat), none⟩ := by
    rw [sceneDeviceListSelect_query, promoted_value]
  rw [sceneDeviceListSearch, returned, done]
  exact (flatMap_selectedRows_perm environment (by decide) (Or.inr rfl) (quoteFree_int _) isQuery
    linked).map _

/-- The search with the id of a scene lists the devices that are linked from its key. -/
def ListsDevicesOfScene (environment : Environment layout.schema) (sceneId : uint16)
    (session : Session TableName) : Prop :=
  ∀ scene, OnlyRow .sceneTable 1 (.integer sceneId.toNat) scene session →
    (sceneDeviceListSearch environment sceneId session).1.2.Perm
      ((linkedDevices .sceneDeviceTable 1 2 scene.rowid session).map
        (deviceOfRow environment.engine))

/-- Each device has as many links from the id as from the key of its scene. -/
def LinksAgree (sceneId : uint16) (session : Session TableName) : Prop :=
  ∀ scene, OnlyRow .sceneTable 1 (.integer sceneId.toNat) scene session →
    ∀ device ∈ rowsOf .deviceTable session,
      linkCount .sceneDeviceTable 1 2 sceneId.toNat device session =
        linkCount .sceneDeviceTable 1 2 scene.rowid device session

/-- After every run, whichever of its calls failed, the search by the id gives the
devices of the scene if and only if the links agree. -/
theorem listsDevicesOfScene_iff {reaching : Environment layout.schema}
    (faultless : environment.Faultless) {start : Session TableName} (noRows : NoRows start)
    {operations : List Operation} (safe : ∀ operation ∈ operations, operation.Safe)
    (sceneId : uint16) :
    ListsDevicesOfScene environment sceneId (performed reaching start operations) ↔
      LinksAgree sceneId (performed reaching start operations) := by
  have consistent := @consistent_performed _ reaching _ noRows _ safe
  refine forall₂_congr fun scene _ => ?_
  rw [(sceneDeviceListSearch_linked faultless sceneId consistent.linked).congr_left _]
  exact linkedDevices_perm_iff environment.engine consistent (by decide) (Or.inr rfl) _ _

end Searches

/-! ## A scene with a later id -/

/-- A scene with the id is the first of its table, and a device is linked to it. -/
def lampOfScene (sceneId : uint16) : List Operation :=
  let scene : SceneTable := ⟨1, sceneId, "8:00".toList, 1, 0⟩
  let device : DeviceTable := { deviceAt "fd00::1" with index := 1 }
  [.sceneTableAddRecord scene, .deviceTableAddRecord device,
    .sceneDeviceTableAddRecord ⟨0, scene, device⟩]

theorem lampOfScene_safe (sceneId : uint16) :
    ∀ operation ∈ lampOfScene sceneId, operation.Safe := by
  intro operation member
  simp only [lampOfScene, List.mem_cons, List.not_mem_nil, or_false] at member
  rcases member with rfl | rfl | rfl
  · exact sceneTableAddRecord_safe (show '\'' ∉ cString "8:00".toList by decide)
      (show (cString "8:00".toList).length < 900 by decide)
  · exact deviceTableAddRecord_safe (by decide) (by decide)
  · exact sceneDeviceTableAddRecord_safe _

theorem listsDevicesOfScene_iff_first :
    ListsDevicesOfScene (Environment.plain Layout.shipped.schema) 1
        (performed (Environment.plain Layout.shipped.schema) Session.empty (lampOfScene 1)) ↔
      LinksAgree 1
        (performed (Environment.plain Layout.shipped.schema) Session.empty (lampOfScene 1)) :=
  listsDevicesOfScene_iff Environment.plain_faultless (fun _ => ⟨rfl, Int.le_refl 0⟩)
    (lampOfScene_safe 1) 1

theorem not_listsDevicesOfScene {layout : Layout} {environment : Environment layout.schema}
    {sceneId : uint16} {session : Session TableName}
    (scenes : (rowsOf .sceneTable session).map (fun row => (row.rowid, row.column 1)) =
      [(1, .integer sceneId.toNat)])
    (one : (linkedDevices .sceneDeviceTable 1 2 1 session).length = 1)
    (none : (sceneDeviceListSearch environment sceneId session).1.2.length = 0) :
    ¬ListsDevicesOfScene environment sceneId session := by
  intro lists
  obtain ⟨scene, isScene, same⟩ := List.map_eq_singleton_iff.mp scenes
  obtain ⟨isKey, isId⟩ := Prod.mk.inj same
  have only : OnlyRow .sceneTable 1 (.integer sceneId.toNat) scene session := by
    refine ⟨?_, isId, fun other member _ => ?_⟩
    · rw [isScene]
      exact List.mem_singleton_self scene
    · rw [isScene] at member
      exact List.mem_singleton.mp member
  have linked := (lists scene only).length_eq
  rw [none, isKey, List.length_map, one] at linked
  cases linked

/-- The scene 5 has a device that the search for 5 does not list. -/
theorem listsDevicesOfScene_fails :
    (∀ operation ∈ lampOfScene 5, operation.Safe) ∧
      ¬ListsDevicesOfScene (Environment.plain Layout.shipped.schema) 5
        (performed (Environment.plain Layout.shipped.schema) Session.empty (lampOfScene 5)) :=
  ⟨lampOfScene_safe 5,
    not_listsDevicesOfScene (by decide +kernel) (by decide +kernel) (by decide +kernel)⟩

end StudyDemo.Sqlite
