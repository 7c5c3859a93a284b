import StudyDemo.Sqlite.RowIndex

/-! # Devices of a profile

The devices of a profile can be found through its scenes, or searched for directly.
The direct search looks the pairs of scenes and devices up by their own key, where
they should be looked up by the scene. -/

namespace StudyDemo.Sqlite

open Sql Execution

/-! ## The list of devices -/

/-- A device with this address is in the list. -/
def Lists (list : List DeviceTable) (address : Text) : Prop :=
  ∃ device ∈ list, cString device.deviceIpv6 = address

section Addresses

variable {layout : Layout} (engine : Engine layout.schema)

def addressOf (row : Row) : Text := cString (engine.columnText (row.column 5))

/-- What `newAddressTurn` does with a row. -/
def addNew (row : Row) (list : List DeviceTable) : List DeviceTable :=
  if list.any fun listed =>
      decide (cString listed.deviceIpv6 = cString (deviceOfRow engine row).deviceIpv6) then
    list
  else
    list ++ [deviceOfRow engine row]

theorem lists_addNew (row : Row) (list : List DeviceTable) (address : Text) :
    Lists (addNew engine row list) address ↔
      Lists list address ∨ addressOf engine row = address := by
  have isAddress : cString (deviceOfRow engine row).deviceIpv6 = addressOf engine row :=
    cString_memcpy_zeros _ _
  rw [addNew, isAddress]
  split_ifs with listed
  · obtain ⟨device, member, same⟩ := List.any_eq_true.mp listed
    constructor
    · exact Or.inl
    · rintro (already | rfl)
      · exact already
      · exact ⟨device, member, of_decide_eq_true same⟩
  · constructor
    · rintro ⟨device, member, same⟩
      rcases List.mem_append.mp member with already | new
      · exact Or.inl ⟨device, already, same⟩
      · rw [List.mem_singleton.mp new, isAddress] at same
        exact Or.inr same
    · rintro (⟨device, member, same⟩ | same)
      · exact ⟨device, List.mem_append_left _ member, same⟩
      · exact ⟨_, List.mem_append_right _ (List.mem_singleton_self _), isAddress.trans same⟩

theorem lists_foldl {next : Row → List DeviceTable → List DeviceTable} {Adds : Row → Text → Prop}
    (each : ∀ row list address,
      Lists (next row list) address ↔ Lists list address ∨ Adds row address)
    (rows : List Row) (list : List DeviceTable) (address : Text) :
    Lists (rows.foldl (fun list row => next row list) list) address ↔
      Lists list address ∨ ∃ row ∈ rows, Adds row address := by
  induction rows generalizing list with
  | nil => simp
  | cons row rows induction =>
      rw [List.foldl_cons, induction, each, List.exists_mem_cons_iff, or_assoc]

end Addresses

section Searches

variable {layout : Layout} {environment : Environment layout.schema}

theorem newAddressTurn_continues (faultless : environment.Faultless)
    (connection : Connection TableName) :
    Continues connection (newAddressTurn environment) (addNew environment.engine) := by
  intro row list session unchanged
  have memory : (environment.malloc session).1 = true := faultless _
  rw [newAddressTurn, if_pos memory, addNew]
  split_ifs
  · exact ⟨rfl, unchanged⟩
  · exact ⟨rfl, unchanged⟩

variable (environment) in
/-- The rows of the device table that `ProfileDeviceListSearch` reaches, in the order of
its nested loops. -/
def reachedDevices (profileId : uint16) (connection : Connection TableName) : List Row :=
  let engine := environment.engine
  (selectedRows environment (profileTableSelect profileId) connection).flatMap fun profile =>
    (selectedRows environment
      (profileListTableSelect (engine.columnInt (profile.column 0))) connection).flatMap fun entry =>
        (selectedRows environment
          (sceneDeviceTableSelect (engine.columnInt (entry.column 1))) connection).flatMap fun pair =>
            selectedRows environment
              (deviceTableSelect (engine.columnInt (pair.column 2))) connection

theorem profileDeviceListSearch_of_faultless (faultless : environment.Faultless)
    (profileId : uint16) (session : Session TableName) :
    (profileDeviceListSearch environment profileId session).1 =
      (.success, (reachedDevices environment profileId session.connection).foldl
        (fun list device => addNew environment.engine device list) []) := by
  let engine := environment.engine
  let connection := session.connection
  have deviceLoop : ∀ pair : Row, Continues connection (newAddressTurn environment)
      (addNew engine) := fun _ => newAddressTurn_continues faultless connection
  have pairLoop := fun entry : Row => selectLoop_continues faultless
    (fun pair => quoteFree_int (engine.columnInt (pair.column 2)))
    (fun pair => deviceTableSelect_query (engine.columnInt (pair.column 2))) deviceLoop true
  have entryLoop := fun profile : Row => selectLoop_continues faultless
    (fun entry => quoteFree_int (engine.columnInt (entry.column 1)))
    (fun entry => sceneDeviceTableSelect_query (engine.columnInt (entry.column 1))) pairLoop true
  have profileLoop := fun start : Row => selectLoop_continues faultless
    (fun profile => quoteFree_int (engine.columnInt (profile.column 0)))
    (fun profile => profileListTableSelect_query (engine.columnInt (profile.column 0)))
    entryLoop true
  have whole := selectLoop_continues faultless
    (fun _ : Row => quoteFree_int (profileId.setWidth 32))
    (fun _ => profileTableSelect_query profileId) profileLoop true
  have done := (whole ⟨0, fun _ => .null⟩ [] session rfl).1
  rw [profileDeviceListSearch, returned, done, reachedDevices]
  simp only [List.foldl_flatMap]
  rfl

theorem lists_profileDeviceListSearch (faultless : environment.Faultless) (profileId : uint16)
    (session : Session TableName) (address : Text) :
    Lists (profileDeviceListSearch environment profileId session).1.2 address ↔
      ∃ profile ∈ selectedRows environment (profileTableSelect profileId) session.connection,
      ∃ entry ∈ selectedRows environment (profileListTableSelect
        (environment.engine.columnInt (profile.column 0))) session.connection,
      ∃ pair ∈ selectedRows environment (sceneDeviceTableSelect
        (environment.engine.columnInt (entry.column 1))) session.connection,
      ∃ device ∈ selectedRows environment (deviceTableSelect
        (environment.engine.columnInt (pair.column 2))) session.connection,
        addressOf environment.engine device = address := by
  have none : ¬Lists [] address := by
    rintro ⟨device, member, -⟩
    cases member
  rw [profileDeviceListSearch_of_faultless faultless,
    lists_foldl (lists_addNew environment.engine), or_iff_right none, reachedDevices]
  simp only [List.mem_flatMap]
  constructor
  · rintro ⟨device, ⟨profile, isProfile, entry, isEntry, pair, isPair, isDevice⟩, same⟩
    exact ⟨profile, isProfile, entry, isEntry, pair, isPair, device, isDevice, same⟩
  · rintro ⟨profile, isProfile, entry, isEntry, pair, isPair, device, isDevice, same⟩
    exact ⟨device, ⟨profile, isProfile, entry, isEntry, pair, isPair, isDevice⟩, same⟩

theorem profileTableSearchOne_of_selected (faultless : environment.Faultless)
    {profileData : ProfileTable} {session : Session TableName} {profile : Row}
    (only : selectedRows environment (profileTableSelect profileData.profileId)
      session.connection = [profile]) :
    (profileTableSearchOne environment profileData session).1.1 = .success ∧
      (profileTableSearchOne environment profileData session).1.2.index =
        (environment.engine.columnInt (profile.column 0)).setWidth 16 ∧
      (profileTableSearchOne environment profileData session).2.connection =
        session.connection := by
  have prepared := prepare_of_faultless faultless
    (quoteFree_int (profileData.profileId.setWidth 32))
    (profileTableSelect_query profileData.profileId) session
  have after := Environment.prepare_connection environment
    (profileTableSelect profileData.profileId).text session
  have turn : ∀ found middle, ∃ copied : ProfileTable,
      copied.index = (environment.engine.columnInt (profile.column 0)).setWidth 16 ∧
      profileTableSearchOneTurn environment profile found middle =
        (.ok (found.1 + 1, copied), (environment.malloc middle).2) := by
    intro found middle
    have memory : (environment.malloc middle).1 = true := faultless _
    rw [profileTableSearchOneTurn, if_pos memory]
    exact ⟨_, rfl, rfl⟩
  rw [profileTableSearchOne, prepared, only]
  dsimp only
  rw [Environment.forRows, if_pos (faultless _)]
  obtain ⟨copied, isIndex, result⟩ := turn (0, profileData)
    (environment.prepare (profileTableSelect profileData.profileId).text session).2.called
  rw [result]
  exact ⟨rfl, isIndex, after⟩

theorem profileSceneListSearch_of_only (faultless : environment.Faultless) {profileId : uint16}
    {session : Session TableName} {profile : Row}
    (only : selectedRows environment (profileTableSelect profileId) session.connection =
      [profile]) :
    (profileSceneListSearch environment profileId session).1.2 =
      ((selectedRows environment (profileListTableSelect
          (((environment.engine.columnInt (profile.column 0)).setWidth 16).setWidth 32))
        session.connection).flatMap fun entry =>
          selectedRows environment (sceneTableSelect
            (environment.engine.columnInt (entry.column 1))) session.connection).map
        (sceneOfRow environment.engine) := by
  let engine := environment.engine
  let connection := session.connection
  obtain ⟨-, index, after⟩ := @profileTableSearchOne_of_selected _ _ faultless
    (zeroedProfile profileId) _ _ only
  have sceneLoop : ∀ entry : Row, Continues connection
      (appendTurn environment (sceneOfRow engine))
      fun row list => list ++ [sceneOfRow engine row] :=
    fun _ => appendTurn_continues faultless connection (sceneOfRow engine)
  have entryLoop := fun start : Row => selectLoop_continues faultless
    (fun entry => quoteFree_int (engine.columnInt (entry.column 1)))
    (fun entry => sceneTableSelect_query (engine.columnInt (entry.column 1))) sceneLoop true
  have whole := selectLoop_continues faultless
    (fun _ : Row => quoteFree_int (((engine.columnInt (profile.column 0)).setWidth 16).setWidth 32))
    (fun _ => profileListTableSelect_query _) entryLoop false
  have done := (whole ⟨0, fun _ => .null⟩ []
    (profileTableSearchOne environment (zeroedProfile profileId) session).2 after).1
  simp only [foldl_append_singleton, foldl_flatMap_append, List.nil_append] at done
  rw [profileSceneListSearch, returned, index, done]

end Searches

/-! ## Pairs -/

/-- An entry of a profile and a pair name the scene with this key. -/
def Referenced (connection : Connection TableName) (scene : Int) : Prop :=
  (∃ entry ∈ (connection.tables .profileListTable).rows, entry.column 1 = .integer scene) ∧
    ∃ pair ∈ (connection.tables .sceneDeviceTable).rows, pair.column 1 = .integer scene

def HasScene (connection : Connection TableName) (scene : Int) : Prop :=
  ∃ row ∈ (connection.tables .sceneTable).rows, row.rowid = scene

/-- Each pair has the key of its scene, the scenes that matter exist, and the keys of
profiles fit `Index`. -/
structure Paired (connection : Connection TableName) : Prop where
  keys : ∀ pair ∈ (connection.tables .sceneDeviceTable).rows, pair.column 1 = .integer pair.rowid
  scenes : ∀ scene, Referenced connection scene → HasScene connection scene
  profiles : ∀ profile ∈ (connection.tables .profileTable).rows, profile.rowid < indexLimit

/-- The id is held by exactly one row. -/
def OneProfile (profileId : uint16) (session : Session TableName) : Prop :=
  ((rowsOf .profileTable session).filter
    (·.satisfies (some (1, (promoted profileId).value)))).length = 1

section Routes

variable {layout : Layout} {environment : Environment layout.schema}

/-- The direct search lists the addresses of the devices that are paired with the
scenes of the profile. -/
def RoutesAgree (environment : Environment layout.schema) (profileId : uint16)
    (session : Session TableName) : Prop :=
  ∀ address, Lists (profileDeviceListSearch environment profileId session).1.2 address ↔
    ∃ device ∈ rowsOf .deviceTable session, addressOf environment.engine device = address ∧
      ∃ pair ∈ rowsOf .sceneDeviceTable session, pair.column 2 = .integer device.rowid ∧
        ∃ scene ∈ (profileSceneListSearch environment profileId session).1.2,
          pair.column 1 = .integer scene.index.toNat

variable (environment) in
theorem selectedRows_of_one {profileId : uint16} {session : Session TableName}
    (one : OneProfile profileId session) :
    ∃ profile ∈ rowsOf .profileTable session,
      selectedRows environment (profileTableSelect profileId) session.connection = [profile] := by
  obtain ⟨profile, only⟩ := List.length_eq_one_iff.mp one
  have answers := (prepare_selectedRows environment (quoteFree_int (profileId.setWidth 32))
    (profileTableSelect_query profileId) session.connection).2.perm
  refine ⟨profile, ?_, List.perm_singleton.mp (answers.trans (List.Perm.of_eq only))⟩
  have member : profile ∈ (rowsOf .profileTable session).filter _ :=
    only ▸ List.mem_singleton_self profile
  exact List.mem_of_mem_filter member

theorem profileKey_values (engine : Engine layout.schema) {profile : Row}
    (positive : 1 ≤ profile.rowid) (small : profile.rowid < indexLimit) :
    (Argument.int (engine.columnInt (profile.column 0))).value = .integer profile.rowid ∧
      (Argument.int (((engine.columnInt (profile.column 0)).setWidth 16).setWidth 32)).value =
        .integer profile.rowid := by
  have isKey : profile.column 0 = .integer profile.rowid := rfl
  rw [indexLimit] at small
  obtain ⟨key, isNat⟩ := Int.eq_ofNat_of_zero_le (show 0 ≤ profile.rowid by omega)
  rw [isKey, engine.columnInt_integer, isNat]
  rw [isNat] at small
  constructor
  · rw [Argument.int_value, BitVec.toInt_ofInt]
    exact congrArg Value.integer (Int.bmod_eq_of_le (by omega) (by omega))
  · have value := promoted_value ((BitVec.ofInt 32 (key : Int)).setWidth 16)
    rw [promoted] at value
    rw [value, BitVec.toNat_setWidth, BitVec.toNat_ofInt]
    congr 1
    omega

theorem satisfies_link_iff {link row : Row} {position : Nat}
    (isIndex : IsIndex (link.column position)) :
    row.satisfies (some (0,
        (Argument.int (environment.engine.columnInt (link.column position))).value)) = true ↔
      link.column position = .integer row.rowid := by
  rw [columnInt_isIndex environment isIndex]
  exact decide_eq_true_iff.trans eq_comm

theorem mem_profileScenes (faultless : environment.Faultless) {profileId : uint16}
    {session : Session TableName} (linked : Linked session.connection) {profile : Row}
    (only : selectedRows environment (profileTableSelect profileId) session.connection =
      [profile])
    (positive : 1 ≤ profile.rowid) (small : profile.rowid < indexLimit) (value : Value) :
    (∃ scene ∈ (profileSceneListSearch environment profileId session).1.2,
        value = .integer scene.index.toNat) ↔
      ∃ entry ∈ rowsOf .profileListTable session, entry.column 2 = .integer profile.rowid ∧
        entry.column 1 = value ∧
        ∃ scene ∈ rowsOf .sceneTable session, value = .integer scene.rowid := by
  have index : ∀ scene : Row, ∀ key : uint16, scene.rowid = key.toNat →
      (sceneOfRow environment.engine scene).index.toNat = key.toNat := by
    intro scene key isKey
    have isColumn : scene.column 0 = .integer scene.rowid := rfl
    have bound := key.isLt
    dsimp only [sceneOfRow]
    rw [isColumn, environment.engine.columnInt_integer, isKey, BitVec.toNat_setWidth,
      BitVec.toNat_ofInt]
    omega
  rw [profileSceneListSearch_of_only faultless only]
  simp only [List.mem_map, List.mem_flatMap, mem_selectedRows (quoteFree_int _)
    (profileListTableSelect_query _), mem_selectedRows (quoteFree_int _) (sceneTableSelect_query _),
    (profileKey_values environment.engine positive small).2]
  constructor
  · rintro ⟨listed, ⟨scene, ⟨entry, ⟨entryMember, isEntry⟩, sceneMember, isScene⟩, rfl⟩, rfl⟩
    have isIndex := (linked .profileListTable (by decide) entry entryMember).1
    rw [satisfies_link_iff isIndex] at isScene
    obtain ⟨key, isKey⟩ := isIndex
    have isRowid := Value.integer.inj (isKey.symm.trans isScene)
    refine ⟨entry, entryMember, of_decide_eq_true isEntry, ?_, scene, sceneMember, ?_⟩
    · rw [index scene key isRowid.symm, isKey]
    · rw [index scene key isRowid.symm, isRowid]
  · rintro ⟨entry, entryMember, isEntry, rfl, scene, sceneMember, isScene⟩
    have isIndex := (linked .profileListTable (by decide) entry entryMember).1
    refine ⟨_, ⟨scene, ⟨entry, ⟨entryMember, decide_eq_true isEntry⟩, sceneMember,
      (satisfies_link_iff isIndex).mpr isScene⟩, rfl⟩, ?_⟩
    obtain ⟨key, isKey⟩ := isIndex
    have isRowid := Value.integer.inj (isKey.symm.trans isScene)
    rw [index scene key isRowid.symm, isKey]

theorem Paired.routesAgree (faultless : environment.Faultless) {profileId : uint16}
    {session : Session TableName} (consistent : Consistent session.connection)
    (paired : Paired session.connection) (one : OneProfile profileId session) :
    RoutesAgree environment profileId session := by
  obtain ⟨profile, member, only⟩ := selectedRows_of_one environment one
  have positive := ((consistent.keyed .profileTable).bounds profile member).1
  have small := paired.profiles profile member
  have entries := consistent.linked .profileListTable (by decide)
  have pairs := consistent.linked .sceneDeviceTable (by decide)
  intro address
  rw [lists_profileDeviceListSearch faultless, only]
  simp only [List.mem_singleton, exists_eq_left, mem_selectedRows (quoteFree_int _)
    (profileListTableSelect_query _), mem_selectedRows (quoteFree_int _)
    (sceneDeviceTableSelect_query _), mem_selectedRows (quoteFree_int _)
    (deviceTableSelect_query _), (profileKey_values environment.engine positive small).1,
    mem_profileScenes faultless consistent.linked only positive small]
  constructor
  · rintro ⟨entry, ⟨entryMember, isEntry⟩, pair, ⟨pairMember, isPair⟩, device,
      ⟨deviceMember, isDevice⟩, rfl⟩
    rw [satisfies_link_iff (entries entry entryMember).1] at isPair
    rw [satisfies_link_iff (pairs pair pairMember).2] at isDevice
    have isScene := paired.keys pair pairMember
    obtain ⟨scene, sceneMember, isKey⟩ := paired.scenes pair.rowid
      ⟨⟨entry, entryMember, isPair⟩, ⟨pair, pairMember, isScene⟩⟩
    exact ⟨device, deviceMember, rfl, pair, pairMember, isDevice, entry, entryMember,
      of_decide_eq_true isEntry, isPair.trans isScene.symm, scene, sceneMember, isKey ▸ isScene⟩
  · rintro ⟨device, deviceMember, rfl, pair, pairMember, isDevice, entry, entryMember, isEntry,
      isScene, -⟩
    refine ⟨entry, ⟨entryMember, decide_eq_true isEntry⟩, pair, ⟨pairMember, ?_⟩, device,
      ⟨deviceMember, (satisfies_link_iff (pairs pair pairMember).2).mpr isDevice⟩, rfl⟩
    rw [satisfies_link_iff (entries entry entryMember).1]
    exact isScene.trans (paired.keys pair pairMember)

end Routes

/-! ## What keeps the pairs -/

/-- Nothing names a scene, and no profile has a key, that was not there before. -/
structure NoNewNames (before after : Connection TableName) : Prop where
  pairs : ∀ pair ∈ (after.tables .sceneDeviceTable).rows,
    pair ∈ (before.tables .sceneDeviceTable).rows
  entries : ∀ entry ∈ (after.tables .profileListTable).rows,
    entry ∈ (before.tables .profileListTable).rows
  scenes : ∀ scene, HasScene before scene → HasScene after scene
  profiles : ∀ profile ∈ (after.tables .profileTable).rows,
    ∃ old ∈ (before.tables .profileTable).rows, old.rowid = profile.rowid

theorem Paired.mono {before after : Connection TableName} (paired : Paired before)
    (names : NoNewNames before after) : Paired after := by
  constructor
  · exact fun pair member => paired.keys pair (names.pairs pair member)
  · rintro scene ⟨⟨entry, entryMember, isEntry⟩, pair, pairMember, isPair⟩
    apply names.scenes
    exact paired.scenes scene ⟨⟨entry, names.entries entry entryMember, isEntry⟩,
      ⟨pair, names.pairs pair pairMember, isPair⟩⟩
  · intro profile member
    obtain ⟨old, oldMember, sameKey⟩ := names.profiles profile member
    exact sameKey ▸ paired.profiles old oldMember

/-- The statements that add no name. -/
def AddsNoName : Statement TableName → Prop
  | .insert table _ => table ∉ [.sceneDeviceTable, .profileListTable, .profileTable]
  | .delete table _ => table ≠ .sceneTable
  | .update table _ _ => table ∉ [.sceneDeviceTable, .profileListTable]

section Statements

variable {layout : Layout} {connection : Connection TableName}

theorem update_rowids (table : Table) (field : Sql.Field) (condition : Option Sql.Field)
    (rowid : Int) :
    (∃ row ∈ (table.update field condition).rows, row.rowid = rowid) ↔
      ∃ row ∈ table.rows, row.rowid = rowid := by
  have same : ∀ row : Row,
      (if row.satisfies condition then row.set field else row).rowid = row.rowid := by
    intro row
    split_ifs <;> rfl
  simp only [Table.update, List.mem_map, exists_exists_and_eq_and, same]

theorem AddsNoName.apply {statement : Statement TableName} (adds : AddsNoName statement) :
    NoNewNames connection (statement.apply layout.schema connection) := by
  have other : ∀ {table}, table ≠ statement.table →
      (statement.apply layout.schema connection).tables table = connection.tables table :=
    fun isOther => Statement.apply_tables_of_ne isOther
  cases statement with
  | insert table fields =>
      simp only [AddsNoName, List.mem_cons, List.not_mem_nil, or_false, not_or] at adds
      obtain ⟨noPair, noEntry, noProfile⟩ := adds
      constructor
      · rw [other (Ne.symm noPair)]
        exact fun _ member => member
      · rw [other (Ne.symm noEntry)]
        exact fun _ member => member
      · rintro scene ⟨row, member, isKey⟩
        by_cases isScene : TableName.sceneTable = table
        · subst isScene
          refine ⟨row, ?_, isKey⟩
          rw [Statement.apply_insert_self]
          exact List.mem_append_left _ member
        · exact ⟨row, (other isScene).symm ▸ member, isKey⟩
      · rw [other (Ne.symm noProfile)]
        exact fun profile member => ⟨profile, member, rfl⟩
  | delete table condition =>
      have kept : ∀ {table'} {row : Row},
          row ∈ (((Statement.delete table condition).apply layout.schema connection).tables
            table').rows → row ∈ (connection.tables table').rows := by
        intro table' row member
        by_cases isOwn : table' = table
        · subst isOwn
          rw [Statement.apply_delete_self] at member
          exact List.mem_of_mem_filter member
        · rwa [other isOwn] at member
      refine ⟨fun _ => kept, fun _ => kept, ?_, fun profile member => ⟨profile, kept member, rfl⟩⟩
      rintro scene ⟨row, member, isKey⟩
      exact ⟨row, (other (Ne.symm adds)).symm ▸ member, isKey⟩
  | update table field condition =>
      simp only [AddsNoName, List.mem_cons, List.not_mem_nil, or_false, not_or] at adds
      have rowids : ∀ table' rowid,
          (∃ row ∈ (((Statement.update table field condition).apply layout.schema
            connection).tables table').rows, row.rowid = rowid) ↔
            ∃ row ∈ (connection.tables table').rows, row.rowid = rowid := by
        intro table' rowid
        by_cases isOwn : table' = table
        · subst isOwn
          rw [Statement.apply_update_self]
          exact update_rowids _ _ _ _
        · rw [other isOwn]
      constructor
      · rw [other (Ne.symm adds.1)]
        exact fun _ member => member
      · rw [other (Ne.symm adds.2)]
        exact fun _ member => member
      · exact fun scene => (rowids .sceneTable scene).mpr
      · exact fun profile member => (rowids .profileTable profile.rowid).mp ⟨profile, member, rfl⟩

theorem Paired.name {before after : Connection TableName} (paired : Paired before) {scene : Int}
    (others : ∀ table ≠ TableName.profileListTable, after.tables table = before.tables table)
    (entries : ∀ entry ∈ (after.tables .profileListTable).rows,
      entry.column 1 = .integer scene ∨
        ∃ old ∈ (before.tables .profileListTable).rows, old.column 1 = entry.column 1)
    (known : (∃ pair ∈ (before.tables .sceneDeviceTable).rows, pair.column 1 = .integer scene) →
      HasScene before scene) : Paired after := by
  constructor
  · rw [others .sceneDeviceTable (by decide)]
    exact paired.keys
  · rintro other ⟨⟨entry, member, isEntry⟩, pairs⟩
    rw [HasScene, others .sceneTable (by decide)]
    rw [others .sceneDeviceTable (by decide)] at pairs
    rcases entries entry member with isScene | ⟨old, oldMember, same⟩
    · cases isEntry.symm.trans isScene
      exact known pairs
    · exact paired.scenes other ⟨⟨old, oldMember, same.trans isEntry⟩, pairs⟩
  · rw [others .profileTable (by decide)]
    exact paired.profiles

theorem Paired.deleteScenes (paired : Paired connection) {condition : Option Sql.Field}
    (unneeded : ∀ scene ∈ (connection.tables .sceneTable).rows, scene.satisfies condition = true →
      ¬Referenced connection scene.rowid) :
    Paired ((Statement.delete .sceneTable condition).apply layout.schema connection) := by
  have other : ∀ table ≠ TableName.sceneTable,
      ((Statement.delete .sceneTable condition).apply layout.schema connection).tables table =
        connection.tables table := fun _ isOther => Statement.apply_tables_of_ne isOther
  constructor
  · rw [other .sceneDeviceTable (by decide)]
    exact paired.keys
  · intro scene referenced
    rw [Referenced, other .profileListTable (by decide), other .sceneDeviceTable (by decide)]
      at referenced
    obtain ⟨row, member, isKey⟩ := paired.scenes scene referenced
    refine ⟨row, ?_, isKey⟩
    rw [Statement.apply_delete_self, Table.delete, List.mem_filter, Bool.not_eq_true']
    refine ⟨member, Bool.eq_false_iff.mpr fun deleted => ?_⟩
    exact unneeded row member deleted (isKey ▸ referenced)
  · rw [other .profileTable (by decide)]
    exact paired.profiles

theorem Paired.addPair (paired : Paired connection) {scene device : uint16}
    (sameKey : nextIndex layout connection .sceneDeviceTable = scene.toNat)
    (known : (∃ entry ∈ (connection.tables .profileListTable).rows,
      entry.column 1 = .integer scene.toNat) → HasScene connection scene.toNat) :
    Paired ((Statement.insert .sceneDeviceTable [(1, .integer scene.toNat),
      (2, .integer device.toNat)]).apply layout.schema connection) := by
  have other : ∀ table ≠ TableName.sceneDeviceTable,
      ((Statement.insert .sceneDeviceTable [(1, .integer scene.toNat),
        (2, .integer device.toNat)]).apply layout.schema connection).tables table =
        connection.tables table := fun _ isOther => Statement.apply_tables_of_ne isOther
  have rows : ∀ pair ∈ (((Statement.insert .sceneDeviceTable [(1, .integer scene.toNat),
      (2, .integer device.toNat)]).apply layout.schema connection).tables .sceneDeviceTable).rows,
      pair ∈ (connection.tables .sceneDeviceTable).rows ∨
        pair.rowid = scene.toNat ∧ pair.column 1 = .integer scene.toNat := by
    intro pair member
    rw [Statement.apply_insert_self] at member
    rcases List.mem_append.mp member with old | new
    · exact Or.inl old
    · rw [List.mem_singleton.mp new]
      exact Or.inr ⟨sameKey, rfl⟩
  constructor
  · intro pair member
    rcases rows pair member with old | ⟨isKey, isScene⟩
    · exact paired.keys pair old
    · rw [isScene, isKey]
  · rintro named ⟨entries, pair, member, isNamed⟩
    rw [HasScene, other .sceneTable (by decide)]
    rw [other .profileListTable (by decide)] at entries
    rcases rows pair member with old | ⟨-, isScene⟩
    · exact paired.scenes named ⟨entries, pair, old, isNamed⟩
    · cases isNamed.symm.trans isScene
      exact known entries
  · rw [other .profileTable (by decide)]
    exact paired.profiles

theorem Paired.addProfile (paired : Paired connection) {fields : List Sql.Field}
    (small : nextIndex layout connection .profileTable < indexLimit) :
    Paired ((Statement.insert .profileTable fields).apply layout.schema connection) := by
  have other : ∀ table ≠ TableName.profileTable,
      ((Statement.insert .profileTable fields).apply layout.schema connection).tables table =
        connection.tables table := fun _ isOther => Statement.apply_tables_of_ne isOther
  constructor
  · rw [other .sceneDeviceTable (by decide)]
    exact paired.keys
  · intro scene referenced
    rw [Referenced, other .profileListTable (by decide), other .sceneDeviceTable (by decide)]
      at referenced
    rw [HasScene, other .sceneTable (by decide)]
    exact paired.scenes scene referenced
  · intro profile member
    rw [Statement.apply_insert_self] at member
    rcases List.mem_append.mp member with old | new
    · exact paired.profiles profile old
    · rw [List.mem_singleton.mp new]
      exact small

end Statements

/-! ## Runs -/

/-- The scene of an entry exists, if a pair names it. -/
def NamesScene (session : Session TableName) (scene : uint16) : Prop :=
  (∃ pair ∈ rowsOf .sceneDeviceTable session, pair.column 1 = .integer scene.toNat) →
    HasScene session.connection scene.toNat

/-- What keeps the pairs in step with the scenes: a pair is added for the scene whose
key is the key of the pair; no scene that an entry and a pair name is missing or
deleted; the key of a new profile fits `Index`. -/
def KeepsPairs (layout : Layout) (session : Session TableName) : Operation → Prop
  | .sceneDeviceTableAddRecord sceneDeviceData =>
      nextIndex layout session.connection .sceneDeviceTable =
          sceneDeviceData.sceneData.index.toNat ∧
        ((∃ entry ∈ rowsOf .profileListTable session,
          entry.column 1 = .integer sceneDeviceData.sceneData.index.toNat) →
          HasScene session.connection sceneDeviceData.sceneData.index.toNat)
  | .profileListTableAddRecord profileListData => NamesScene session profileListData.sceneId.index
  | .profileListTableUpdate profileListData _ => NamesScene session profileListData.sceneId.index
  | .sceneTableDelete sceneData =>
      ∀ scene ∈ rowsOf .sceneTable session,
        scene.column 1 = (promoted sceneData.sceneId).value →
          ¬Referenced session.connection scene.rowid
  | .sceneTableClear =>
      ∀ scene ∈ rowsOf .sceneTable session, ¬Referenced session.connection scene.rowid
  | .profileTableAddRecord _ => nextIndex layout session.connection .profileTable < indexLimit
  | _ => True

instance (connection : Connection TableName) (scene : Int) :
    Decidable (Referenced connection scene) := inferInstanceAs (Decidable (_ ∧ _))

instance (connection : Connection TableName) (scene : Int) :
    Decidable (HasScene connection scene) := inferInstanceAs (Decidable (∃ row ∈ _, _))

/-- A safe operation that keeps the pairs. -/
def PairsCondition (layout : Layout) (session : Session TableName) (operation : Operation) :
    Prop :=
  operation.Safe ∧ KeepsPairs layout session operation

section Runs

variable {layout : Layout} {environment : Environment layout.schema}

variable (environment) in
theorem insertRecord_connection_cases {command : Command} {table : TableName}
    {fields : List Sql.Field} (safe : Safe command)
    (isInsert : command.statement layout.schema = some (.insert table fields))
    (session : Session TableName) :
    (insertRecord environment command session).2.connection = session.connection ∨
      (insertRecord environment command session).2.connection =
        (Statement.insert table fields).apply layout.schema session.connection := by
  rw [insertRecord_session]
  rcases runCommand_cases safe isInsert session with ⟨-, ran⟩ | ⟨-, unchanged⟩
  · exact Or.inr (Statement.run_eq_some.mp ran).2.symm
  · exact Or.inl unchanged

theorem perform_paired_of_addsNoName {operation : Operation} (safe : operation.Safe)
    {session : Session TableName}
    (adds : ∀ groupId, ∀ statement ∈ operation.statements groupId, AddsNoName statement)
    (paired : Paired session.connection) :
    Paired (perform environment session operation).connection :=
  perform_invariant Paired safe
    (fun statement member _ holds => holds.mono (adds _ statement member).apply) paired

theorem perform_paired_of_names {operation : Operation} (safe : operation.Safe)
    {session : Session TableName} {scene : uint16} (names : NamesScene session scene)
    (statements : ∀ groupId, ∀ statement ∈ operation.statements groupId,
      (∃ profile : uint16, statement = .insert .profileListTable
        [(1, .integer scene.toNat), (2, .integer profile.toNat)]) ∨
      ∃ condition, statement = .update .profileListTable (1, .integer scene.toNat) condition)
    (paired : Paired session.connection) :
    Paired (perform environment session operation).connection := by
  let Named (connection : Connection TableName) : Prop :=
    (∃ pair ∈ (connection.tables .sceneDeviceTable).rows, pair.column 1 = .integer scene.toNat) →
      HasScene connection scene.toNat
  refine (perform_invariant (fun connection => Paired connection ∧ Named connection) safe ?_
    ⟨paired, names⟩).1
  intro statement member connection holds
  have isEntry : statement.table = .profileListTable := by
    rcases statements _ statement member with ⟨profile, rfl⟩ | ⟨condition, rfl⟩ <;> rfl
  have others : ∀ table ≠ TableName.profileListTable,
      (statement.apply layout.schema connection).tables table = connection.tables table :=
    fun table isOther => Statement.apply_tables_of_ne (isEntry ▸ isOther)
  refine ⟨holds.1.name others ?_ holds.2, ?_⟩
  · intro entry inside
    rcases statements _ statement member with ⟨profile, rfl⟩ | ⟨condition, rfl⟩
    · rw [Statement.apply_insert_self] at inside
      rcases List.mem_append.mp inside with old | new
      · exact Or.inr ⟨entry, old, rfl⟩
      · rw [List.mem_singleton.mp new]
        exact Or.inl rfl
    · rw [Statement.apply_update_self] at inside
      obtain ⟨old, oldMember, rfl⟩ := List.mem_map.mp inside
      split_ifs
      · exact Or.inl rfl
      · exact Or.inr ⟨old, oldMember, rfl⟩
  · dsimp only [Named]
    rw [HasScene, others .sceneTable (by decide), others .sceneDeviceTable (by decide)]
    exact holds.2

theorem perform_paired_of_deletes {operation : Operation} (safe : operation.Safe)
    {session : Session TableName} {condition : Option Sql.Field}
    (statements : ∀ groupId, operation.statements groupId = [.delete .sceneTable condition])
    (unneeded : ∀ scene ∈ rowsOf .sceneTable session, scene.satisfies condition = true →
      ¬Referenced session.connection scene.rowid)
    (paired : Paired session.connection) :
    Paired (perform environment session operation).connection := by
  refine (perform_invariant (fun connection => Paired connection ∧
    ∀ scene ∈ (connection.tables .sceneTable).rows, scene.satisfies condition = true →
      ¬Referenced connection scene.rowid) safe ?_ ⟨paired, unneeded⟩).1
  intro statement member connection holds
  rw [statements] at member
  rw [List.mem_singleton.mp member]
  have others : ∀ table ≠ TableName.sceneTable,
      ((Statement.delete .sceneTable condition).apply layout.schema connection).tables table =
        connection.tables table := fun _ isOther => Statement.apply_tables_of_ne isOther
  refine ⟨holds.1.deleteScenes holds.2, fun scene inside => ?_⟩
  rw [Statement.apply_delete_self] at inside
  rw [Referenced, others .profileListTable (by decide), others .sceneDeviceTable (by decide)]
  exact holds.2 scene (List.mem_of_mem_filter inside)

variable (environment) in
theorem perform_paired {operation : Operation} {session : Session TableName}
    (condition : PairsCondition layout session operation) (paired : Paired session.connection) :
    Paired (perform environment session operation).connection := by
  obtain ⟨safe, keeps⟩ := condition
  have noName := @perform_paired_of_addsNoName _ environment _ safe session
  have one : ∀ only : Statement TableName, AddsNoName only →
      (∀ groupId, operation.statements groupId = [only]) →
      Paired (perform environment session operation).connection := by
    intro only adds statements
    refine noName (fun groupId statement member => ?_) paired
    rw [statements, List.mem_singleton] at member
    exact member ▸ adds
  have update : ∀ table key columns, table ∉ [.sceneDeviceTable, .profileListTable] →
      (∀ groupId, operation.statements groupId = updateStatements table key columns) →
      Paired (perform environment session operation).connection := by
    intro table key columns isOther statements
    refine noName (fun groupId statement member => ?_) paired
    rw [statements] at member
    obtain ⟨column, -, rfl⟩ := mem_updateStatements member
    exact isOther
  cases operation with
  | deviceTableAddRecord deviceData => exact one _ (by simp [AddsNoName]) fun _ => rfl
  | deviceTableDelete deviceData => exact one _ (by simp [AddsNoName]) fun _ => rfl
  | deviceTableUpdate deviceData maskcode => exact update _ _ _ (by decide) fun _ => rfl
  | deviceTableClear => exact one _ (by simp [AddsNoName]) fun _ => rfl
  | sceneTableAddRecord sceneData => exact one _ (by simp [AddsNoName]) fun _ => rfl
  | sceneTableDelete sceneData =>
      refine perform_paired_of_deletes safe (fun _ => rfl) (fun scene member deleted => ?_) paired
      exact keeps scene member (of_decide_eq_true deleted)
  | sceneTableUpdate sceneData maskcode => exact update _ _ _ (by decide) fun _ => rfl
  | sceneTableClear =>
      exact perform_paired_of_deletes safe (fun _ => rfl) (fun scene member _ => keeps scene member)
        paired
  | sceneDeviceTableAddRecord sceneDeviceData =>
      have inserted := insertRecord_connection_cases environment
        (safe 0 _ (List.mem_singleton_self _))
        (sceneDeviceTableAddCommand_statement sceneDeviceData) session
      rcases inserted with unchanged | added
      · exact unchanged.symm ▸ paired
      · rw [sceneDeviceTableAddCommand, fieldsOf_pair, promoted_value, promoted_value] at added
        exact added.symm ▸ paired.addPair keeps.1 keeps.2
  | sceneDeviceTableDelete sceneDeviceData => exact one _ (by simp [AddsNoName]) fun _ => rfl
  | sceneDeviceTableClear => exact one _ (by simp [AddsNoName]) fun _ => rfl
  | profileTableAddRecord profileData =>
      have inserted := insertRecord_connection_cases environment
        (safe 0 _ (List.mem_singleton_self _))
        (profileTableAddCommand_statement profileData) session
      rcases inserted with unchanged | added
      · exact unchanged.symm ▸ paired
      · exact added.symm ▸ paired.addProfile keeps
  | profileTableDelete profileData => exact one _ (by simp [AddsNoName]) fun _ => rfl
  | profileTableUpdate profileData maskcode => exact update _ _ _ (by decide) fun _ => rfl
  | profileTableClear => exact one _ (by simp [AddsNoName]) fun _ => rfl
  | profileListTableAddRecord profileListData =>
      refine perform_paired_of_names safe keeps (fun groupId statement member => ?_) paired
      refine Or.inl ⟨profileListData.profileId.index, ?_⟩
      rw [List.mem_singleton.mp member, profileListTableAddCommand, fieldsOf_pair, promoted_value,
        promoted_value]
  | profileListTableDelete profileListData => exact one _ (by simp [AddsNoName]) fun _ => rfl
  | profileListTableUpdate profileListData maskcode =>
      refine perform_paired_of_names safe keeps (fun groupId statement member => Or.inr ?_) paired
      obtain ⟨column, isColumn, rfl⟩ := mem_updateStatements member
      rw [List.mem_singleton.mp isColumn, promoted_value]
      exact ⟨_, rfl⟩
  | profileListTableClear => exact one _ (by simp [AddsNoName]) fun _ => rfl
  | linkageTableAddRecord linkageData => exact one _ (by simp [AddsNoName]) fun _ => rfl
  | linkageTableDelete linkageData => exact one _ (by simp [AddsNoName]) fun _ => rfl
  | linkageTableClear => exact one _ (by simp [AddsNoName]) fun _ => rfl
  | roomTableAddRecord roomData =>
      refine noName (fun groupId statement member => ?_) paired
      rw [List.mem_singleton.mp member]
      simp [AddsNoName]
  | roomTableDelete roomData => exact one _ (by simp [AddsNoName]) fun _ => rfl
  | roomTableUpdate roomData maskcode => exact update _ _ _ (by decide) fun _ => rfl
  | roomTableClear => exact one _ (by simp [AddsNoName]) fun _ => rfl
  | roomListTableAddRecord roomListData => exact one _ (by simp [AddsNoName]) fun _ => rfl
  | roomListTableDelete roomListData => exact one _ (by simp [AddsNoName]) fun _ => rfl
  | roomListTableDeleteUnderDevice roomListData =>
      exact one _ (by simp [AddsNoName]) fun _ => rfl
  | roomListTableUpdate roomListData maskcode => exact update _ _ _ (by decide) fun _ => rfl
  | roomListTableClear => exact one _ (by simp [AddsNoName]) fun _ => rfl

theorem paired_of_noRows {session : Session TableName} (noRows : NoRows session) :
    Paired session.connection := by
  constructor
  · rw [(noRows .sceneDeviceTable).1]
    exact fun _ member => absurd member List.not_mem_nil
  · rintro scene ⟨⟨entry, member, -⟩, -⟩
    rw [(noRows .profileListTable).1] at member
    cases member
  · rw [(noRows .profileTable).1]
    exact fun _ member => absurd member List.not_mem_nil

/-- In every run whose operations keep the pairs, the two routes agree. -/
theorem routesAgree_of_keepsPairs (faultless : environment.Faultless) {start : Session TableName}
    (noRows : NoRows start) {operations : List Operation}
    (each : EachCall (performStep environment) (PairsCondition layout) start operations)
    {profileId : uint16} (one : OneProfile profileId (performed environment start operations)) :
    RoutesAgree environment profileId (performed environment start operations) := by
  have safe : ∀ operation ∈ operations, operation.Safe := by
    intro operation member
    obtain ⟨first, rest, split⟩ := List.append_of_mem member
    exact (each first operation rest split).1
  have paired : Paired (performed environment start operations).connection :=
    invariant_finalState (PairsCondition layout)
      (fun session : Session TableName => Paired session.connection)
      (fun _ _ condition holds => perform_paired environment condition holds) each
      (paired_of_noRows noRows)
  exact paired.routesAgree faultless (consistent_performed noRows safe) one

end Runs

/-! ## Two scenes -/

/-- Two scenes are added, one of them is paired with the first device, and a profile
has that scene. -/
def eveningScene (sceneIndex : uint16) : List Operation :=
  let scene (index sceneId : uint16) : SceneTable := ⟨index, sceneId, "8:00".toList, 1, 0⟩
  let device : DeviceTable := { deviceAt "fd00::1" with index := 1 }
  let profile : ProfileTable := ⟨1, 1, "Evening".toList, [], [], [], [], []⟩
  [.sceneTableAddRecord (scene 0 1), .sceneTableAddRecord (scene 0 2),
    .sceneDeviceTableAddRecord ⟨0, scene sceneIndex 1, device⟩, .profileTableAddRecord profile,
    .profileListTableAddRecord ⟨0, scene sceneIndex 1, profile⟩, .deviceTableAddRecord device]

theorem eveningScene_safe (sceneIndex : uint16) :
    ∀ operation ∈ eveningScene sceneIndex, operation.Safe := by
  intro operation member
  simp only [eveningScene, List.mem_cons, List.not_mem_nil, or_false] at member
  rcases member with rfl | rfl | rfl | rfl | rfl | rfl
  · exact sceneTableAddRecord_safe (by decide) (by decide)
  · exact sceneTableAddRecord_safe (by decide) (by decide)
  · exact sceneDeviceTableAddRecord_safe _
  · exact Operation.safe_of_commands (fun _ => Operation.noConfusion) (by decide +kernel)
  · exact profileListTableAddRecord_safe _
  · exact deviceTableAddRecord_safe (by decide) (by decide)

/-- What the first operations leave in the tables. -/
def eveningTables (sceneIndex : uint16) (count : Nat) : Option (Connection TableName) :=
  (((eveningScene sceneIndex).take count).flatMap (Operation.statements 0)).foldlM
    (fun connection statement => statement.run Layout.shipped.schema connection)
    Session.empty.connection

theorem eveningScene_connection {sceneIndex : uint16} {count : Nat}
    (runs : (eveningTables sceneIndex count).isSome) :
    (performed (Environment.plain Layout.shipped.schema) Session.empty
      ((eveningScene sceneIndex).take count)).connection =
        (eveningTables sceneIndex count).get runs := by
  apply performed_of_runs Environment.plain_faultless
  · intro operation member
    exact eveningScene_safe sceneIndex operation (List.mem_of_mem_take member)
  · intro operation member
    have inside := List.mem_of_mem_take member
    simp only [eveningScene, List.mem_cons, List.not_mem_nil, or_false] at inside
    rcases inside with rfl | rfl | rfl | rfl | rfl | rfl <;> exact TableName.noConfusion
  · exact (Option.some_get runs).symm

theorem eveningScene_oneProfile {sceneIndex : uint16} (runs : (eveningTables sceneIndex 6).isSome)
    (one : ((((eveningTables sceneIndex 6).get runs).tables .profileTable).rows.filter
      (·.satisfies (some (1, (promoted (1 : uint16)).value)))).length = 1) :
    OneProfile 1 (performed (Environment.plain Layout.shipped.schema) Session.empty
      (eveningScene sceneIndex)) := by
  have whole : (eveningScene sceneIndex).take 6 = eveningScene sceneIndex := rfl
  have tables := eveningScene_connection runs
  rw [whole] at tables
  rw [OneProfile, rowsOf, tables]
  exact one

theorem routesAgree_of_keepsPairs_evening :
    RoutesAgree (Environment.plain Layout.shipped.schema) 1
      (performed (Environment.plain Layout.shipped.schema) Session.empty (eveningScene 1)) := by
  have safe := eveningScene_safe 1
  have two := @eveningScene_connection 1 2 (by decide +kernel)
  have three := @eveningScene_connection 1 3 (by decide +kernel)
  have four := @eveningScene_connection 1 4 (by decide +kernel)
  dsimp only [eveningScene, List.take, performed, finalState_cons, finalState_nil] at two three four
  apply routesAgree_of_keepsPairs Environment.plain_faultless (fun _ => ⟨rfl, Int.le_refl 0⟩)
  · refine eachCall_cons.mpr ⟨⟨safe _ (by simp [eveningScene]), trivial⟩, ?_⟩
    refine eachCall_cons.mpr ⟨⟨safe _ (by simp [eveningScene]), trivial⟩, ?_⟩
    refine eachCall_cons.mpr ⟨⟨safe _ (by simp [eveningScene]), ?pair⟩, ?_⟩
    case pair =>
      rw [KeepsPairs, rowsOf, two]
      decide +kernel
    refine eachCall_cons.mpr ⟨⟨safe _ (by simp [eveningScene]), ?profile⟩, ?_⟩
    case profile =>
      rw [KeepsPairs, three]
      decide +kernel
    refine eachCall_cons.mpr ⟨⟨safe _ (by simp [eveningScene]), ?entry⟩, ?_⟩
    case entry =>
      rw [KeepsPairs, NamesScene, rowsOf, four]
      decide +kernel
    refine eachCall_cons.mpr ⟨⟨safe _ (by simp [eveningScene]), trivial⟩, ?_⟩
    exact eachCall_nil _ _ _
  · exact eveningScene_oneProfile (by decide +kernel) (by decide +kernel)

/-- A pair with the key 1 for the scene with the key 2: the direct search misses its
device. -/
theorem routesAgree_fails :
    (∀ operation ∈ eveningScene 2, operation.Safe) ∧
      OneProfile 1 (performed (Environment.plain Layout.shipped.schema) Session.empty
        (eveningScene 2)) ∧
      ¬RoutesAgree (Environment.plain Layout.shipped.schema) 1
        (performed (Environment.plain Layout.shipped.schema) Session.empty (eveningScene 2)) := by
  refine ⟨eveningScene_safe 2, eveningScene_oneProfile (by decide +kernel) (by decide +kernel),
    fun agree => ?_⟩
  have tables := @eveningScene_connection 2 6 (by decide +kernel)
  have whole : (eveningScene 2).take 6 = eveningScene 2 := rfl
  have listed := (agree "fd00::1".toList).mpr (by decide +kernel)
  rw [lists_profileDeviceListSearch Environment.plain_faultless, ← whole, tables] at listed
  revert listed
  decide +kernel

end StudyDemo.Sqlite
