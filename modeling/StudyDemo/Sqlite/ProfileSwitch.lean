import StudyDemo.Sql.Updates
import StudyDemo.Sqlite.ProfileDevices

/-! # Switching a profile

Switching a profile is said to set its own switch and those of its scenes. Only the
scenes are set, by the keys that the entries of the profile are read as. -/

namespace StudyDemo.Sqlite

open Sql

def sceneTableOnOffCommand (onOff : uint8) (indexnum : uint32) : Command :=
  ⟨["Update Scene_Table ", "set onoff=%d where indexnum=%d"], [promoted onOff, .int indexnum]⟩

set_option maxRecDepth 4000 in
theorem sceneTableOnOffCommand_statement {layout : Layout} (onOff : uint8) (indexnum : uint32) :
    (sceneTableOnOffCommand onOff indexnum).statement layout.schema =
      some (.update .sceneTable (3, (promoted onOff).value)
        (some (0, (Argument.int indexnum).value))) :=
  statement_update "scene_table" "onoff" "indexnum" rfl rfl ⟨rfl, rfl⟩ (by decide) ⟨rfl, rfl⟩

section Switching

variable {layout : Layout} (environment : Environment layout.schema)

/-- One entry of the profile. -/
def onOffTurn (onOff : uint8) (entry : Row) (_ : Unit) (session : Session TableName) :
    Except SqliteStatus Unit × Session TableName :=
  let done := runCommand environment
    (sceneTableOnOffCommand onOff (environment.engine.columnInt (entry.column 1))) session
  (if done.1 then .ok () else .error .sceneTableOnOffError, done.2)

/-- The devices of the profile are freed before its entries are read. -/
def profileTableOnOff (profileData : ProfileTable) (onOff : uint8)
    (session : Session TableName) : (SqliteStatus × ProfileTable) × Session TableName :=
  let found := profileTableSearchOne environment profileData session
  if found.1.1 = .success then
    let profileData := { found.1.2 with profileTableDevices := [] }
    let prepared := environment.prepare
      (profileListTableSelect (profileData.index.setWidth 32)).text found.2
    match prepared.1 with
    | none => ((.findErr, profileData), prepared.2)
    | some rows =>
        let done := environment.forRows (onOffTurn environment onOff) rows () prepared.2
        match done.1 with
        | .error status => ((status, profileData), done.2)
        | .ok _ => ((.success, profileData), done.2.finalize)
  else found

/-! ## What a switch promises -/

/-- Row by row, those that are meant get a value in the column, and nothing else
changes. -/
def ChangesOnly (Meant : Row → Prop) (position : Nat) (Holds : Value → Prop)
    (before after : List Row) : Prop :=
  List.Forall₂ (fun row changed =>
    (Meant row → ∃ value, Holds value ∧ changed = row.set (position, value)) ∧
      (¬Meant row → changed = row)) before after

/-- The switch of a profile is a text, the one of a scene a number. -/
def HoldsOnOff (onOff : uint8) (value : Value) : Prop :=
  value = .text (decimal onOff.toNat) ∨ value = .integer onOff.toNat

def IsProfile (profileId : uint16) (row : Row) : Prop := row.column 1 = .integer profileId.toNat

/-- An entry pairs a scene with a profile of this id. -/
def InProfile (profileId : uint16) (connection : Connection TableName) (scene : Row) : Prop :=
  ∃ profile ∈ (connection.tables .profileTable).rows, IsProfile profileId profile ∧
    ∃ entry ∈ (connection.tables .profileListTable).rows,
      entry.column 2 = .integer profile.rowid ∧ entry.column 1 = .integer scene.rowid

structure Switched (profileId : uint16) (onOff : uint8) (before after : Connection TableName) :
    Prop where
  profile : ChangesOnly (IsProfile profileId) 3 (HoldsOnOff onOff)
    (before.tables .profileTable).rows (after.tables .profileTable).rows
  scenes : ChangesOnly (InProfile profileId before) 3 (· = .integer onOff.toNat)
    (before.tables .sceneTable).rows (after.tables .sceneTable).rows
  others : ∀ table, table ≠ .profileTable → table ≠ .sceneTable →
    after.tables table = before.tables table

/-- The strings of the profile fit the arrays they are copied to. -/
def ProfileFits (profileId : uint16) (session : Session TableName) : Prop :=
  ∀ profile ∈ rowsOf .profileTable session, IsProfile profileId profile →
    (environment.engine.columnText (profile.column 2)).length ≤ 1024 ∧
      (environment.engine.columnText (profile.column 3)).length ≤ 5 ∧
      (environment.engine.columnText (profile.column 4)).length ≤ 10 ∧
      (environment.engine.columnText (profile.column 5)).length ≤ 10 ∧
      (environment.engine.columnText (profile.column 6)).length ≤ 1024

/-- The call is defined, and switches the profile when it succeeds. -/
def SwitchesProfile (profileData : ProfileTable) (onOff : uint8) (session : Session TableName) :
    Prop :=
  ProfileFits environment profileData.profileId session ∧
    ((profileTableOnOff environment profileData onOff session).1.1 = .success →
      Switched profileData.profileId onOff session.connection
        (profileTableOnOff environment profileData onOff session).2.connection)

/-- An entry is read as one of the profile and as naming the scene: the key of the
profile in 16 bits, the one of the scene in 32. -/
def ReadInProfile (profileId : uint16) (connection : Connection TableName) (scene : Row) :
    Prop :=
  ∃ profile ∈ (connection.tables .profileTable).rows, IsProfile profileId profile ∧
    ∃ entry ∈ (connection.tables .profileListTable).rows,
      entry.column 2 = .integer (BitVec.ofInt 16 profile.rowid).toNat ∧
        (environment.engine.columnInt (entry.column 1)).toInt = scene.rowid

/-- The switch of the profile is set already, and the scenes that are set are those of
the profile, but for scenes that are set already. -/
structure SwitchSuffices (profileId : uint16) (onOff : uint8) (session : Session TableName) :
    Prop where
  profile : ∀ profile ∈ rowsOf .profileTable session, IsProfile profileId profile →
    HoldsOnOff onOff (profile.column 3)
  scenes : ∀ scene ∈ rowsOf .sceneTable session,
    (ReadInProfile environment profileId session.connection scene ↔
      InProfile profileId session.connection scene) ∨ scene.column 3 = .integer onOff.toNat

end Switching

/-! ## Changes of rows -/

section Changes

variable {Meant : Row → Prop} {position : Nat} {Holds : Value → Prop} {rows : List Row}

theorem changesOnly_map_iff {change : Row → Row} :
    ChangesOnly Meant position Holds rows (rows.map change) ↔
      ∀ row ∈ rows, (Meant row → ∃ value, Holds value ∧ change row = row.set (position, value)) ∧
        (¬Meant row → change row = row) := by
  rw [ChangesOnly, List.forall₂_map_right_iff, List.forall₂_same]

theorem changesOnly_self_iff (notKey : position ≠ 0) :
    ChangesOnly Meant position Holds rows rows ↔
      ∀ row ∈ rows, Meant row → Holds (row.column position) := by
  rw [ChangesOnly, List.forall₂_same]
  refine forall₂_congr fun row _ => ?_
  constructor
  · rintro ⟨changes, -⟩ meant
    obtain ⟨value, holds, same⟩ := changes meant
    rw [(row.eq_set_iff notKey value).mp same]
    exact holds
  · intro holds
    exact ⟨fun meant => ⟨_, holds meant, (row.eq_set_iff notKey _).mpr rfl⟩, fun _ => rfl⟩

end Changes

/-! ## The loop over the entries -/

section Loop

variable {layout : Layout} {environment : Environment layout.schema}

theorem sceneTableOnOffCommand_safe (onOff : uint8) (indexnum : uint32) :
    Safe (sceneTableOnOffCommand onOff indexnum) := by
  have format : (pieces ((sceneTableOnOffCommand onOff indexnum).format.flatMap
      String.toList)).length = 47 := by rfl
  apply safe_of_pair rfl
  rw [format]
  decide

/-- What the command of an entry says. -/
def onOffStatement (engine : Engine layout.schema) (onOff : uint8) (entry : Row) :
    Statement TableName :=
  .update .sceneTable (3, (promoted onOff).value)
    (some (0, (Argument.int (engine.columnInt (entry.column 1))).value))

/-- The switch of a scene is not a unique column, so setting it cannot fail. -/
theorem onOffStatement_run (engine : Engine layout.schema) (onOff : uint8) (entry : Row)
    (connection : Connection TableName) :
    (onOffStatement engine onOff entry).run layout.schema connection =
      some ((onOffStatement engine onOff entry).apply layout.schema connection) := by
  have untouched : (onOffStatement engine onOff entry).touched layout.schema = [] := by
    rw [onOffStatement, Statement.touched, Layout.schema]
    dsimp only
    split_ifs
    · rfl
    · rfl
  apply Statement.run_eq_some.mpr
  rw [untouched]
  exact ⟨fun _ member => absurd member List.not_mem_nil, rfl⟩

theorem forRows_onOffTurn (faultless : environment.Faultless) (onOff : uint8)
    (entries : List Row) (session : Session TableName) :
    (environment.forRows (onOffTurn environment onOff) entries () session).1 = .ok () ∧
      (environment.forRows (onOffTurn environment onOff) entries () session).2.connection =
        entries.foldl (fun connection entry =>
          (onOffStatement environment.engine onOff entry).apply layout.schema connection)
            session.connection := by
  induction entries generalizing session with
  | nil => exact ⟨rfl, rfl⟩
  | cons entry entries induction =>
      have ran : (onOffStatement environment.engine onOff entry).run layout.schema
          session.called.connection =
            some ((onOffStatement environment.engine onOff entry).apply layout.schema
              session.connection) := onOffStatement_run _ _ _ _
      obtain ⟨success, after⟩ := runCommand_of_run faultless
        (sceneTableOnOffCommand_safe onOff (environment.engine.columnInt (entry.column 1)))
        (sceneTableOnOffCommand_statement onOff _) ran
      have turn : onOffTurn environment onOff entry () session.called =
          (.ok (), (runCommand environment (sceneTableOnOffCommand onOff
            (environment.engine.columnInt (entry.column 1))) session.called).2) := by
        rw [onOffTurn, success]
        rfl
      rw [Environment.forRows, if_pos (faultless _), turn, List.foldl_cons, ← after]
      exact induction _

/-- A scene after the entries were gone through. -/
def switchScene (engine : Engine layout.schema) (onOff : uint8) (entries : List Row)
    (scene : Row) : Row :=
  if entries.any fun entry =>
      scene.satisfies (some (0, (Argument.int (engine.columnInt (entry.column 1))).value)) then
    scene.set (3, (promoted onOff).value)
  else scene

theorem foldl_onOffStatement (engine : Engine layout.schema) (onOff : uint8)
    (entries : List Row) (connection : Connection TableName) :
    let after := entries.foldl (fun connection entry =>
      (onOffStatement engine onOff entry).apply layout.schema connection) connection
    (after.tables .sceneTable).rows =
        (connection.tables .sceneTable).rows.map (switchScene engine onOff entries) ∧
      ∀ table, table ≠ .sceneTable → after.tables table = connection.tables table := by
  induction entries generalizing connection with
  | nil => exact ⟨(List.map_id _).symm, fun _ _ => rfl⟩
  | cons entry entries induction =>
      obtain ⟨scenes, others⟩ := induction
        ((onOffStatement engine onOff entry).apply layout.schema connection)
      refine ⟨?_, fun table isOther => (others table isOther).trans
        (Statement.apply_tables_of_ne isOther)⟩
      rw [List.foldl_cons]
      rw [scenes, onOffStatement, Statement.apply_update_self, Table.update, List.map_map]
      apply List.map_congr_left
      intro scene _
      rw [Function.comp_apply, switchScene, switchScene, List.any_cons]
      by_cases isOwn : scene.satisfies
          (some (0, (Argument.int (engine.columnInt (entry.column 1))).value)) = true
      · rw [if_pos isOwn, isOwn, Bool.true_or, if_pos rfl, scene.set_set]
        exact ite_self _
      · rw [if_neg isOwn, Bool.eq_false_of_not_eq_true isOwn, Bool.false_or]

end Loop

/-! ## The switch -/

section Switch

variable {layout : Layout} {environment : Environment layout.schema}

/-- The entries that are read as those of the profile. -/
def readEntries (environment : Environment layout.schema) (profile : Row)
    (connection : Connection TableName) : List Row :=
  selectedRows environment (profileListTableSelect
    (((environment.engine.columnInt (profile.column 0)).setWidth 16).setWidth 32)) connection

theorem profileTableOnOff_of_selected (faultless : environment.Faultless)
    {profileData : ProfileTable} {session : Session TableName} {profile : Row}
    (only : selectedRows environment (profileTableSelect profileData.profileId)
      session.connection = [profile]) (onOff : uint8) :
    (profileTableOnOff environment profileData onOff session).1.1 = .success ∧
      (profileTableOnOff environment profileData onOff session).2.connection =
        (readEntries environment profile session.connection).foldl (fun connection entry =>
          (onOffStatement environment.engine onOff entry).apply layout.schema connection)
            session.connection := by
  obtain ⟨success, index, unchanged⟩ := profileTableSearchOne_of_selected faultless only
  have prepared := prepare_of_faultless faultless
    (quoteFree_int (((environment.engine.columnInt (profile.column 0)).setWidth 16).setWidth 32))
    (profileListTableSelect_query _)
    (profileTableSearchOne environment profileData session).2
  have after := Environment.prepare_connection environment (profileListTableSelect
    (((environment.engine.columnInt (profile.column 0)).setWidth 16).setWidth 32)).text
    (profileTableSearchOne environment profileData session).2
  have loop := forRows_onOffTurn faultless onOff
    (readEntries environment profile session.connection)
    (environment.prepare (profileListTableSelect
      (((environment.engine.columnInt (profile.column 0)).setWidth 16).setWidth 32)).text
      (profileTableSearchOne environment profileData session).2).2
  rw [after, unchanged] at loop
  rw [unchanged] at prepared
  rw [profileTableOnOff]
  dsimp only
  rw [if_pos success, index, prepared]
  dsimp only
  rw [readEntries] at loop
  rw [loop.1]
  exact ⟨rfl, loop.2⟩

theorem index_value (engine : Engine layout.schema) (profile : Row) :
    (Argument.int (((engine.columnInt (profile.column 0)).setWidth 16).setWidth 32)).value =
      .integer (BitVec.ofInt 16 profile.rowid).toNat := by
  have isKey : profile.column 0 = .integer profile.rowid := rfl
  have narrow : (BitVec.ofInt 32 profile.rowid).setWidth 16 = BitVec.ofInt 16 profile.rowid := by
    apply BitVec.eq_of_toNat_eq
    rw [BitVec.toNat_setWidth, BitVec.toNat_ofInt, BitVec.toNat_ofInt]
    omega
  rw [isKey, engine.columnInt_integer, narrow]
  exact promoted_value _

theorem any_readEntries_iff {profileId : uint16} {session : Session TableName} {profile : Row}
    (isOnly : ∀ row ∈ rowsOf .profileTable session, IsProfile profileId row ↔ row = profile)
    (member : profile ∈ rowsOf .profileTable session) (scene : Row) :
    ((readEntries environment profile session.connection).any fun entry =>
        scene.satisfies
          (some (0, (Argument.int (environment.engine.columnInt (entry.column 1))).value))) =
        true ↔
      ReadInProfile environment profileId session.connection scene := by
  simp only [List.any_eq_true, readEntries, mem_selectedRows (quoteFree_int _)
    (profileListTableSelect_query _), index_value]
  simp only [Argument.int_value]
  constructor
  · rintro ⟨entry, ⟨inside, isEntry⟩, isScene⟩
    have sameKey : Value.integer scene.rowid = .integer _ := of_decide_eq_true isScene
    exact ⟨profile, member, (isOnly profile member).mpr rfl, entry, inside,
      of_decide_eq_true isEntry, (Value.integer.inj sameKey).symm⟩
  · rintro ⟨found, inside, isProfile, entry, entryMember, isEntry, isScene⟩
    cases (isOnly found inside).mp isProfile
    exact ⟨entry, ⟨entryMember, decide_eq_true isEntry⟩,
      decide_eq_true (congrArg Value.integer isScene.symm)⟩

theorem selected_of_one {profileId : uint16} {session : Session TableName}
    (one : OneProfile profileId session) :
    ∃ profile ∈ rowsOf .profileTable session,
      (∀ row ∈ rowsOf .profileTable session, IsProfile profileId row ↔ row = profile) ∧
      selectedRows environment (profileTableSelect profileId) session.connection = [profile] := by
  obtain ⟨profile, member, only⟩ := selectedRows_of_one environment one
  have isOnly : ∀ row ∈ rowsOf .profileTable session,
      IsProfile profileId row ↔ row = profile := by
    intro row inside
    have selected := @mem_selectedRows _ environment _ _ (quoteFree_int (profileId.setWidth 32))
      (profileTableSelect_query profileId) session.connection row
    rw [only, List.mem_singleton] at selected
    rw [selected, IsProfile, ← promoted_value]
    exact decide_eq_true_iff.symm.trans (and_iff_right inside).symm
  exact ⟨profile, member, isOnly, only⟩

theorem switchScene_changes_iff {profileId : uint16} {session : Session TableName}
    {profile : Row} (isOnly : ∀ row ∈ rowsOf .profileTable session,
      IsProfile profileId row ↔ row = profile)
    (member : profile ∈ rowsOf .profileTable session) {onOff : uint8} (scene : Row) :
    let changed := switchScene environment.engine onOff
      (readEntries environment profile session.connection) scene
    ((InProfile profileId session.connection scene →
        ∃ value, value = .integer onOff.toNat ∧ changed = scene.set (3, value)) ∧
      (¬InProfile profileId session.connection scene → changed = scene)) ↔
      ((ReadInProfile environment profileId session.connection scene ↔
        InProfile profileId session.connection scene) ∨
          scene.column 3 = .integer onOff.toNat) := by
  have isRead := @any_readEntries_iff _ environment _ _ _ isOnly member scene
  have isOnOff : (promoted onOff).value = .integer onOff.toNat :=
    promoted_value_of_lt (by decide) _
  have isSet := @Row.eq_set_iff scene 3 (by decide) (.integer onOff.toNat)
  dsimp only
  rw [exists_eq_left, switchScene, isOnOff]
  by_cases read : ReadInProfile environment profileId session.connection scene
  · rw [if_pos (isRead.mpr read), iff_true_left read, eq_comm (b := scene), isSet]
    tauto
  · rw [if_neg (isRead.not.mpr read), iff_false_left read, isSet]
    tauto

theorem profileTableOnOff_of_one (faultless : environment.Faultless) {profileData : ProfileTable}
    {session : Session TableName} (one : OneProfile profileData.profileId session)
    (onOff : uint8) :
    let done := profileTableOnOff environment profileData onOff session
    done.1.1 = .success ∧ (∀ table, table ≠ .sceneTable →
      done.2.connection.tables table = session.connection.tables table) ∧
      ∃ profile ∈ rowsOf .profileTable session, (∀ row ∈ rowsOf .profileTable session,
        IsProfile profileData.profileId row ↔ row = profile) ∧
        (done.2.connection.tables .sceneTable).rows =
          (rowsOf .sceneTable session).map (switchScene environment.engine onOff
            (readEntries environment profile session.connection)) := by
  obtain ⟨profile, member, isOnly, only⟩ := @selected_of_one _ environment _ _ one
  obtain ⟨success, result⟩ := profileTableOnOff_of_selected faultless only onOff
  obtain ⟨scenes, others⟩ := foldl_onOffStatement environment.engine onOff
    (readEntries environment profile session.connection) session.connection
  rw [← result] at scenes others
  exact ⟨success, others, profile, member, isOnly, scenes⟩

/-- The profile is switched when it suffices to set the scenes that are read as its own,
and only then. -/
theorem profileTableOnOff_switches_iff (faultless : environment.Faultless)
    {profileData : ProfileTable} {session : Session TableName}
    (one : OneProfile profileData.profileId session) (onOff : uint8) :
    SwitchesProfile environment profileData onOff session ↔
      ProfileFits environment profileData.profileId session ∧
        SwitchSuffices environment profileData.profileId onOff session := by
  obtain ⟨success, others, profile, member, isOnly, scenes⟩ :=
    profileTableOnOff_of_one faultless one onOff
  refine and_congr_right fun _ => (forall_prop_of_true success).trans ?_
  have profiles := others .profileTable (by decide)
  constructor
  · intro switched
    have profileSwitched := switched.profile
    have scenesSwitched := switched.scenes
    rw [profiles, changesOnly_self_iff (by decide)] at profileSwitched
    rw [scenes, rowsOf, changesOnly_map_iff] at scenesSwitched
    exact ⟨profileSwitched, fun scene inside =>
      (switchScene_changes_iff isOnly member scene).mp (scenesSwitched scene inside)⟩
  · intro enough
    refine ⟨?_, ?_, fun table _ isOther => others table isOther⟩
    · rw [profiles, changesOnly_self_iff (by decide)]
      exact enough.profile
    · rw [scenes, rowsOf, changesOnly_map_iff]
      exact fun scene inside =>
        (switchScene_changes_iff isOnly member scene).mpr (enough.scenes scene inside)

theorem profileTableOnOff_switches_iff_evening :
    let reached := performed (Environment.plain Layout.shipped.schema) Session.empty
      (eveningScene 1)
    SwitchesProfile (Environment.plain Layout.shipped.schema) (zeroedProfile 1) 0 reached ↔
      ProfileFits (Environment.plain Layout.shipped.schema) 1 reached ∧
        SwitchSuffices (Environment.plain Layout.shipped.schema) 1 0 reached :=
  @profileTableOnOff_switches_iff _ _ Environment.plain_faultless (zeroedProfile 1) _
    (eveningScene_oneProfile (by decide +kernel) (by decide +kernel)) 0

/-- A profile that was added without a switch is switched on, and still has none. -/
theorem profileTableOnOff_switches_fails :
    ¬SwitchesProfile (Environment.plain Layout.shipped.schema) (zeroedProfile 1) 1
      (performed (Environment.plain Layout.shipped.schema) Session.empty (eveningScene 1)) := by
  rintro ⟨-, switches⟩
  have one := @eveningScene_oneProfile 1 (by decide +kernel) (by decide +kernel)
  obtain ⟨success, others, -⟩ := @profileTableOnOff_of_one _ _ Environment.plain_faultless
    (zeroedProfile 1) _ one 1
  have switched := (switches success).profile
  rw [others .profileTable (by decide), changesOnly_self_iff (by decide)] at switched
  have tables := @eveningScene_connection 1 6 (by decide +kernel)
  have whole : (eveningScene 1).take 6 = eveningScene 1 := rfl
  rw [whole] at tables
  rw [tables] at switched
  have stored : (((eveningTables 1 6).get (by decide +kernel)).tables .profileTable).rows.map
      (fun row => (row.column 1, row.column 3)) = [(.integer 1, .text [])] := by
    decide +kernel
  obtain ⟨profile, member, same⟩ := List.mem_map.mp
    (stored.symm ▸ List.mem_singleton_self (Value.integer 1, Value.text []))
  obtain ⟨isProfile, isSwitch⟩ := Prod.mk.inj same
  have holds := switched profile member isProfile
  rw [HoldsOnOff, isSwitch] at holds
  revert holds
  decide

end Switch

end StudyDemo.Sqlite
