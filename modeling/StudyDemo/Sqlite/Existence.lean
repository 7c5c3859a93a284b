import Mathlib.Data.List.TakeWhile
import StudyDemo.Sqlite.DeviceKeys
import StudyDemo.Sqlite.Lookups

/-! # Whether a record exists

One function asks the database for the rows with a key and counts them in 8 bits, the
other lists the table and compares the keys itself. Both answer whether a row has the
key, unless the count overflows or a key changes when it is read. -/

namespace StudyDemo.Sqlite

open Sql

/-! ## The count of rows -/

section Count

variable {layout : Layout} {environment : Environment layout.schema} {Listed : Type}
  {copy : Listed → Row → Listed}

theorem foldl_count (copy : Listed → Row → Listed) (rows : List Row) (found : uint8 × Listed) :
    (rows.foldl (fun found row => (found.1 + 1, copy found.2 row)) found).1 =
      found.1 + BitVec.ofNat 8 rows.length := by
  induction rows generalizing found with
  | nil => exact (BitVec.add_zero found.1).symm
  | cons row rows induction =>
      rw [List.foldl_cons, induction, List.length_cons, Nat.add_comm, BitVec.ofNat_add,
        BitVec.add_assoc]
      rfl

/-- A loop that copies every row and counts them in 8 bits. -/
def Counts (turn : Row → uint8 × Listed → Session TableName →
      Except Empty (uint8 × Listed) × Session TableName)
    (copy : Listed → Row → Listed) : Prop :=
  ∀ row found session, turn row found session = (.ok (found.1 + 1, copy found.2 row), session)

/-- The count is 0 when the number of rows is a multiple of 256. -/
theorem Counts.forRows (faultless : environment.Faultless)
    {turn : Row → uint8 × Listed → Session TableName →
      Except Empty (uint8 × Listed) × Session TableName}
    (counts : Counts turn copy) (rows : List Row) (start : Listed)
    (session : Session TableName) :
    ∃ found, (environment.forRows turn rows (0, start) session).1 = .ok found ∧
      (found.1 = 0 ↔ 256 ∣ rows.length) := by
  have loop := Environment.forRows_of_forall faultless rows
    (fun row _ found inner (unchanged : inner.connection = session.connection) =>
      ⟨congrArg Prod.fst (counts row found inner),
        (congrArg (fun done => done.2.connection) (counts row found inner)).trans unchanged⟩)
    (0, start) rfl
  refine ⟨_, loop.1, ?_⟩
  have start : (0 : uint8) + BitVec.ofNat 8 rows.length = BitVec.ofNat 8 rows.length :=
    BitVec.zero_add _
  rw [foldl_count, start, ← BitVec.toNat_inj, BitVec.toNat_ofNat]
  exact Nat.dvd_iff_mod_eq_zero.symm

theorem length_selectedRows {command : Command} {query : Query TableName}
    (quoteFree : QuoteFree command.arguments)
    (isQuery : command.query layout.schema = some query) (connection : Connection TableName) :
    (selectedRows environment command connection).length =
      (connection.tables query.table).rows.countP (·.satisfies query.condition) := by
  rw [(prepare_selectedRows environment quoteFree isQuery connection).2.perm.length_eq,
    List.countP_eq_length_filter]

theorem success_iff_of_count {found : uint8} {count : Nat} (isCount : found = 0 ↔ 256 ∣ count) :
    ¬256 ∣ count ↔
      (if found = 0 then SqliteStatus.notFound else SqliteStatus.success) = .success := by
  rw [← isCount]
  split_ifs with zero
  · exact iff_of_false (not_not_intro zero) fun equal => by cases equal
  · exact iff_of_true zero rfl

theorem dataIsExist_success_iff {sameKey : Listed → Bool} {ofRow : Row → Listed}
    {rows : List Row} {found : (SqliteStatus × Option (List Listed)) × Session TableName}
    (listed : found.1 = (.success, some (rows.map ofRow))) :
    (dataIsExist sameKey found).1 = some .success ↔ ∃ row ∈ rows, sameKey (ofRow row) = true := by
  rw [dataIsExist, listed, Option.map_some, Option.some_inj]
  have present : (rows.map ofRow).any sameKey = true ↔ ∃ row ∈ rows, sameKey (ofRow row) = true := by
    rw [List.any_map, List.any_eq_true]
    rfl
  rw [← present]
  split_ifs with isPresent
  · exact iff_of_true rfl isPresent
  · exact iff_of_false (fun equal => by cases equal) isPresent

end Count

/-! ## What the checks promise -/

/-- A row of the table has this value in the column of the key. -/
def HasKey (rows : List Row) (position : Nat) (key : Value) : Prop :=
  ∃ row ∈ rows, row.column position = key

/-- The number of rows with the key is 0 or no multiple of 256, and a row that is read
as the key is there only beside a row that has it. -/
structure KeyCounted (rows : List Row) (position : Nat) (key : Value) (IsRead : Row → Prop) :
    Prop where
  count : HasKey rows position key →
    ¬256 ∣ rows.countP (·.satisfies (some (position, key)))
  read : ∀ row ∈ rows, IsRead row → HasKey rows position key

theorem hasKey_iff (rows : List Row) (position : Nat) (key : Value) :
    HasKey rows position key ↔ rows.countP (·.satisfies (some (position, key))) ≠ 0 := by
  rw [HasKey, ← Nat.pos_iff_ne_zero, List.countP_pos_iff]
  exact exists_congr fun row => and_congr_right fun _ => decide_eq_true_iff.symm

theorem keyCounted_iff {rows : List Row} {position : Nat} {key : Value} {IsRead : Row → Prop}
    {searched listed : Prop}
    (isSearched : searched ↔ ¬256 ∣ rows.countP (·.satisfies (some (position, key))))
    (isListed : listed ↔ ∃ row ∈ rows, IsRead row)
    (reads : ∀ row, row.column position = key → IsRead row) :
    (searched ↔ HasKey rows position key) ∧ (listed ↔ HasKey rows position key) ↔
      KeyCounted rows position key IsRead := by
  have present : HasKey rows position key → listed := by
    rintro ⟨row, member, isKey⟩
    exact isListed.mpr ⟨row, member, reads row isKey⟩
  have counted : searched → HasKey rows position key := by
    intro isPresent
    rw [hasKey_iff]
    intro zero
    apply isSearched.mp isPresent
    rw [zero]
    exact Nat.dvd_zero 256
  constructor
  · rintro ⟨searchAgrees, listAgrees⟩
    exact ⟨fun hasKey => isSearched.mp (searchAgrees.mpr hasKey),
      fun row member isRead => listAgrees.mp (isListed.mpr ⟨row, member, isRead⟩)⟩
  · intro keyCounted
    refine ⟨⟨counted, fun hasKey => isSearched.mpr (keyCounted.count hasKey)⟩, ?_, present⟩
    intro isPresent
    obtain ⟨row, member, isRead⟩ := isListed.mp isPresent
    exact keyCounted.read row member isRead

section Checks

variable {layout : Layout} (environment : Environment layout.schema)

/-- The strings of the scenes fit the arrays they are copied to. -/
def ScenesFit (session : Session TableName) : Prop :=
  ∀ row ∈ rowsOf .sceneTable session,
    (environment.engine.columnText (row.column 2)).length ≤ 30

/-- The same for devices. The address is compared as a string, and must end. -/
def DevicesFit (session : Session TableName) : Prop :=
  ∀ row ∈ devices session,
    (environment.engine.columnText (row.column 2)).length ≤ 1024 ∧
      (environment.engine.columnText (row.column 3)).length ≤ 1024 ∧
      (environment.engine.columnText (row.column 5)).length < 1024 ∧
      (environment.engine.columnText (row.column 12)).length ≤ 2048

def sceneKey (sceneData : SceneTable) : Value := (promoted sceneData.sceneId).value

/-- Both checks are defined and succeed when a scene has the id, and only then. -/
structure SceneChecksAgree (sceneData : SceneTable) (session : Session TableName) : Prop where
  fits : ScenesFit environment session
  agree : (sceneTableSearchOne environment sceneData session).1.1 = .success ↔
    (sceneTableDataIsExist environment sceneData session).1 = some .success
  searchOne : (sceneTableSearchOne environment sceneData session).1.1 = .success ↔
    HasKey (rowsOf .sceneTable session) 1 (sceneKey sceneData)
  dataIsExist : (sceneTableDataIsExist environment sceneData session).1 = some .success ↔
    HasKey (rowsOf .sceneTable session) 1 (sceneKey sceneData)

/-- Both checks are defined and succeed when a device has the address, and only then. -/
structure DeviceChecksAgree (deviceData : DeviceTable) (session : Session TableName) : Prop where
  fits : DevicesFit environment session
  defined : (deviceTableSearchOne environment deviceData session).isSome
  agree : (deviceTableSearchOne environment deviceData session).map (·.1.1) = some .success ↔
    (deviceTableDataIsExist environment deviceData session).1 = some .success
  searchOne : (deviceTableSearchOne environment deviceData session).map (·.1.1) =
      some .success ↔ HasKey (devices session) 5 (addressKey deviceData)
  dataIsExist : (deviceTableDataIsExist environment deviceData session).1 = some .success ↔
    HasKey (devices session) 5 (addressKey deviceData)

/-- The id of the scene is read as this one. -/
def ReadAsScene (sceneData : SceneTable) (row : Row) : Prop :=
  (environment.engine.columnInt (row.column 1)).setWidth 16 = sceneData.sceneId

/-- The address of the device is read as this one. -/
def ReadAsDevice (deviceData : DeviceTable) (row : Row) : Prop :=
  cString (environment.engine.columnText (row.column 5)) = cString deviceData.deviceIpv6

end Checks

/-! ## Scenes -/

section Scenes

variable {layout : Layout} {environment : Environment layout.schema}

theorem quoteFree_promoted {width : Nat} (value : BitVec width) : QuoteFree [promoted value] := by
  intro characters member
  cases List.mem_singleton.mp member

theorem sceneTableSearchOne_success_iff (faultless : environment.Faultless)
    (sceneData : SceneTable) (session : Session TableName) :
    (sceneTableSearchOne environment sceneData session).1.1 = .success ↔
      ¬256 ∣ (rowsOf .sceneTable session).countP
        (·.satisfies (some (1, sceneKey sceneData))) := by
  have prepared := prepare_of_faultless faultless (quoteFree_promoted sceneData.sceneId)
    (sceneTableSearchOneCommand_query sceneData) session
  have counts : Counts (sceneTableSearchOneTurn environment) (copyScene environment.engine) :=
    fun _ _ _ => rfl
  obtain ⟨found, isFound, count⟩ := counts.forRows faultless
    (selectedRows environment (sceneTableSearchOneCommand sceneData) session.connection) sceneData
    (environment.prepare (sceneTableSearchOneCommand sceneData).text session).2
  rw [length_selectedRows (quoteFree_promoted sceneData.sceneId)
    (sceneTableSearchOneCommand_query sceneData)] at count
  rw [sceneTableSearchOne, prepared]
  dsimp only
  rw [isFound]
  exact (success_iff_of_count count).symm

theorem sceneTableDataIsExist_success_iff (faultless : environment.Faultless)
    (sceneData : SceneTable) (session : Session TableName) :
    (sceneTableDataIsExist environment sceneData session).1 = some .success ↔
      ∃ row ∈ rowsOf .sceneTable session, ReadAsScene environment sceneData row := by
  have listed := tableSearch_of_faultless faultless quoteFree_nil sceneTableSearchCommand_query
    session (appendTurn_continues faultless _ (sceneOfRow environment.engine))
  have whole := (@selectedRows_whole layout environment _ _ _ quoteFree_nil
    sceneTableSearchCommand_query session.connection).1
  rw [sceneTableDataIsExist, sceneTableSearch, dataIsExist_success_iff listed]
  simp only [decide_eq_true_eq, whole.mem_iff]
  exact exists_congr fun row => and_congr_right fun _ => eq_comm

theorem sceneChecksAgree_iff (faultless : environment.Faultless) (sceneData : SceneTable)
    (session : Session TableName) :
    SceneChecksAgree environment sceneData session ↔
      ScenesFit environment session ∧
        KeyCounted (rowsOf .sceneTable session) 1 (sceneKey sceneData)
          (ReadAsScene environment sceneData) := by
  have reads : ∀ row : Row, row.column 1 = sceneKey sceneData →
      ReadAsScene environment sceneData row := by
    intro row isKey
    rw [ReadAsScene, isKey, sceneKey, promoted_value]
    exact columnInt_setWidth environment.engine (by decide) sceneData.sceneId
  rw [← keyCounted_iff (sceneTableSearchOne_success_iff faultless sceneData session)
    (sceneTableDataIsExist_success_iff faultless sceneData session) reads]
  constructor
  · intro checks
    exact ⟨checks.fits, checks.searchOne, checks.dataIsExist⟩
  · rintro ⟨fits, searchOne, dataIsExist⟩
    exact ⟨fits, searchOne.trans dataIsExist.symm, searchOne, dataIsExist⟩

end Scenes

/-! ## Devices -/

section Devices

variable {layout : Layout} {environment : Environment layout.schema} {deviceData : DeviceTable}

theorem deviceTableSearchOne_success_iff (faultless : environment.Faultless)
    (noQuote : '\'' ∉ cString deviceData.deviceIpv6)
    (fits : Fits (deviceTableSearchOneCommand deviceData)) (session : Session TableName) :
    (deviceTableSearchOne environment deviceData session).map (·.1.1) = some .success ↔
      ¬256 ∣ (devices session).countP (·.satisfies (some (5, addressKey deviceData))) := by
  have prepared := prepare_of_faultless faultless (quoteFree_address noQuote)
    (deviceTableSearchOneCommand_query deviceData) session
  have counts : Counts (deviceTableSearchOneTurn environment) (copyDevice environment.engine) :=
    fun _ _ _ => rfl
  obtain ⟨found, isFound, count⟩ := counts.forRows faultless
    (selectedRows environment (deviceTableSearchOneCommand deviceData) session.connection)
    deviceData (environment.prepare (deviceTableSearchOneCommand deviceData).text session).2
  rw [length_selectedRows (quoteFree_address noQuote)
    (deviceTableSearchOneCommand_query deviceData)] at count
  rw [deviceTableSearchOne, if_pos fits]
  dsimp only
  rw [prepared]
  dsimp only
  rw [isFound, Option.map_some, Option.some_inj]
  exact (success_iff_of_count count).symm

theorem deviceTableDataIsExist_success_iff (faultless : environment.Faultless)
    (deviceData : DeviceTable) (session : Session TableName) :
    (deviceTableDataIsExist environment deviceData session).1 = some .success ↔
      ∃ row ∈ devices session, ReadAsDevice environment deviceData row := by
  have listed := tableSearch_of_faultless faultless quoteFree_nil deviceTableSearchCommand_query
    session (appendTurn_continues faultless _ (deviceOfRow environment.engine))
  have whole := (@selectedRows_whole layout environment _ _ _ quoteFree_nil
    deviceTableSearchCommand_query session.connection).1
  have isString : ∀ row, cString (deviceOfRow environment.engine row).deviceIpv6 =
      cString (environment.engine.columnText (row.column 5)) :=
    fun row => cString_memcpy_zeros 1024 _
  rw [deviceTableDataIsExist, deviceTableSearch, dataIsExist_success_iff listed]
  simp only [decide_eq_true_eq, whole.mem_iff, isString]
  exact exists_congr fun row => and_congr_right fun _ => eq_comm

theorem cString_cString (characters : Text) :
    cString (cString characters) = cString characters := List.takeWhile_idem

theorem deviceTableSearchOne_isSome_iff (session : Session TableName) :
    (deviceTableSearchOne environment deviceData session).isSome ↔
      Fits (deviceTableSearchOneCommand deviceData) := by
  rw [deviceTableSearchOne]
  split_ifs with fits
  · refine iff_of_true ?_ fits
    dsimp only
    cases (environment.prepare (deviceTableSearchOneCommand deviceData).text session).1 with
    | none => rfl
    | some rows =>
        dsimp only
        cases (environment.forRows (deviceTableSearchOneTurn environment) rows (0, deviceData)
          (environment.prepare (deviceTableSearchOneCommand deviceData).text session).2).1 with
        | error impossible => exact impossible.elim
        | ok found => rfl
  · exact iff_of_false Bool.false_ne_true fits

theorem deviceChecksAgree_iff (faultless : environment.Faultless)
    (noQuote : '\'' ∉ cString deviceData.deviceIpv6) (session : Session TableName) :
    DeviceChecksAgree environment deviceData session ↔
      DevicesFit environment session ∧ Fits (deviceTableSearchOneCommand deviceData) ∧
        KeyCounted (devices session) 5 (addressKey deviceData)
          (ReadAsDevice environment deviceData) := by
  have reads : ∀ row : Row, row.column 5 = addressKey deviceData →
      ReadAsDevice environment deviceData row := by
    intro row isKey
    rw [ReadAsDevice, isKey, addressKey, environment.engine.columnText_text]
    exact cString_cString deviceData.deviceIpv6
  have defined := @deviceTableSearchOne_isSome_iff layout environment deviceData session
  constructor
  · intro checks
    have fits := defined.mp checks.defined
    exact ⟨checks.fits, fits, (keyCounted_iff
      (deviceTableSearchOne_success_iff faultless noQuote fits session)
      (deviceTableDataIsExist_success_iff faultless deviceData session) reads).mp
        ⟨checks.searchOne, checks.dataIsExist⟩⟩
  · rintro ⟨copies, fits, keyCounted⟩
    obtain ⟨searchOne, dataIsExist⟩ := (keyCounted_iff
      (deviceTableSearchOne_success_iff faultless noQuote fits session)
      (deviceTableDataIsExist_success_iff faultless deviceData session) reads).mpr keyCounted
    exact ⟨copies, defined.mpr fits, searchOne.trans dataIsExist.symm, searchOne, dataIsExist⟩

end Devices

/-! ## Both tables -/

/-- The checks agree with the tables when no count overflows and no key changes when it
is read, and only then. -/
theorem existenceChecks_agree_iff {layout : Layout} {environment : Environment layout.schema}
    (faultless : environment.Faultless) (sceneData : SceneTable) {deviceData : DeviceTable}
    (noQuote : '\'' ∉ cString deviceData.deviceIpv6) (session : Session TableName) :
    (SceneChecksAgree environment sceneData session ↔
      ScenesFit environment session ∧
        KeyCounted (rowsOf .sceneTable session) 1 (sceneKey sceneData)
          (ReadAsScene environment sceneData)) ∧
      (DeviceChecksAgree environment deviceData session ↔
        DevicesFit environment session ∧ Fits (deviceTableSearchOneCommand deviceData) ∧
          KeyCounted (devices session) 5 (addressKey deviceData)
            (ReadAsDevice environment deviceData)) :=
  ⟨sceneChecksAgree_iff faultless sceneData session,
    deviceChecksAgree_iff faultless noQuote session⟩

/-- A database with so many scenes of this id. -/
def scenesWithId (id : Int) (count : Nat) : Session TableName where
  connection :=
    { tables := Function.update (fun _ => ⟨[], 0⟩) .sceneTable
        ⟨(List.range count).map fun index => ⟨index + 1, cellsOf [(1, .integer id)]⟩, count⟩
      lastInsertRowid := count }
  calls := 0
  live := 0

theorem existenceChecks_agree_iff_scenes :
    (SceneChecksAgree (Environment.plain Layout.repeating.schema) ⟨0, 1, [], 0, 0⟩
        (scenesWithId 1 256) ↔
      ScenesFit (Environment.plain Layout.repeating.schema) (scenesWithId 1 256) ∧
        KeyCounted (rowsOf .sceneTable (scenesWithId 1 256)) 1 (sceneKey ⟨0, 1, [], 0, 0⟩)
          (ReadAsScene (Environment.plain Layout.repeating.schema) ⟨0, 1, [], 0, 0⟩)) ∧
      (DeviceChecksAgree (Environment.plain Layout.repeating.schema) (deviceAt "fd00::1")
          (scenesWithId 1 256) ↔
        DevicesFit (Environment.plain Layout.repeating.schema) (scenesWithId 1 256) ∧
          Fits (deviceTableSearchOneCommand (deviceAt "fd00::1")) ∧
          KeyCounted (devices (scenesWithId 1 256)) 5 (addressKey (deviceAt "fd00::1"))
            (ReadAsDevice (Environment.plain Layout.repeating.schema) (deviceAt "fd00::1"))) :=
  existenceChecks_agree_iff Environment.plain_faultless _ (by decide) _

/-- The count of 256 scenes is 0 in 8 bits, and the id 65537 is read as 1. -/
theorem existenceChecks_agree_fails :
    ¬SceneChecksAgree (Environment.plain Layout.repeating.schema) ⟨0, 1, [], 0, 0⟩
        (scenesWithId 1 256) ∧
      ¬SceneChecksAgree (Environment.plain Layout.repeating.schema) ⟨0, 1, [], 0, 0⟩
        (scenesWithId 65537 1) := by
  constructor
  · intro checks
    have hasKey : HasKey (rowsOf .sceneTable (scenesWithId 1 256)) 1
        (sceneKey ⟨0, 1, [], 0, 0⟩) := by
      rw [hasKey_iff]
      decide +kernel
    apply (sceneTableSearchOne_success_iff Environment.plain_faultless _ _).mp
      (checks.searchOne.mpr hasKey)
    decide +kernel
  · intro checks
    have isRead : ∃ row ∈ rowsOf .sceneTable (scenesWithId 65537 1),
        ReadAsScene (Environment.plain Layout.repeating.schema) ⟨0, 1, [], 0, 0⟩ row :=
      ⟨_, List.mem_singleton_self _, rfl⟩
    have hasKey := checks.dataIsExist.mp
      ((sceneTableDataIsExist_success_iff Environment.plain_faultless _ _).mpr isRead)
    rw [hasKey_iff] at hasKey
    revert hasKey
    decide +kernel

end StudyDemo.Sqlite
